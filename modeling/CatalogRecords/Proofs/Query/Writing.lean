import CatalogRecords.Proofs.Query.Shape
import CatalogRecords.Proofs.Query.Spelling

/-!
# The tokens of written expressions

The text of an expression is the text of its tokens, with blanks and commas between them. All names
stand in brackets and all literals in quotes, so that the only words are keywords; nothing that the
names and literals hold can be taken for a keyword, a parenthesis or the end of a clause.
-/

namespace CatalogRecords.Query

/-- A keyword or an operator as a token. -/
abbrev TokenKind.word (text : String) : TokenKind := .name text false

/-- The tokens of an operator. -/
def operatorKinds : Option BooleanOperator → List TokenKind
  | none => []
  | some .and => [.word "AND"]
  | some .or => [.word "OR"]
  | some .not => [.word "NOT"]
  | some .andNot => [.word "AND", .word "NOT"]
  | some .orNot => [.word "OR", .word "NOT"]

/-- The tokens of a condition. -/
def Condition.kinds (c : Condition) : List TokenKind :=
  [.name c.field true, .comparator c.comparator, .literal c.literal]

mutual

/-- The tokens of a criterion. -/
def Criterion.kinds : Criterion → List TokenKind
  | .condition op test => operatorKinds op ++ test.kinds
  | .group op members => operatorKinds op ++ .opening :: (criteriaKinds members ++ [.closing])

/-- The tokens of criteria. -/
def criteriaKinds : List Criterion → List TokenKind
  | [] => []
  | c :: cs => c.kinds ++ criteriaKinds cs

end

/-- The tokens of an ordering term. -/
def OrderingTerm.kinds (t : OrderingTerm) : List TokenKind :=
  [.name t.field true, .word (if t.ascending then "ASC" else "DESC")]

/-- The token of a field that is wanted. -/
def selectKind (name : String) : TokenKind := if name == allFields then .star else .name name true

/-- The tokens of the criteria with their keyword, when there are any. -/
def criteriaClauseKinds (members : List Criterion) : List TokenKind :=
  if members.isEmpty then [] else .word "WHERE" :: criteriaKinds members

/-- The tokens of the order with its keyword, when there is one. -/
def orderClauseKinds (terms : List OrderingTerm) : List TokenKind :=
  if terms.isEmpty then [] else .word "ORDER_BY" :: terms.flatMap OrderingTerm.kinds

/-- The tokens of an expression. -/
def SearchExpression.kinds (e : SearchExpression) : List TokenKind :=
  .word "SELECT" :: e.select.map selectKind ++ [.word "FROM", .name e.source true] ++
    criteriaClauseKinds e.criteria.members ++ orderClauseKinds e.orderBy

/-- The expressions that have a text: the document type and all fields are named by names that
brackets can hold, the criteria as a whole have no operator, and no group is empty. -/
structure SearchExpression.IsExpressible (e : SearchExpression) : Prop where
  operator : e.criteria.operator = none
  source_ne : e.source ≠ ""
  filled : allFilled e.criteria.members = true
  source : IsPlainName e.source
  select : ∀ name ∈ e.select, IsPlainName name
  fields : ∀ c ∈ e.criteria.conditions, IsPlainName c.field
  orderBy : ∀ term ∈ e.orderBy, IsPlainName term.field

/-- A blank prolongs no token. -/
theorem breaks_blank (rest : List Char) : Breaks (' ' :: rest) := by
  rintro c ⟨⟩
  decide

/-- A comma prolongs no token. -/
theorem breaks_comma (rest : List Char) : Breaks (',' :: rest) := by
  rintro c ⟨⟩
  decide

/-- The end of the text prolongs no token. -/
theorem breaks_nil : Breaks [] := by
  rintro c ⟨⟩

/-- The keywords and operators are tokens that lexemes make. -/
theorem isWritable_word (text : String)
    (htext : text ∈ ["SELECT", "FROM", "WHERE", "ORDER_BY", "AND", "OR", "NOT", "ASC", "DESC"]) :
    (TokenKind.word text).IsWritable := by
  simp only [List.mem_cons, List.not_mem_nil, or_false] at htext
  rcases htext with rfl | rfl | rfl | rfl | rfl | rfl | rfl | rfl | rfl <;>
    exact ⟨by decide, List.all_eq_true.mp (by decide), by decide⟩

section

variable {chars rest : List Char} {kinds : List TokenKind}

/-- A token with a blank behind it can be put before what is spelled already. -/
theorem Spells.tokenThen (kind : TokenKind) (hkind : kind.IsWritable)
    (h : Spells chars kinds rest) :
    Spells (kind.text.toList ++ ' ' :: chars) (kind :: kinds) rest :=
  (Spells.token kind hkind (.inr (breaks_blank _))).append (h.separator (by decide))

/-- An operator spells its tokens. -/
theorem spells_operatorText (op : Option BooleanOperator) (h : Spells chars kinds rest) :
    Spells ((operatorText op).toList ++ chars) (operatorKinds op ++ kinds) rest := by
  cases op with
  | none => exact h
  | some op =>
    cases op with
    | and =>
      simpa [operatorText, BooleanOperator.text, operatorKinds, TokenKind.text] using
        h.tokenThen (.word "AND") (isWritable_word "AND" (by decide))
    | or =>
      simpa [operatorText, BooleanOperator.text, operatorKinds, TokenKind.text] using
        h.tokenThen (.word "OR") (isWritable_word "OR" (by decide))
    | not =>
      simpa [operatorText, BooleanOperator.text, operatorKinds, TokenKind.text] using
        h.tokenThen (.word "NOT") (isWritable_word "NOT" (by decide))
    | andNot =>
      have hnot := h.tokenThen (.word "NOT") (isWritable_word "NOT" (by decide))
      simpa [operatorText, BooleanOperator.text, operatorKinds, TokenKind.text] using
        hnot.tokenThen (.word "AND") (isWritable_word "AND" (by decide))
    | orNot =>
      have hnot := h.tokenThen (.word "NOT") (isWritable_word "NOT" (by decide))
      simpa [operatorText, BooleanOperator.text, operatorKinds, TokenKind.text] using
        hnot.tokenThen (.word "OR") (isWritable_word "OR" (by decide))

/-- A condition spells its field, its comparator and its literal. -/
theorem Condition.spells_text {c : Condition} (rest : List Char) (hc : IsPlainName c.field) :
    Spells c.text.toList c.kinds rest := by
  have hliteral : Spells (TokenKind.literal c.literal).text.toList [.literal c.literal] rest :=
    Spells.token _ trivial (.inl rfl)
  have hcomparator := hliteral.tokenThen (.comparator c.comparator) trivial
  have hname := hcomparator.tokenThen (.name c.field true) hc
  simpa [Condition.text, bracketName, TokenKind.text, Condition.kinds] using hname

end

mutual

/-- A criterion spells its tokens. -/
theorem Criterion.spells_text : (c : Criterion) →
    (∀ test ∈ c.conditions, IsPlainName test.field) → (rest : List Char) →
    Spells c.text.toList c.kinds rest
  | .condition op test, hfields, rest => by
    have htest := Condition.spells_text rest (hfields test (by simp [Criterion.conditions]))
    simpa [Criterion.text, Criterion.kinds] using spells_operatorText op htest
  | .group op members, hfields, rest => by
    have hmembers := spells_criteriaText members hfields (')' :: rest)
    have hclosing : Spells [')'] [.closing] rest := Spells.token .closing trivial (.inl rfl)
    have hinside := Spells.append hmembers hclosing
    have hopening (rest : List Char) : Spells ['('] [.opening] rest :=
      Spells.token .opening trivial (.inl rfl)
    have hgroup := spells_operatorText op ((hopening _).append hinside)
    simpa [Criterion.text, Criterion.kinds, TokenKind.text] using hgroup

/-- Criteria spell their tokens. -/
theorem spells_criteriaText : (cs : List Criterion) →
    (∀ test ∈ conditionsIn cs, IsPlainName test.field) → (rest : List Char) →
    Spells (criteriaText cs).toList (criteriaKinds cs) rest
  | [], _, _ => Spells.nil
  | [c], hfields, rest => by
    have hc := c.spells_text (fun test h => hfields test (by simp [conditionsIn, h])) rest
    simpa [criteriaText, criteriaKinds] using hc
  | c :: d :: cs, hfields, rest => by
    have hmore := spells_criteriaText (d :: cs)
      (fun test h => hfields test (by rw [conditionsIn]; exact List.mem_append_right _ h)) rest
    have hc := c.spells_text
      (fun test h => hfields test (by rw [conditionsIn]; exact List.mem_append_left _ h))
      (' ' :: ((criteriaText (d :: cs)).toList ++ rest))
    have hboth := hc.append (hmore.separator (c := ' ') (by decide))
    rw [criteriaText, criteriaKinds]
    · simpa using hboth
    · simp

end

/-- An ordering term spells its field and its direction. -/
theorem OrderingTerm.spells_text {t : OrderingTerm} (ht : IsPlainName t.field) {rest : List Char}
    (hrest : Breaks rest) : Spells t.text.toList t.kinds rest := by
  have hdirection := Spells.token _
    (isWritable_word (if t.ascending then "ASC" else "DESC") (by cases t.ascending <;> decide))
    (.inr hrest)
  have hname := hdirection.tokenThen (.name t.field true) ht
  cases hascending : t.ascending <;>
    simpa [OrderingTerm.text, bracketName, TokenKind.text, OrderingTerm.kinds, hascending]
      using hname

/-- A field that is wanted spells its token. -/
theorem spells_selectText {name : String} (hname : IsPlainName name) (rest : List Char) :
    Spells (selectText name).toList [selectKind name] rest := by
  rw [selectText, selectKind]
  split
  · exact Spells.token .star trivial (.inl rfl)
  · have h : Spells _ _ rest := Spells.token (.name name true) hname (.inl rfl)
    simpa [bracketName, TokenKind.text] using h

/-- Items with commas between them spell the tokens of all items. -/
theorem spells_join {α : Type} (text : α → String) (kinds : α → List TokenKind) {items : List α}
    (hitems : ∀ a ∈ items, ∀ rest, Breaks rest → Spells (text a).toList (kinds a) rest)
    {rest : List Char} (hrest : Breaks rest) :
    Spells (Text.join ", " (items.map text)).toList (items.flatMap kinds) rest := by
  induction items with
  | nil => exact Spells.nil
  | cons a items ih =>
    rw [List.forall_mem_cons] at hitems
    cases items with
    | nil => simpa [Text.join] using hitems.1 rest hrest
    | cons b items =>
      have hmore :=
        ((ih hitems.2).separator (c := ' ') (by decide)).separator (c := ',') (by decide)
      have ha := hitems.1 _ (breaks_comma (' ' ::
        ((Text.join ", " ((b :: items).map text)).toList ++ rest)))
      simpa [Text.join, String.intercalate_cons_cons] using ha.append hmore

/-- The order spells its keyword and its terms. -/
theorem spells_orderClause {terms : List OrderingTerm}
    (hterms : ∀ t ∈ terms, IsPlainName t.field) :
    Spells (clauseText " ORDER_BY" (terms.map OrderingTerm.text)).toList
      (orderClauseKinds terms) [] := by
  cases terms with
  | nil => exact Spells.nil
  | cons t terms =>
    have hitems := spells_join OrderingTerm.text OrderingTerm.kinds
      (fun t ht _ hrest => OrderingTerm.spells_text (hterms t ht) hrest) breaks_nil
    have hkeyword := hitems.tokenThen (.word "ORDER_BY") (isWritable_word "ORDER_BY" (by decide))
    simpa [clauseText, orderClauseKinds, TokenKind.text] using
      hkeyword.separator (c := ' ') (by decide)

/-- The criteria spell their keyword and themselves. -/
theorem spells_criteriaClause {members : List Criterion}
    (hfields : ∀ test ∈ conditionsIn members, IsPlainName test.field) (rest : List Char) :
    Spells (if members.isEmpty then "" else " WHERE " ++ criteriaText members).toList
      (criteriaClauseKinds members) rest := by
  cases members with
  | nil => exact Spells.nil
  | cons c cs =>
    have hmembers := spells_criteriaText (c :: cs) hfields rest
    have hkeyword := hmembers.tokenThen (.word "WHERE") (isWritable_word "WHERE" (by decide))
    simpa [criteriaClauseKinds, TokenKind.text] using hkeyword.separator (c := ' ') (by decide)

/-- The document type spells its keyword and its name. -/
theorem spells_sourceClause {source : String} (hsource : IsPlainName source) (rest : List Char) :
    Spells (" FROM " ++ bracketName source).toList [.word "FROM", .name source true] rest := by
  have hname : Spells _ _ rest := Spells.token (.name source true) hsource (.inl rfl)
  have hkeyword := hname.tokenThen (.word "FROM") (isWritable_word "FROM" (by decide))
  simpa [bracketName, TokenKind.text] using hkeyword.separator (c := ' ') (by decide)

/-- The fields that are wanted spell their keyword and themselves. -/
theorem spells_selectClause {names : List String} (hnames : ∀ name ∈ names, IsPlainName name)
    {rest : List Char} (hrest : Breaks rest) :
    Spells ("SELECT" ++ clauseText "" (names.map selectText)).toList
      (.word "SELECT" :: names.map selectKind) rest := by
  cases names with
  | nil => exact Spells.token _ (isWritable_word "SELECT" (by decide)) (.inr hrest)
  | cons name names =>
    have hitems := spells_join selectText (fun name => [selectKind name])
      (fun name hname rest _ => spells_selectText (hnames name hname) rest) hrest
    rw [← List.map_eq_flatMap] at hitems
    have hkeyword := hitems.tokenThen (.word "SELECT") (isWritable_word "SELECT" (by decide))
    simpa [clauseText, TokenKind.text] using hkeyword

/-- The text of an expression spells its tokens. -/
theorem SearchExpression.IsExpressible.spells_text {e : SearchExpression} (he : e.IsExpressible) :
    Spells e.text.toList e.kinds [] := by
  have horder := spells_orderClause he.orderBy
  have hcriteria := (spells_criteriaClause he.fields _).append horder
  have hsource := (spells_sourceClause he.source _).append hcriteria
  have hselect := (spells_selectClause he.select (by simpa using breaks_blank _)).append hsource
  simpa [SearchExpression.text, SearchExpression.kinds] using hselect

end CatalogRecords.Query
