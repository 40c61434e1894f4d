import CatalogRecords.Proofs.Query.Writing

/-!
# Reading the tokens of an expression

The tokens of an expression, read strictly from the first to the last, give the expression back.
The statement for criteria is about a reader in any state between two members of a group: whatever
groups are open and whatever members came before, the tokens of a criterion add this criterion to
the innermost group and leave all else as it was.
-/

namespace CatalogRecords.Query

/-- Reading tokens of these kinds, wherever they start, leads from one state to another. -/
def Reads {σ : Type} (step : σ → Token → Except ParseError σ) (kinds : List TokenKind)
    (s s' : σ) : Prop :=
  ∀ ts : List Token, ts.map Token.kind = kinds → ts.foldlM step s = .ok s'

namespace Reads

variable {σ τ : Type} {step : σ → Token → Except ParseError σ} {kinds more : List TokenKind}
  {s s' s'' : σ}

/-- Without tokens the state stays. -/
theorem nil : Reads step [] s s := by
  intro ts hts
  rw [List.map_eq_nil_iff] at hts
  rw [hts]
  rfl

/-- A step for the first token and the way from there make a way. The state in between may depend
on where the token starts. -/
theorem cons {kind : TokenKind}
    (h : ∀ offset, ∃ s', step s ⟨kind, offset⟩ = .ok s' ∧ Reads step kinds s' s'') :
    Reads step (kind :: kinds) s s'' := by
  intro ts hts
  obtain ⟨⟨_, offset⟩, ts, rfl, rfl, hmore⟩ := List.map_eq_cons_iff.mp hts
  obtain ⟨s', hstep, hrest⟩ := h offset
  rw [List.foldlM_cons, hstep]
  exact hrest ts hmore

/-- A step for the only token is a way. -/
theorem single {kind : TokenKind} (h : ∀ offset, step s ⟨kind, offset⟩ = .ok s') :
    Reads step [kind] s s' :=
  cons fun offset => ⟨s', h offset, nil⟩

/-- Two ways, one after the other, make a way. -/
theorem append (h : Reads step kinds s s') (hmore : Reads step more s' s'') :
    Reads step (kinds ++ more) s s'' := by
  intro ts hts
  obtain ⟨first, second, rfl, hfirst, hsecond⟩ := List.map_eq_append_iff.mp hts
  rw [List.foldlM_append, h first hfirst]
  exact hmore second hsecond

/-- A reader that passes tokens on to another one follows its way. -/
theorem lift (step' : τ → Token → Except ParseError τ) (embed : σ → τ)
    (hstep : ∀ s kind offset, kind ∈ kinds →
      step' (embed s) ⟨kind, offset⟩ = (step s ⟨kind, offset⟩).map embed)
    (h : Reads step kinds s s') : Reads step' kinds (embed s) (embed s') := by
  intro ts hts
  have hfold := h ts hts
  clear h
  induction ts generalizing s kinds with
  | nil =>
    cases hfold
    rfl
  | cons t ts ih =>
    subst hts
    rw [List.foldlM_cons] at hfold ⊢
    rw [hstep s t.kind t.offset (by simp)]
    cases hnext : step s t with
    | error error =>
      rw [hnext] at hfold
      contradiction
    | ok next =>
      rw [hnext] at hfold
      exact ih (fun s kind offset hkind => hstep s kind offset (by simp [hkind])) rfl hfold

end Reads

/-! Criteria. -/

/-- The way of strict reading through the tokens of criteria. -/
abbrev ReadsCriteria := Reads fun r t => CriteriaReader.read .strict t r

section

variable {opened : List OpenGroup} {members : List Criterion}

/-- An operator is kept until what it joins comes. -/
theorem reads_operator (op : Option BooleanOperator) :
    ReadsCriteria (operatorKinds op) ⟨opened, members, none, []⟩ ⟨opened, members, op, []⟩ := by
  cases op with
  | none => exact Reads.nil
  | some op =>
    cases op with
    | and => exact Reads.single fun _ => rfl
    | or => exact Reads.single fun _ => rfl
    | not => exact Reads.single fun _ => rfl
    | andNot => exact Reads.cons fun _ => ⟨_, rfl, Reads.single fun _ => rfl⟩
    | orNot => exact Reads.cons fun _ => ⟨_, rfl, Reads.single fun _ => rfl⟩

/-- A condition is added with the operator that waits for it. -/
theorem reads_condition (op : Option BooleanOperator) (test : Condition) :
    ReadsCriteria test.kinds ⟨opened, members, op, []⟩
      ⟨opened, members ++ [.condition op test], none, []⟩ :=
  Reads.cons fun _ => ⟨_, rfl, Reads.cons fun _ => ⟨_, rfl, Reads.single fun _ => rfl⟩⟩

/-- A group is opened with the operator that waits for it, and all that came before is set
aside until it is closed. -/
theorem reads_group {op : Option BooleanOperator} {inner : List Criterion}
    {kinds : List TokenKind} (hne : inner ≠ [])
    (h : ∀ opened, ReadsCriteria kinds ⟨opened, [], none, []⟩ ⟨opened, inner, none, []⟩) :
    ReadsCriteria (.opening :: (kinds ++ [.closing])) ⟨opened, members, op, []⟩
      ⟨opened, members ++ [.group op inner], none, []⟩ := by
  refine Reads.cons fun offset => ⟨⟨⟨op, offset, members⟩ :: opened, [], none, []⟩, rfl, ?_⟩
  refine (h _).append (Reads.single fun _ => ?_)
  cases inner with
  | nil => contradiction
  | cons c cs => rfl

end

mutual

/-- The tokens of a criterion add it to the innermost group. -/
theorem Criterion.reads : (c : Criterion) → c.isFilled = true →
    (opened : List OpenGroup) → (members : List Criterion) →
    ReadsCriteria c.kinds ⟨opened, members, none, []⟩ ⟨opened, members ++ [c], none, []⟩
  | .condition op test, _, _, _ => (reads_operator op).append (reads_condition op test)
  | .group op inner, hfilled, opened, members => by
    rw [Criterion.isFilled, Bool.and_eq_true] at hfilled
    have hinner := reads_criteria inner hfilled.2
    have hne : inner ≠ [] := by simpa using hfilled.1
    exact (reads_operator op).append (reads_group hne fun opened => hinner opened [])

/-- The tokens of criteria add them to the innermost group, one after the other. -/
theorem reads_criteria : (cs : List Criterion) → allFilled cs = true →
    (opened : List OpenGroup) → (members : List Criterion) →
    ReadsCriteria (criteriaKinds cs) ⟨opened, members, none, []⟩ ⟨opened, members ++ cs, none, []⟩
  | [], _, _, members => by
    rw [List.append_nil]
    exact Reads.nil
  | c :: cs, hfilled, opened, members => by
    rw [allFilled, Bool.and_eq_true] at hfilled
    have hc := c.reads hfilled.1 opened members
    have hcs := reads_criteria cs hfilled.2 opened (members ++ [c])
    rw [List.append_assoc, List.singleton_append] at hcs
    exact hc.append hcs

end

/-! The order. -/

/-- The tokens of a term add it. -/
theorem reads_term (terms : List OrderingTerm) (t : OrderingTerm) :
    Reads (fun r t => OrderReader.read .strict t r) t.kinds ⟨terms, true⟩
      ⟨terms ++ [t], true⟩ := by
  obtain ⟨field, ascending⟩ := t
  refine Reads.cons fun _ => ⟨⟨terms ++ [⟨field, true⟩], false⟩, rfl, Reads.single fun _ => ?_⟩
  cases ascending <;>
    simp [OrderReader.read, TokenKind.keyword?, Text.latinUpper, OrderReader.direct]

/-- The tokens of terms add them, one after the other. -/
theorem reads_terms (terms more : List OrderingTerm) :
    Reads (fun r t => OrderReader.read .strict t r) (more.flatMap OrderingTerm.kinds)
      ⟨terms, true⟩ ⟨terms ++ more, true⟩ := by
  induction more generalizing terms with
  | nil => simpa using Reads.nil
  | cons t more ih =>
    have hmore := ih (terms ++ [t])
    rw [List.append_assoc, List.singleton_append] at hmore
    exact (reads_term terms t).append hmore

/-! Expressions. -/

/-- The clause that a token begins. -/
def TokenKind.clause? (kind : TokenKind) : Option Clause := kind.keyword?.bind Clause.ofKeyword?

/-- The keyword of a clause begins it. -/
theorem TokenKind.clause?_word (clause : Clause) :
    (TokenKind.word clause.keyword).clause? = some clause := by
  cases clause <;> decide

/-- No token of an operator begins a clause. -/
theorem clause?_of_mem_operatorKinds {op : Option BooleanOperator} {kind : TokenKind}
    (h : kind ∈ operatorKinds op) : kind.clause? = none := by
  have hwords : ∀ kind ∈ [TokenKind.word "AND", .word "OR", .word "NOT"], kind.clause? = none := by
    decide
  apply hwords
  simp only [List.mem_cons, List.not_mem_nil, or_false]
  cases op with
  | none => contradiction
  | some op =>
    cases op <;> simp only [operatorKinds, List.mem_cons, List.not_mem_nil, or_false] at h <;> tauto

mutual

/-- No token of a criterion begins a clause. -/
theorem Criterion.clause?_of_mem_kinds : (c : Criterion) → (kind : TokenKind) → kind ∈ c.kinds →
    kind.clause? = none
  | .condition op test, kind, h => by
    rw [Criterion.kinds, List.mem_append] at h
    rcases h with h | h
    · exact clause?_of_mem_operatorKinds h
    · simp only [Condition.kinds, List.mem_cons, List.not_mem_nil, or_false] at h
      rcases h with rfl | rfl | rfl <;> rfl
  | .group op members, kind, h => by
    simp only [Criterion.kinds, List.mem_append, List.mem_cons, List.not_mem_nil, or_false] at h
    rcases h with h | rfl | h | rfl
    · exact clause?_of_mem_operatorKinds h
    · rfl
    · exact clause?_of_mem_criteriaKinds members kind h
    · rfl

/-- No token of criteria begins a clause. -/
theorem clause?_of_mem_criteriaKinds : (cs : List Criterion) → (kind : TokenKind) →
    kind ∈ criteriaKinds cs → kind.clause? = none
  | [], _, h => absurd h List.not_mem_nil
  | c :: cs, kind, h => by
    rw [criteriaKinds, List.mem_append] at h
    rcases h with h | h
    · exact c.clause?_of_mem_kinds kind h
    · exact clause?_of_mem_criteriaKinds cs kind h

end

/-- No token of an ordering term begins a clause. -/
theorem clause?_of_mem_termKinds {t : OrderingTerm} {kind : TokenKind} (h : kind ∈ t.kinds) :
    kind.clause? = none := by
  have hwords : ∀ ascending : Bool,
      (TokenKind.word (if ascending then "ASC" else "DESC")).clause? = none := by decide
  simp only [OrderingTerm.kinds, List.mem_cons, List.not_mem_nil, or_false] at h
  rcases h with rfl | rfl
  · rfl
  · exact hwords t.ascending

/-- The way of strict reading through the tokens of an expression. -/
abbrev ReadsExpression := Reads (ExpressionReader.read .strict)

namespace ExpressionReader

/-- A token that begins no clause is read as part of the clause that was begun last. -/
theorem read_of_clause?_eq_none (reading : Reading) (r : ExpressionReader) {token : Token}
    (h : token.kind.clause? = none) :
    r.read reading token = match r.clause with
      | none => reading.refuse (.unexpectedToken token .selectClause) r
      | some .select => r.readSelect reading token
      | some .source => r.readSource reading token
      | some .criteria =>
        (r.criteria.read reading token).map fun criteria => { r with criteria := criteria }
      | some .orderBy =>
        (r.order.read reading token).map fun order => { r with order := order } := by
  unfold read
  cases hclause : token.kind.keyword?.bind Clause.ofKeyword? with
  | none => rfl
  | some clause =>
    rw [TokenKind.clause?, hclause] at h
    cases h

/-- A token that begins a clause is read as that. -/
theorem read_of_clause?_eq_some (reading : Reading) (r : ExpressionReader) {token : Token}
    {clause : Clause} (h : token.kind.clause? = some clause) :
    r.read reading token = r.begin reading clause token := by
  rw [TokenKind.clause?] at h
  rw [read, h]

/-- The state after the criteria with their keyword, when there are any. -/
def withCriteria (members : List Criterion) (r : ExpressionReader) : ExpressionReader :=
  if members.isEmpty then r
  else
    { r with
      clause := some .criteria, seen := .criteria :: r.seen, criteria := { members := members } }

/-- The state after the order with its keyword, when there is one. -/
def withOrder (terms : List OrderingTerm) (r : ExpressionReader) : ExpressionReader :=
  if terms.isEmpty then r
  else
    { r with
      clause := some .orderBy, seen := .orderBy :: r.seen, order := { terms := terms } }

/-- The keyword of a clause begins it, unless there was such a clause or it should be another. -/
theorem reads_keyword (clause : Clause) {r : ExpressionReader} (hseen : clause ∉ r.seen)
    (hfirst : r.seen ≠ [] ∨ clause = .select) :
    ReadsExpression [.word clause.keyword] r
      { r with clause := some clause, seen := clause :: r.seen } := by
  refine Reads.single fun offset => ?_
  rw [read_of_clause?_eq_some .strict r (TokenKind.clause?_word clause), begin]
  have hcontains : r.seen.contains clause = false := by simpa using hseen
  have hselect : (r.seen.isEmpty && clause != .select) = false := by
    rcases hfirst with hne | rfl
    · rw [List.isEmpty_eq_false_iff.mpr hne, Bool.false_and]
    · rw [bne_self_eq_false, Bool.and_false]
  simp only [hcontains, hselect, Bool.false_eq_true, if_false]

/-- The tokens of the criteria lead to the state after them. -/
theorem reads_criteriaClause {members : List Criterion} (hfilled : allFilled members = true)
    {r : ExpressionReader} (hseen : .criteria ∉ r.seen) (hne : r.seen ≠ [])
    (hcriteria : r.criteria = {}) :
    ReadsExpression (criteriaClauseKinds members) r (r.withCriteria members) := by
  cases members with
  | nil => exact Reads.nil
  | cons c cs =>
    let embed (criteria : CriteriaReader) : ExpressionReader :=
      { r with clause := some .criteria, seen := .criteria :: r.seen, criteria := criteria }
    have hkeyword := reads_keyword .criteria hseen (.inl hne)
    have hbegun : ({ r with clause := some .criteria, seen := .criteria :: r.seen } :
        ExpressionReader) = embed {} := by rw [← hcriteria]
    rw [hbegun] at hkeyword
    have hmembers := (reads_criteria (c :: cs) hfilled [] []).lift (read .strict) embed
      (fun s kind offset hkind =>
        read_of_clause?_eq_none .strict (embed s) (clause?_of_mem_criteriaKinds _ kind hkind))
    exact hkeyword.append hmembers

/-- The tokens of the order lead to the state after it. -/
theorem reads_orderClause (terms : List OrderingTerm) {r : ExpressionReader}
    (hseen : .orderBy ∉ r.seen) (hne : r.seen ≠ []) (horder : r.order = {}) :
    ReadsExpression (orderClauseKinds terms) r (r.withOrder terms) := by
  cases terms with
  | nil => exact Reads.nil
  | cons t terms =>
    let embed (order : OrderReader) : ExpressionReader :=
      { r with clause := some .orderBy, seen := .orderBy :: r.seen, order := order }
    have hkeyword := reads_keyword .orderBy hseen (.inl hne)
    have hbegun : ({ r with clause := some .orderBy, seen := .orderBy :: r.seen } :
        ExpressionReader) = embed {} := by rw [← horder]
    rw [hbegun] at hkeyword
    have hterms := (reads_terms [] (t :: terms)).lift (read .strict) embed
      (fun s kind offset hkind => by
        obtain ⟨t, -, hkind⟩ := List.mem_flatMap.mp hkind
        exact read_of_clause?_eq_none .strict (embed s) (clause?_of_mem_termKinds hkind))
    exact hkeyword.append hterms

/-- The token of a field that is wanted adds it. -/
theorem read_selectKind (r : ExpressionReader) (hclause : r.clause = some .select) (name : String)
    (offset : Nat) :
    r.read .strict ⟨selectKind name, offset⟩ = .ok { r with select := r.select ++ [name] } := by
  by_cases hname : name = allFields
  · rw [selectKind, if_pos (by simpa using hname), read_of_clause?_eq_none .strict r rfl, hclause,
      hname]
    simp [readSelect, hclause]
  · rw [selectKind, if_neg (by simpa using hname), read_of_clause?_eq_none .strict r rfl, hclause]
    simp [readSelect, hclause]

/-- The tokens of the fields that are wanted add them. -/
theorem reads_select (names : List String) {r : ExpressionReader}
    (hclause : r.clause = some .select) :
    ReadsExpression (names.map selectKind) r { r with select := r.select ++ names } := by
  induction names generalizing r with
  | nil => simpa using Reads.nil
  | cons name names ih =>
    have hnames := ih (r := { r with select := r.select ++ [name] }) hclause
    rw [List.append_assoc, List.singleton_append] at hnames
    exact (Reads.single (read_selectKind r hclause name)).append hnames

/-- The state after the fields that are wanted and the document type. -/
def afterSource (names : List String) (source : String) : ExpressionReader where
  clause := some .source
  seen := [.source, .select]
  select := names
  source := some source

/-- The tokens of the fields that are wanted and of the document type lead to the state after
them. -/
theorem reads_source (names : List String) (source : String) :
    ReadsExpression (.word "SELECT" :: names.map selectKind ++ [.word "FROM", .name source true])
      {} (afterSource names source) := by
  have hselect := (reads_keyword .select (r := {}) (by simp) (.inr rfl)).append
    (reads_select names rfl)
  have hsource := reads_keyword .source
    (r := { clause := some .select, seen := [.select], select := names }) (by simp) (.inl (by simp))
  have hname : ReadsExpression [.name source true]
      { clause := some .source, seen := [.source, .select], select := names }
      (afterSource names source) := Reads.single fun _ => rfl
  exact hselect.append (hsource.append hname)

/-- The state after all clauses. -/
def afterAll (e : SearchExpression) : ExpressionReader :=
  ((afterSource e.select e.source).withCriteria e.criteria.members).withOrder e.orderBy

/-- The tokens of an expression lead to the state after all clauses. -/
theorem reads_kinds {e : SearchExpression} (hfilled : allFilled e.criteria.members = true) :
    ReadsExpression e.kinds {} (afterAll e) := by
  have hsource := reads_source e.select e.source
  have hcriteria := reads_criteriaClause hfilled (r := afterSource e.select e.source)
    (by simp [afterSource]) (by simp [afterSource]) rfl
  have horder := reads_orderClause e.orderBy
    (r := (afterSource e.select e.source).withCriteria e.criteria.members)
    (by rw [withCriteria]; split <;> simp [afterSource])
    (by rw [withCriteria]; split <;> simp [afterSource])
    (by rw [withCriteria]; split <;> rfl)
  exact (hsource.append hcriteria).append horder

/-- The state after all clauses holds the expression. -/
theorem finish_afterAll {e : SearchExpression} (hoperator : e.criteria.operator = none)
    (hsource : e.source ≠ "") : (afterAll e).finish .strict = .ok e := by
  obtain ⟨select, source, ⟨operator, members⟩, orderBy⟩ := e
  cases hoperator
  cases members <;> cases orderBy <;>
    simp [afterAll, withCriteria, withOrder, afterSource, finish, CriteriaReader.finish,
      CriteriaReader.withoutFragment, CriteriaReader.withoutPending, CriteriaReader.outermost,
      bind, Except.bind, show ¬source = "" from hsource]

end ExpressionReader

end CatalogRecords.Query
