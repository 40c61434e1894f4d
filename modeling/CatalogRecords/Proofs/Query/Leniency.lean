import CatalogRecords.Proofs.Query.StrictReading

/-!
# Lenient reading

Strict and lenient reading are the same functions, which part only where strict reading refuses
something. Each function is compared with itself: its lenient reading always comes to a result, and
to that of the strict one where there is one. The comparison passes through steps one after the
other and so from the reading of single tokens to that of whole texts.
-/

namespace CatalogRecords.Query

variable {α β : Type}

/-- A lenient computation comes to a result, and to that of the strict one if that comes to one. -/
structure Extends (strict lenient : Except ParseError α) : Prop where
  total : ∃ a, lenient = .ok a
  agrees : ∀ a, strict = .ok a → lenient = .ok a

namespace Extends

variable {strict lenient : Except ParseError α}

/-- A result extends itself. -/
theorem ok (a : α) : Extends (.ok a) (.ok a) := ⟨⟨a, rfl⟩, fun _ h => h⟩

/-- What strict reading refuses lenient reading may go on from anyhow. -/
theorem refuse (error : ParseError) (otherwise : α) :
    Extends (Reading.strict.refuse error otherwise) (Reading.lenient.refuse error otherwise) :=
  ⟨⟨otherwise, rfl⟩, fun _ h => absurd h refuse_strict_ne_ok⟩

/-- Where strict reading fails it is enough that lenient reading comes to something. -/
theorem error {error : ParseError} (h : ∃ a, lenient = .ok a) : Extends (.error error) lenient :=
  ⟨h, fun _ herror => by cases herror⟩

/-- What is read is read leniently, however it was read. -/
theorem lenient_of_ok (f : Reading → Except ParseError α) (h : Extends (f .strict) (f .lenient))
    {reading : Reading} {a : α} (hok : f reading = .ok a) : f .lenient = .ok a := by
  cases reading with
  | strict => exact h.agrees a hok
  | lenient => exact hok

/-- The comparison passes through steps that are taken one after the other. -/
theorem bind {f g : α → Except ParseError β} (h : Extends strict lenient)
    (hnext : ∀ a, Extends (f a) (g a)) : Extends (strict >>= f) (lenient >>= g) := by
  constructor
  · obtain ⟨a, ha⟩ := h.total
    obtain ⟨b, hb⟩ := (hnext a).total
    exact ⟨b, bind_eq_ok_iff.mpr ⟨a, ha, hb⟩⟩
  · intro b hb
    obtain ⟨a, ha, hfb⟩ := bind_eq_ok_iff.mp hb
    exact bind_eq_ok_iff.mpr ⟨a, h.agrees a ha, (hnext a).agrees b hfb⟩

/-- What is made of results extends likewise. -/
theorem map (f : α → β) (h : Extends strict lenient) :
    Extends (strict.map f) (lenient.map f) := by
  constructor
  · obtain ⟨a, ha⟩ := h.total
    exact ⟨f a, map_eq_ok_iff.mpr ⟨a, ha, rfl⟩⟩
  · intro b hb
    obtain ⟨a, ha, hab⟩ := map_eq_ok_iff.mp hb
    exact map_eq_ok_iff.mpr ⟨a, h.agrees a ha, hab⟩

/-- The comparison passes from one step to a run of steps. -/
theorem foldlM {step next : β → α → Except ParseError β} (as : List α)
    (hstep : ∀ s a, Extends (step s a) (next s a)) (s : β) :
    Extends (as.foldlM step s) (as.foldlM next s) := by
  induction as generalizing s with
  | nil => exact ok s
  | cons a as ih =>
    rw [List.foldlM_cons, List.foldlM_cons]
    exact (hstep s a).bind ih

end Extends

/-! Criteria. -/

namespace CriteriaReader

variable (r : CriteriaReader) (token : Token)

/-- Where strict reading refuses an unfinished condition lenient reading drops it. -/
theorem withoutFragment_extends :
    Extends (r.withoutFragment .strict) (r.withoutFragment .lenient) := by
  unfold withoutFragment
  split
  · exact .ok r
  · exact .refuse _ _

/-- Where strict reading refuses a dangling operator lenient reading drops it. -/
theorem withoutPending_extends :
    Extends (r.withoutPending .strict) (r.withoutPending .lenient) := by
  unfold withoutPending
  split
  · exact .ok r
  · exact .refuse _ _

/-- Where strict reading refuses an operator lenient reading takes it. -/
theorem join_extends (op : BooleanOperator) :
    Extends (r.join .strict op token) (r.join .lenient op token) := by
  unfold join
  split
  · exact .refuse _ _
  · exact .ok _

/-- Where strict reading refuses a negation lenient reading takes it. -/
theorem negate_extends : Extends (r.negate .strict token) (r.negate .lenient token) := by
  unfold negate
  split
  · exact .refuse _ _
  · exact .ok _

/-- Where strict reading refuses to open a group lenient reading opens it. -/
theorem openGroup_extends (offset : Nat) :
    Extends (r.openGroup .strict offset) (r.openGroup .lenient offset) := by
  unfold openGroup
  exact r.withoutFragment_extends.bind fun r => .ok _

/-- Where strict reading refuses to close a group lenient reading closes what there is. -/
theorem closeGroup_extends (offset : Nat) :
    Extends (r.closeGroup .strict offset) (r.closeGroup .lenient offset) := by
  unfold closeGroup
  refine r.withoutFragment_extends.bind fun r => r.withoutPending_extends.bind fun r => ?_
  split
  · exact .refuse _ _
  · split
    · exact .refuse _ _
    · exact .ok _

/-- Where strict reading refuses an operand lenient reading collects it. -/
theorem readOperand_extends :
    Extends (r.readOperand .strict token) (r.readOperand .lenient token) := by
  unfold readOperand
  split
  · exact .refuse _ _
  · exact .ok _

/-- Lenient reading of a token of the criteria extends strict reading. -/
theorem read_extends : Extends (r.read .strict token) (r.read .lenient token) := by
  unfold CriteriaReader.read
  split
  · exact r.join_extends token .and
  · exact r.join_extends token .or
  · exact r.negate_extends token
  · split
    · exact r.openGroup_extends token.offset
    · exact r.closeGroup_extends token.offset
    · exact r.readOperand_extends token

/-- What is left open at the end lenient reading drops. -/
theorem finish_extends : Extends (r.finish .strict) (r.finish .lenient) := by
  unfold finish
  refine r.withoutFragment_extends.bind fun r => r.withoutPending_extends.bind fun r => ?_
  dsimp only
  split
  · exact .ok _
  · exact .refuse _ _

end CriteriaReader

/-! The order. -/

namespace OrderReader

variable (r : OrderReader) (token : Token)

/-- Where strict reading refuses a direction lenient reading passes over it. -/
theorem direct_extends (ascending : Bool) :
    Extends (r.direct .strict ascending token) (r.direct .lenient ascending token) := by
  unfold direct
  split
  · exact .ok _
  · exact .refuse _ _

/-- Lenient reading of a token of the order extends strict reading. -/
theorem read_extends : Extends (r.read .strict token) (r.read .lenient token) := by
  unfold OrderReader.read
  split
  · exact r.direct_extends token true
  · exact r.direct_extends token false
  · split
    · exact .ok _
    · exact .refuse _ _

end OrderReader

/-! Expressions. -/

namespace ExpressionReader

variable (r : ExpressionReader) (token : Token)

/-- Where strict reading refuses a clause lenient reading begins it. -/
theorem begin_extends (clause : Clause) :
    Extends (r.begin .strict clause token) (r.begin .lenient clause token) := by
  unfold begin
  dsimp only
  split
  · exact .refuse _ _
  · split
    · exact .refuse _ _
    · exact .ok _

/-- Where strict reading refuses a selected field lenient reading passes over it. -/
theorem readSelect_extends :
    Extends (r.readSelect .strict token) (r.readSelect .lenient token) := by
  unfold readSelect
  split
  · exact .ok _
  · exact .ok _
  · exact .refuse _ _

/-- Where strict reading refuses a second document type lenient reading takes it. -/
theorem readSource_extends :
    Extends (r.readSource .strict token) (r.readSource .lenient token) := by
  unfold readSource
  split
  · dsimp only
    split
    · exact .refuse _ _
    · exact .ok _
  · exact .refuse _ _

/-- Lenient reading of a token extends strict reading. -/
theorem read_extends : Extends (r.read .strict token) (r.read .lenient token) := by
  unfold ExpressionReader.read
  split
  · exact r.begin_extends token _
  · split
    · exact .refuse _ _
    · exact r.readSelect_extends token
    · exact r.readSource_extends token
    · exact (r.criteria.read_extends token).map _
    · exact (r.order.read_extends token).map _

/-- Without a document type only lenient reading comes to an expression. -/
theorem finish_extends : Extends (r.finish .strict) (r.finish .lenient) := by
  have hcomplete := r.criteria.finish_extends.bind fun criteria =>
    Extends.ok (SearchExpression.mk r.select (r.source.getD "") criteria r.order.terms)
  have hlenient : ¬(Reading.lenient = .strict ∧ r.source.getD "" = "") := fun h => by cases h.1
  unfold finish
  dsimp only
  rw [if_neg hlenient]
  split
  · exact .error hcomplete.total
  · exact hcomplete

end ExpressionReader

/-- Lenient reading has the tokens of every text. -/
theorem tokenize_extends (text : String) :
    Extends (tokenize .strict text) (tokenize .lenient text) :=
  ⟨⟨tokens text, rfl⟩, fun _ h => eq_tokens_of_tokenize h ▸ rfl⟩

/-- Lenient reading comes to an expression for every text, and where strict reading comes to one it
is the same. -/
theorem lenientReading_extends_strictReading (text : String) :
    (∃ e, SearchExpression.read .lenient text = .ok e) ∧
      ∀ e, SearchExpression.read .strict text = .ok e →
        SearchExpression.read .lenient text = .ok e := by
  have h : Extends (SearchExpression.read .strict text) (SearchExpression.read .lenient text) := by
    unfold SearchExpression.read
    exact (tokenize_extends text).bind fun ts =>
      (Extends.foldlM ts ExpressionReader.read_extends {}).bind ExpressionReader.finish_extends
  exact ⟨h.total, h.agrees⟩

/-- A text with keywords in small letters, a negated group, and a literal that is a quote. -/
def quotedText : String :=
  "select N, * from SI where not (N = \"1\" or not [a b] like \"\\\"\") order_by N desc"

/-- What the text says. -/
def quotedExpression : SearchExpression where
  select := ["N", allFields]
  source := "SI"
  criteria := { members := [.group (some .not) [
    .condition none ⟨"N", .equal, "1"⟩, .condition (some .orNot) ⟨"a b", .like, "\""⟩]] }
  orderBy := [⟨"N", false⟩]

/-- Both readings of the text come to the expression. -/
theorem read_quotedText :
    SearchExpression.read .strict quotedText = .ok quotedExpression ∧
      SearchExpression.read .lenient quotedText = .ok quotedExpression := by
  have hstrict : SearchExpression.read .strict quotedText = .ok quotedExpression := by rfl
  exact ⟨hstrict, (lenientReading_extends_strictReading quotedText).2 quotedExpression hstrict⟩

end CatalogRecords.Query
