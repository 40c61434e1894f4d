import CatalogRecords.Proofs.Query.Rereading
import CatalogRecords.Proofs.Query.StrictReading

/-!
# Expressions and their texts

Strict reading inverts writing. An expression that can be written comes back from its text, and
every expression that strict reading comes to can be written: its names come from tokens, which
hold no closing bracket and no blank at their ends, and empty groups are refused. So an expression
can be written exactly when some text is read strictly as that expression.
-/

namespace CatalogRecords.Query

/-- The text of an expression that can be written is read as the expression. -/
theorem SearchExpression.IsExpressible.read_text {e : SearchExpression} (he : e.IsExpressible) :
    SearchExpression.read .strict e.text = .ok e := by
  obtain ⟨ts, htokens, hkinds⟩ := tokenize_of_spells .strict he.spells_text
  have hreads := ExpressionReader.reads_kinds he.filled ts hkinds
  have hfinish := ExpressionReader.finish_afterAll he.operator he.source_ne
  exact bind_eq_ok_iff.mpr ⟨ts, htokens, bind_eq_ok_iff.mpr ⟨_, hreads, hfinish⟩⟩

/-! What strict reading comes to. -/

/-- The criteria have no empty group and name fields by names that brackets can hold. -/
def AreExpressible (cs : List Criterion) : Prop :=
  allFilled cs = true ∧ ∀ test ∈ conditionsIn cs, IsPlainName test.field

/-- There is nothing wrong with no criteria. -/
theorem AreExpressible.nil : AreExpressible [] := ⟨rfl, fun _ h => absurd h List.not_mem_nil⟩

/-- One more criterion at the end keeps criteria expressible if it is. -/
theorem AreExpressible.concat {cs : List Criterion} {c : Criterion} (hcs : AreExpressible cs)
    (hfilled : c.isFilled = true) (hfields : ∀ test ∈ c.conditions, IsPlainName test.field) :
    AreExpressible (cs ++ [c]) := by
  constructor
  · rw [allFilled_eq_all, List.all_append, ← allFilled_eq_all, hcs.1]
    simp [hfilled]
  · intro test htest
    rw [conditionsIn_append, List.mem_append] at htest
    rcases htest with htest | htest
    · exact hcs.2 test htest
    · exact hfields test (by simpa [conditionsIn] using htest)

namespace CriteriaReader

/-- All that was read so far can be written. -/
structure IsExpressible (r : CriteriaReader) : Prop where
  opened : ∀ group ∈ r.opened, AreExpressible group.before
  members : AreExpressible r.members
  fragment : ∀ t ∈ r.fragment, t.kind.IsWritable

variable {r r' : CriteriaReader} {token : Token}

/-- Three tokens make a condition with the field of the first. -/
theorem field_of_conditionOf? {kinds : List TokenKind} {test : Condition}
    (h : conditionOf? kinds = some test) :
    ∃ bracketed rest, kinds = .name test.field bracketed :: rest := by
  unfold conditionOf? at h
  split at h
  · cases h
    exact ⟨_, _, rfl⟩
  · split at h
    · cases h
    · cases h
      exact ⟨_, _, rfl⟩
  · cases h

/-- Collecting a token keeps what was read expressible. -/
theorem IsExpressible.collect (hr : r.IsExpressible) (htoken : token.kind.IsWritable) :
    (r.collect token).IsExpressible := by
  have hfragment : ∀ t ∈ r.fragment ++ [token], t.kind.IsWritable := by
    intro t ht
    rcases List.mem_append.mp ht with ht | ht
    · exact hr.fragment t ht
    · rwa [List.mem_singleton.mp ht]
  rw [CriteriaReader.collect]
  split
  · exact ⟨hr.opened, hr.members, hfragment⟩
  · refine ⟨hr.opened, ?_, fun _ h => absurd h List.not_mem_nil⟩
    dsimp only
    split
    · rename_i test htest
      obtain ⟨bracketed, rest, hkinds⟩ := field_of_conditionOf? htest
      obtain ⟨first, more, hsplit, hfirst, -⟩ := List.map_eq_cons_iff.mp hkinds
      have hname := hfragment first (by rw [hsplit]; exact List.mem_cons_self)
      rw [hfirst] at hname
      refine hr.members.concat rfl fun test' htest' => ?_
      rw [Criterion.conditions, List.mem_singleton] at htest'
      exact htest' ▸ hname.isPlainName
    · exact hr.members

/-- A token keeps what was read expressible; an empty group would be refused. -/
theorem IsExpressible.step (hr : r.IsExpressible) (htoken : token.kind.IsWritable)
    (h : CriteriaStep r token r') : r'.IsExpressible := by
  cases h with
  | join op hpending hfragment hop => exact ⟨hr.opened, hr.members, hr.fragment⟩
  | negate hfragment hop => exact ⟨hr.opened, hr.members, hr.fragment⟩
  | opening hfragment hkind =>
    refine ⟨?_, .nil, fun _ h => absurd h List.not_mem_nil⟩
    exact List.forall_mem_cons.mpr ⟨hr.members, hr.opened⟩
  | closing group outer hfragment hpending hkind hopened hne =>
    have hgroups := hr.opened
    rw [hopened, List.forall_mem_cons] at hgroups
    refine ⟨hgroups.2, hgroups.1.concat ?_ hr.members.2, fun _ h => absurd h List.not_mem_nil⟩
    rw [Criterion.isFilled, hr.members.1, Bool.and_true, Bool.not_eq_true',
      List.isEmpty_eq_false_iff]
    exact hne
  | operand hfits => exact hr.collect htoken

end CriteriaReader

namespace ExpressionReader

/-- All that was read so far can be written. -/
structure IsExpressible (r : ExpressionReader) : Prop where
  select : ∀ name ∈ r.select, IsPlainName name
  source : ∀ name ∈ r.source, IsPlainName name
  criteria : r.criteria.IsExpressible
  order : ∀ term ∈ r.order.terms, IsPlainName term.field

/-- Before the first token nothing was read that could not be written. -/
theorem IsExpressible.start : IsExpressible {} where
  select _ h := absurd h List.not_mem_nil
  source _ h := absurd h (by simp)
  criteria := ⟨fun _ h => absurd h List.not_mem_nil, .nil, fun _ h => absurd h List.not_mem_nil⟩
  order _ h := absurd h List.not_mem_nil

variable {r r' : ExpressionReader} {token : Token}

/-- The name of a token can be written. -/
theorem isPlainName_of_kind (htoken : token.kind.IsWritable) {name : String} {bracketed : Bool}
    (hkind : token.kind = .name name bracketed) : IsPlainName name := by
  rw [hkind] at htoken
  exact htoken.isPlainName

/-- A token of the order keeps its fields writable. -/
theorem isPlainName_of_orderStep {order order' : OrderReader}
    (horder : ∀ term ∈ order.terms, IsPlainName term.field) (htoken : token.kind.IsWritable)
    (h : order.OrderStep token order') : ∀ term ∈ order'.terms, IsPlainName term.field := by
  cases h with
  | direct before last ascending hdirected hterms =>
    rw [hterms] at horder
    intro term hterm
    rcases List.mem_append.mp hterm with hterm | hterm
    · exact horder term (List.mem_append_left _ hterm)
    · rw [List.mem_singleton] at hterm
      rw [hterm]
      exact horder last (List.mem_append_right _ List.mem_cons_self)
  | term field bracketed hkind =>
    intro term hterm
    rcases List.mem_append.mp hterm with hterm | hterm
    · exact horder term hterm
    · rw [List.mem_singleton] at hterm
      rw [hterm]
      exact isPlainName_of_kind htoken hkind

/-- A token keeps what was read expressible. -/
theorem IsExpressible.step (hr : r.IsExpressible) (htoken : token.kind.IsWritable)
    (h : ExpressionStep r token r') : r'.IsExpressible := by
  cases h with
  | begin clause hclause hseen hfirst => exact ⟨hr.select, hr.source, hr.criteria, hr.order⟩
  | select name hclause hkind =>
    refine ⟨fun other hother => ?_, hr.source, hr.criteria, hr.order⟩
    rcases List.mem_append.mp hother with hother | hother
    · exact hr.select other hother
    · rw [List.mem_singleton.mp hother]
      rcases hkind with ⟨-, rfl⟩ | ⟨bracketed, hkind⟩
      · decide
      · exact isPlainName_of_kind htoken hkind
  | source name bracketed hclause hkind hsource =>
    refine ⟨hr.select, fun other hother => ?_, hr.criteria, hr.order⟩
    cases hother
    exact isPlainName_of_kind htoken hkind
  | criteria criteria hclause hstep =>
    have hcriteria := hr.criteria.step htoken (CriteriaReader.criteriaStep_of_read hstep)
    exact ⟨hr.select, hr.source, hcriteria, hr.order⟩
  | order order hclause hstep =>
    have horder := isPlainName_of_orderStep hr.order htoken (OrderReader.orderStep_of_read hstep)
    exact ⟨hr.select, hr.source, hr.criteria, horder⟩

/-- What strict reading ends with can be written. -/
theorem IsExpressible.finish (hr : r.IsExpressible) {e : SearchExpression}
    (h : r.finish .strict = .ok e) : e.IsExpressible := by
  obtain ⟨source, hsource, hne, criteria, hcriteria, rfl⟩ := eq_of_finish h
  obtain ⟨rfl, -⟩ := CriteriaReader.eq_of_finish hcriteria
  exact {
    operator := rfl
    source_ne := hne
    filled := hr.criteria.members.1
    source := hr.source source hsource
    select := hr.select
    fields := hr.criteria.members.2
    orderBy := hr.order }

end ExpressionReader

/-- What strict reading comes to can be written. -/
theorem isExpressible_of_read {text : String} {e : SearchExpression}
    (h : SearchExpression.read .strict text = .ok e) : e.IsExpressible := by
  obtain ⟨r, hread, hfinish⟩ := exists_foldlM_of_read h
  have hr : r.IsExpressible := foldlM_invariant
    (fun token htoken _ _ hs hstep => hs.step (isWritable_of_mem_tokens htoken)
      (ExpressionReader.expressionStep_of_read hstep)) .start hread
  exact hr.finish hfinish

/-- Writing and strict reading are inverse: an expression comes back from its text exactly when it
can be written, and whatever text strict reading accepts, the expression it comes to can be written
and comes back from its own text. -/
theorem strictReading_inverts_writing (e : SearchExpression) :
    (e.IsExpressible ↔ SearchExpression.read .strict e.text = .ok e) ∧
      ∀ text, SearchExpression.read .strict text = .ok e →
        e.IsExpressible ∧ SearchExpression.read .strict e.text = .ok e := by
  refine ⟨⟨fun he => he.read_text, isExpressible_of_read⟩, fun text h => ?_⟩
  have he := isExpressible_of_read h
  exact ⟨he, he.read_text⟩

/-- An expression whose names and literals look like the rest of the language. -/
def deceptiveExpression : SearchExpression where
  select := ["*", "FROM [a", ""]
  source := "( \"S\""
  criteria := { members := [
    .condition (some .andNot) ⟨"WHERE", .like, "say \"hi\" \\ and\nbye] )"⟩,
    .group (some .orNot) [
      .group (some .not) [.condition none ⟨"NOT", .lessOrEqual, "\\"⟩],
      .condition none ⟨"", .greater, ""⟩]] }
  orderBy := [⟨"ASC DESC", false⟩, ⟨"x,y", true⟩]

/-- Such an expression comes back from its text. -/
theorem read_text_deceptiveExpression :
    deceptiveExpression.IsExpressible ∧
      SearchExpression.read .strict deceptiveExpression.text = .ok deceptiveExpression := by
  have he : deceptiveExpression.IsExpressible :=
    ⟨rfl, by decide, by decide, by decide, by decide, by decide, by decide⟩
  have htext := (strictReading_inverts_writing deceptiveExpression).1.mp he
  exact (strictReading_inverts_writing deceptiveExpression).2 deceptiveExpression.text htext

end CatalogRecords.Query
