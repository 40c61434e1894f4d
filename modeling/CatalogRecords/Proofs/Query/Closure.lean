import CatalogRecords.Proofs.Query.CheckedEvaluation
import CatalogRecords.Proofs.Query.Merging
import CatalogRecords.Proofs.Query.Validity

/-!
# Simplifying and merging valid expressions

Each step of simplification moves operators: the members of a group lose the first of them with the
empty groups, the only member of a group takes over its operator, and the members of the outermost
group come to stand at the top. Step by step the first member of each group keeps an operator that
can stand first and the later ones keep operators that join. The conditions stay, and so what was
accepted by checking is accepted again, alone or merged.
-/

namespace CatalogRecords.Query

open BooleanOperator

variable {t : DocumentType} {options : CheckOptions}

/-! Operators. -/

/-- Negating what may lead a group gives what may lead one. -/
theorem negated_mem_leadingOperators : ∀ op ∈ leadingOperators, negated op ∈ leadingOperators := by
  decide

/-- Negating what may join two operands gives what may join two. -/
theorem negated_mem_joiningOperators : ∀ op ∈ joiningOperators, negated op ∈ joiningOperators := by
  decide

/-- What is left of an operator can stand first. -/
theorem leading_mem_leadingOperators (op : Option BooleanOperator) :
    leading op ∈ leadingOperators :=
  isLeading_iff.mp (isLeading_leading op)

/-- A member that takes the place of a group can stand first if the group could, and joins if the
group did. -/
theorem operator_collapse_mem {operators : List (Option BooleanOperator)}
    (hnegated : ∀ op ∈ operators, negated op ∈ operators) {c : Criterion}
    (hc : c.operator ∈ operators) : c.collapse.operator ∈ operators := by
  rcases c.collapse_cases with h | ⟨outer, inner, rfl, h⟩
  · rw [h]
    exact hc
  · rw [h, Criterion.operator_withOperator, compose]
    split
    · exact hnegated outer hc
    · exact hc

/-! The members of one group. -/

namespace AreJoined

variable {members : List Criterion}

/-- What is done to each member leaves members joined if it leaves what can stand first and what
joins. -/
theorem map {f : Criterion → Criterion} (h : AreJoined members)
    (hfirst : ∀ c, c.operator ∈ leadingOperators → (f c).operator ∈ leadingOperators)
    (hlater : ∀ c, c.operator ∈ joiningOperators → (f c).operator ∈ joiningOperators) :
    AreJoined (members.map f) := by
  cases members with
  | nil => exact AreJoined.nil
  | cons c cs =>
    obtain ⟨hc, hcs⟩ := areJoined_cons_iff.mp h
    rw [List.map_cons, areJoined_cons_iff, List.forall_mem_map]
    exact ⟨hfirst c hc, fun other hother => hlater other (hcs other hother)⟩

/-- Once the first member is made to lead, members are joined if the later ones join. -/
theorem leadFirst (h : ∀ c ∈ members.tail, c.operator ∈ joiningOperators) :
    AreJoined (leadFirst members) := by
  cases members with
  | nil => exact AreJoined.nil
  | cons c cs =>
    rw [Query.leadFirst, areJoined_cons_iff, Criterion.operator_withOperator]
    exact ⟨leading_mem_leadingOperators c.operator, h⟩

/-- Tidied members are joined: whichever is left first is made to lead, and those after it were
later ones before. -/
theorem tidy (h : AreJoined members) : AreJoined (tidy members) := by
  have hkept : ∀ c ∈ (withoutEmpty members).tail, c.operator ∈ joiningOperators := by
    intro c hc
    exact h.later c (List.filter_sublist.tail.subset hc)
  exact (leadFirst hkept).map (fun c => operator_collapse_mem negated_mem_leadingOperators)
    fun c => operator_collapse_mem negated_mem_joiningOperators

end AreJoined

/-! All groups. -/

/-- A criterion is joined inside whatever its operator. -/
theorem isJoined_withOperator_iff {c : Criterion} {op : Option BooleanOperator} :
    (c.withOperator op).IsJoined ↔ c.IsJoined := by
  cases c with
  | condition _ test =>
    simp only [Criterion.withOperator, Criterion.IsJoined, Criterion.memberLists]
  | group _ members => simp only [Criterion.withOperator, isJoined_group_iff]

/-- The only member of a joined group is joined in its place. -/
theorem Criterion.IsJoined.collapse {c : Criterion} (h : c.IsJoined) : c.collapse.IsJoined := by
  rcases c.collapse_cases with hsame | ⟨outer, inner, rfl, hinner⟩
  · rwa [hsame]
  · rw [hinner, isJoined_withOperator_iff]
    exact (isJoined_group_iff.mp h).2 inner List.mem_cons_self

/-- Members stay joined inside when the first is made to lead. -/
theorem forall_isJoined_leadFirst {members : List Criterion} (h : ∀ c ∈ members, c.IsJoined) :
    ∀ c ∈ leadFirst members, c.IsJoined := by
  cases members with
  | nil => exact h
  | cons c cs =>
    rw [leadFirst, List.forall_mem_cons, isJoined_withOperator_iff]
    exact List.forall_mem_cons.mp h

/-- Tidied members are joined inside. -/
theorem forall_isJoined_tidy {members : List Criterion} (h : ∀ c ∈ members, c.IsJoined) :
    ∀ c ∈ tidy members, c.IsJoined := by
  have hkept : ∀ c ∈ leadFirst (withoutEmpty members), c.IsJoined :=
    forall_isJoined_leadFirst fun c hc => h c (List.mem_filter.mp hc).1
  rw [tidy, List.forall_mem_map]
  exact fun c hc => (hkept c hc).collapse

mutual

/-- A joined criterion is joined when it is simplified. -/
theorem Criterion.isJoined_simplify {c : Criterion} (h : c.IsJoined) : c.simplify.IsJoined := by
  cases c with
  | condition op test => rwa [Criterion.simplify]
  | group op members =>
    obtain ⟨hmembers, hinside⟩ := isJoined_group_iff.mp h
    have hoperator (c : Criterion) {operators : List (Option BooleanOperator)}
        (hc : c.operator ∈ operators) : c.simplify.operator ∈ operators :=
      c.operator_simplify.symm ▸ hc
    rw [Criterion.simplify, isJoined_group_iff]
    refine ⟨AreJoined.tidy ?_, forall_isJoined_tidy (forall_isJoined_simplifyEach hinside)⟩
    rw [simplifyEach_eq_map]
    exact hmembers.map (fun c => hoperator c) fun c => hoperator c

/-- Members that are joined inside are so when they are simplified. -/
theorem forall_isJoined_simplifyEach {cs : List Criterion} (h : ∀ c ∈ cs, c.IsJoined) :
    ∀ c ∈ simplifyEach cs, c.IsJoined := by
  cases cs with
  | nil => rwa [simplifyEach]
  | cons c cs =>
    rw [List.forall_mem_cons] at h
    rw [simplifyEach, List.forall_mem_cons]
    exact ⟨Criterion.isJoined_simplify h.1, forall_isJoined_simplifyEach h.2⟩

end

/-- Members in the place of a single group are joined as they were in it. -/
theorem isJoined_unwrap {op : Option BooleanOperator} {members : List Criterion}
    (h : (Criterion.group op members).IsJoined) :
    (Criterion.group op (unwrap members)).IsJoined := by
  unfold unwrap
  split
  · split
    · exact h
    · have hinner := isJoined_group_iff.mp ((isJoined_group_iff.mp h).2 _ List.mem_cons_self)
      exact isJoined_group_iff.mpr
        ⟨AreJoined.leadFirst hinner.1.later, forall_isJoined_leadFirst hinner.2⟩
  · exact h

namespace Criteria

variable {a b : Criteria}

/-- Joined criteria are joined when they are simplified. -/
theorem isJoined_simplify (h : a.toCriterion.IsJoined) : a.simplify.toCriterion.IsJoined := by
  have hsimplified := Criterion.isJoined_simplify h
  rw [toCriterion, Criterion.simplify] at hsimplified
  exact isJoined_unwrap hsimplified

/-- Joined criteria side by side are joined if the operator between them joins. -/
theorem isJoined_beside {op : BooleanOperator} (hop : op ≠ .not) (ha : a.toCriterion.IsJoined)
    (hb : b.toCriterion.IsJoined) :
    ({ members := a.beside b op } : Criteria).toCriterion.IsJoined := by
  have hjoining : some op ∈ joiningOperators := by
    revert hop
    cases op <;> decide
  have hgroup {c : Criteria} (hc : c.toCriterion.IsJoined) (op : Option BooleanOperator) :
      (Criterion.group op c.members).IsJoined :=
    isJoined_group_iff.mpr (isJoined_group_iff.mp hc)
  have hnone : none ∈ leadingOperators := by decide
  have hleading := leading_mem_leadingOperators (some op)
  rw [toCriterion, isJoined_group_iff, beside]
  -- each of the two may have no members, and then there is no group of them
  cases a.members.isEmpty with
  | true =>
    cases b.members.isEmpty with
    | true => simp [AreJoined.nil]
    | false => simpa [areJoined_cons_iff, Criterion.operator, hgroup hb] using hleading
  | false =>
    cases b.members.isEmpty with
    | true => simpa [areJoined_cons_iff, Criterion.operator, hgroup ha] using hnone
    | false => simp [areJoined_cons_iff, Criterion.operator, hgroup ha, hgroup hb, hnone, hjoining]

end Criteria

namespace SearchExpression

variable {a b : SearchExpression}

/-- A sound expression is sound when it is simplified. -/
theorem IsSound.simplify (h : a.IsSound t options) : a.simplify.IsSound t options where
  source := h.source
  select := h.select
  joined := Criteria.isJoined_simplify h.joined
  conditions := by
    rw [SearchExpression.simplify, Criteria.conditions_simplify]
    exact h.conditions
  orderBy := h.orderBy

/-- Two sound expressions are sound when they are merged. -/
theorem IsSound.merge {op : BooleanOperator} (hop : op ≠ .not) (ha : a.IsSound t options)
    (hb : b.IsSound t options) : (a.merge b op).IsSound t options := by
  apply IsSound.simplify
  refine ⟨ha.source, ha.select, Criteria.isJoined_beside hop ha.joined hb.joined, ?_, ha.orderBy⟩
  rw [Criteria.conditions, Criteria.conditionsIn_beside, List.forall_mem_append]
  exact ⟨ha.conditions, hb.conditions⟩

/-- What checking accepts it accepts when it is simplified, and when two such expressions are merged
by an operator that joins. The members of all groups are joined then, and the conditions are those
there were. -/
theorem validity_is_closed_under_merging (a b : SearchExpression) (t : DocumentType)
    (options : CheckOptions) :
    (a.isValid t options = true →
      a.simplify.isValid t options = true ∧
      (∀ members ∈ a.simplify.criteria.toCriterion.memberLists, AreJoined members) ∧
      a.simplify.criteria.conditions = a.criteria.conditions) ∧
    (a.isValid t options = true → b.isValid t options = true → ∀ op, op ≠ .not →
      (a.merge b op).isValid t options = true ∧
      (∀ members ∈ (a.merge b op).criteria.toCriterion.memberLists, AreJoined members) ∧
      (a.merge b op).criteria.conditions = a.criteria.conditions ++ b.criteria.conditions) := by
  constructor
  · intro ha
    have hsimplified := (isSound_of_isValid ha).simplify
    exact ⟨hsimplified.isValid, hsimplified.joined, a.criteria.conditions_simplify⟩
  · intro ha hb op hop
    have hmerged := (isSound_of_isValid ha).merge hop (isSound_of_isValid hb)
    exact ⟨hmerged.isValid, hmerged.joined, conditions_merge a b op⟩

/-- Documents without a number above seven, said after an empty group. -/
def notNumbered : SearchExpression where
  select := ["N", allFields]
  source := "SI"
  criteria := { members := [
    .group none [], .condition (some .andNot) ⟨"N._as_val", .greater, "7"⟩] }

/-- Documents with two paragraphs, said with two negations. -/
def doubled : SearchExpression where
  select := [allFields]
  source := "SI"
  criteria := { members := [.group (some .not) [
    .condition (some .not) ⟨"CD._count", .equal, "2"⟩]] }
  orderBy := [⟨"N", false⟩]

/-- Both are valid, and so are the first in simplified form and the two merged. -/
theorem valid_notNumbered_merge_doubled :
    notNumbered.isValid numberType {} = true ∧ doubled.isValid numberType {} = true ∧
      notNumbered.simplify.isValid numberType {} = true ∧
      (notNumbered.merge doubled .orNot).isValid numberType {} = true := by
  have hnotNumbered : notNumbered.isValid numberType {} = true := by rfl
  have hdoubled : doubled.isValid numberType {} = true := by rfl
  have hclosed := validity_is_closed_under_merging notNumbered doubled numberType {}
  exact ⟨hnotNumbered, hdoubled, (hclosed.1 hnotNumbered).1,
    (hclosed.2 hnotNumbered hdoubled .orNot (by decide)).1⟩

end SearchExpression

end CatalogRecords.Query
