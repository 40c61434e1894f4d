import CatalogRecords.Proofs.Query.Simplification
import CatalogRecords.Proofs.Query.Validity

/-!
# The simplified form of criteria

Simplification passes over criteria once, from the inside out, and looks at the outermost group once
at the end. Nothing is left for a second time: dropping an empty group may leave a group of one, and
a group of one may give way to a member that stands first, but each is met when the group around it
is tidied. In criteria that are in normal form every group has at least two members, the first of
each can stand first, and the criteria are no single group that could be unwrapped. Simplified
criteria are in normal form, and those in normal form are the ones that simplification leaves alone.
-/

namespace CatalogRecords.Query

open BooleanOperator

/-! Groups with several members. -/

/-- Each group has at least two members, the criterion itself and those in it at all depths. -/
def Criterion.IsBranching (c : Criterion) : Prop := ∀ members ∈ c.memberLists, 2 ≤ members.length

/-- Each group among criteria has at least two members, at all depths. -/
def AreBranching (cs : List Criterion) : Prop := ∀ members ∈ memberListsIn cs, 2 ≤ members.length

/-- The groups among criteria are those in each criterion. -/
theorem areBranching_iff {cs : List Criterion} :
    AreBranching cs ↔ ∀ c ∈ cs, c.IsBranching := by
  rw [AreBranching, memberListsIn_eq_flatMap, List.forall_mem_flatMap]
  rfl

/-- A group branches if it has two members or more and all that is in it branches. -/
theorem isBranching_group_iff {op : Option BooleanOperator} {members : List Criterion} :
    (Criterion.group op members).IsBranching ↔
      2 ≤ members.length ∧ ∀ c ∈ members, c.IsBranching := by
  rw [Criterion.IsBranching, Criterion.memberLists, List.forall_mem_cons, ← areBranching_iff]
  rfl

/-- The operator before a criterion does not bear on whether it branches. -/
theorem Criterion.isBranching_withOperator_iff {c : Criterion} {op : Option BooleanOperator} :
    (c.withOperator op).IsBranching ↔ c.IsBranching := by
  cases c with
  | condition _ test => rfl
  | group _ members => rw [Criterion.withOperator, isBranching_group_iff, isBranching_group_iff]

mutual

/-- A criterion is branching exactly if it holds no empty group and no group of one. -/
theorem Criterion.isBranching_iff (c : Criterion) :
    c.IsBranching ↔ c.isFilled = true ∧ c.isRedundant = false := by
  cases c with
  | condition op test =>
    rw [Criterion.isFilled, Criterion.isRedundant, Criterion.IsBranching, Criterion.memberLists]
    simp
  | group op members =>
    have hlength : 2 ≤ members.length ↔
        members.isEmpty = false ∧ (members.length == 1) = false := by
      rw [List.isEmpty_eq_false_iff, ← List.length_pos_iff, beq_eq_false_iff_ne]
      omega
    rw [isBranching_group_iff, ← areBranching_iff, areBranching_iff_filled members, hlength,
      Criterion.isFilled, Criterion.isRedundant, Bool.and_eq_true, Bool.or_eq_false_iff,
      Bool.not_eq_true']
    exact and_and_and_comm

/-- Criteria are branching exactly if they hold no empty group and no group of one. -/
theorem areBranching_iff_filled (cs : List Criterion) :
    AreBranching cs ↔ allFilled cs = true ∧ anyRedundant cs = false := by
  cases cs with
  | nil =>
    rw [allFilled, anyRedundant, AreBranching, memberListsIn]
    simp
  | cons c cs =>
    rw [areBranching_iff, List.forall_mem_cons, ← areBranching_iff, c.isBranching_iff,
      areBranching_iff_filled cs, allFilled, anyRedundant, Bool.and_eq_true, Bool.or_eq_false_iff]
    exact and_and_and_comm

end

/-! Simplified criteria. -/

variable {members : List Criterion}

/-- What is in each group is branching, whatever is to be said of the group. -/
def Criterion.IsBranchingInside (c : Criterion) : Prop :=
  ∀ op members, c = .group op members → ∀ inner ∈ members, inner.IsBranching

/-- A group that is not empty gives way to its only member or has several. -/
theorem Criterion.IsBranchingInside.collapse {c : Criterion} (h : c.IsBranchingInside)
    (hne : c.isEmptyGroup = false) : c.collapse.IsBranching := by
  match c, h, hne with
  | .condition op test, _, _ => exact fun _ hmem => absurd hmem List.not_mem_nil
  | .group outer [inner], h, _ =>
    exact isBranching_withOperator_iff.mpr (h outer [inner] rfl inner List.mem_cons_self)
  | .group outer (first :: second :: rest), h, _ =>
    exact isBranching_group_iff.mpr ⟨Nat.le_add_left 2 rest.length, h outer _ rfl⟩

/-- Another operator in front of a criterion does not change what is in it. -/
theorem Criterion.IsBranchingInside.withOperator {c : Criterion} (h : c.IsBranchingInside)
    (op : Option BooleanOperator) : (c.withOperator op).IsBranchingInside := by
  cases c with
  | condition _ test => exact fun _ _ hgroup => by cases hgroup
  | group outer inside =>
    rintro _ _ ⟨⟩
    exact h outer inside rfl

/-- The operator before a criterion does not bear on whether it is empty. -/
theorem Criterion.isEmptyGroup_withOperator (c : Criterion) (op : Option BooleanOperator) :
    (c.withOperator op).isEmptyGroup = c.isEmptyGroup := by
  match c with
  | .condition _ _ => rfl
  | .group _ [] => rfl
  | .group _ (_ :: _) => rfl

/-- What holds of criteria whatever their operators holds of them when the first leads. -/
theorem forall_mem_leadFirst {P : Criterion → Prop} (hP : ∀ c op, P c → P (c.withOperator op))
    (h : ∀ c ∈ members, P c) : ∀ c ∈ leadFirst members, P c := by
  cases members with
  | nil => exact h
  | cons c cs =>
    rw [List.forall_mem_cons] at h
    exact List.forall_mem_cons.mpr ⟨hP c _ h.1, h.2⟩

/-- Tidied members are branching if what is in them is. -/
theorem areBranching_tidy (h : ∀ c ∈ members, c.IsBranchingInside) :
    AreBranching (tidy members) := by
  have hled : ∀ c ∈ leadFirst (withoutEmpty members),
      c.IsBranchingInside ∧ c.isEmptyGroup = false := by
    refine forall_mem_leadFirst (fun c op hc => ?_) fun c hc => ?_
    · exact ⟨hc.1.withOperator op, (c.isEmptyGroup_withOperator op).trans hc.2⟩
    · obtain ⟨hmem, hne⟩ := List.mem_filter.mp hc
      exact ⟨h c hmem, by simpa using hne⟩
  rw [areBranching_iff]
  intro c hc
  obtain ⟨member, hmember, rfl⟩ := List.mem_map.mp hc
  obtain ⟨hinside, hne⟩ := hled member hmember
  exact hinside.collapse hne

mutual

/-- In a simplified criterion each group has several members, at all depths. -/
theorem Criterion.isBranchingInside_simplify (c : Criterion) : c.simplify.IsBranchingInside := by
  cases c with
  | condition op test =>
    rw [Criterion.simplify]
    exact fun _ _ hgroup => by cases hgroup
  | group op members =>
    have hmembers := areBranching_tidy (isBranchingInside_simplifyEach members)
    rw [Criterion.simplify]
    rintro _ _ ⟨⟩
    exact areBranching_iff.mp hmembers

/-- In simplified criteria each group has several members, at all depths. -/
theorem isBranchingInside_simplifyEach (cs : List Criterion) :
    ∀ c ∈ simplifyEach cs, c.IsBranchingInside := by
  cases cs with
  | nil => exact fun _ h => absurd h List.not_mem_nil
  | cons c cs =>
    rw [simplifyEach, List.forall_mem_cons]
    exact ⟨c.isBranchingInside_simplify, isBranchingInside_simplifyEach cs⟩

end

/-! The outermost group. -/

/-- Criteria that cannot be simplified. -/
structure IsNormal (cs : List Criterion) : Prop where
  branching : AreBranching cs
  leads : leads cs = true
  led : allLed cs = true
  unwrapped : ∀ op members, cs = [.group op members] → op = some .not

/-- The members of a single group have no group around them that could be unwrapped, since there are
several of them. -/
theorem isNormal_unwrap (hbranching : AreBranching members) (hleads : leads members = true)
    (hled : allLed members = true) : IsNormal (unwrap members) := by
  unfold unwrap
  split
  · next op inner =>
    split
    · next hop =>
      refine ⟨hbranching, hleads, hled, ?_⟩
      rintro _ _ ⟨⟩
      exact hop
    · have hgroup := areBranching_iff.mp hbranching _ List.mem_cons_self
      obtain ⟨hlength, hinner⟩ := isBranching_group_iff.mp hgroup
      rw [allLed, Bool.and_eq_true, Criterion.isLed, Bool.and_eq_true] at hled
      refine ⟨areBranching_iff.mpr ?_, leads_leadFirst inner, ?_, ?_⟩
      · exact forall_mem_leadFirst
          (fun _ _ => Criterion.isBranching_withOperator_iff.mpr) hinner
      · rw [allLed_leadFirst]
        exact hled.1.2
      · intro op members hsingle
        match inner, hlength with
        | first :: second :: rest, _ =>
          exact absurd (List.cons.inj hsingle).2 (List.cons_ne_nil _ _)
  · next hnone =>
    exact ⟨hbranching, hleads, hled, fun op members hsingle => absurd hsingle (hnone op members)⟩

/-- Simplified criteria are in normal form. -/
theorem isNormal_simplify (c : Criteria) : IsNormal c.simplify.members :=
  isNormal_unwrap (areBranching_tidy (isBranchingInside_simplifyEach c.members)) (leads_tidy _)
    (allLed_tidy (allLed_simplifyEach c.members))

/-! Criteria in normal form. -/

/-- Where there are several members nothing collapses. -/
theorem Criterion.IsBranching.collapse_eq_self {c : Criterion} (h : c.IsBranching) :
    c.collapse = c := by
  rcases c.collapse_cases with hsame | ⟨outer, inner, rfl, -⟩
  · exact hsame
  · exact absurd (isBranching_group_iff.mp h).1 (by simp)

/-- What branches is not empty. -/
theorem Criterion.IsBranching.isEmptyGroup {c : Criterion} (h : c.IsBranching) :
    c.isEmptyGroup = false := by
  match c, h with
  | .condition _ _, _ => rfl
  | .group _ (_ :: _), _ => rfl
  | .group _ [], h => exact absurd (isBranching_group_iff.mp h).1 (by simp)

/-- There is nothing to tidy where there are several members and the first leads. -/
theorem tidy_eq_self (hbranching : AreBranching members) (hleads : leads members = true) :
    tidy members = members := by
  rw [areBranching_iff] at hbranching
  have hkept : withoutEmpty members = members :=
    List.filter_eq_self.mpr fun c hc => by rw [(hbranching c hc).isEmptyGroup]; rfl
  have hmap : members.map Criterion.collapse = members :=
    (List.map_congr_left fun c hc => (hbranching c hc).collapse_eq_self).trans (List.map_id members)
  rw [tidy, ← withoutEmpty, hkept, leadFirst_of_leads hleads, hmap]

mutual

/-- A branching criterion in which the first members lead is simplified already. -/
theorem Criterion.simplify_eq_self {c : Criterion} (hbranching : c.IsBranching)
    (hled : c.isLed = true) : c.simplify = c := by
  cases c with
  | condition op test => rw [Criterion.simplify]
  | group op members =>
    have hmembers := areBranching_iff.mpr (isBranching_group_iff.mp hbranching).2
    rw [Criterion.isLed, Bool.and_eq_true] at hled
    rw [Criterion.simplify, simplifyEach_eq_self hmembers hled.2, tidy_eq_self hmembers hled.1]

/-- Branching criteria in which the first members lead are simplified already. -/
theorem simplifyEach_eq_self {cs : List Criterion} (hbranching : AreBranching cs)
    (hled : allLed cs = true) : simplifyEach cs = cs := by
  cases cs with
  | nil => rfl
  | cons c cs =>
    rw [areBranching_iff, List.forall_mem_cons, ← areBranching_iff] at hbranching
    rw [allLed, Bool.and_eq_true] at hled
    rw [simplifyEach, Criterion.simplify_eq_self hbranching.1 hled.1,
      simplifyEach_eq_self hbranching.2 hled.2]

end

/-- Criteria that are no single group, or a negated one, stay. -/
theorem unwrap_eq_self (h : ∀ op inner, members = [.group op inner] → op = some .not) :
    unwrap members = members := by
  unfold unwrap
  split
  · next op inner => rw [if_pos (h op inner rfl)]
  · rfl

/-- Simplification leaves criteria alone exactly if they are in normal form. -/
theorem Criteria.simplify_eq_self_iff (c : Criteria) : c.simplify = c ↔ IsNormal c.members := by
  constructor
  · intro h
    rw [← h]
    exact isNormal_simplify c
  · intro h
    rw [simplify, Query.simplifyMembers, simplifyEach_eq_self h.branching h.led,
      tidy_eq_self h.branching h.leads, unwrap_eq_self h.unwrapped]

/-! The test for redundant groups. -/

/-- Criteria are not wrapped unless their one member is a group that is not negated. -/
theorem Criteria.isWrapped_eq_false_iff (c : Criteria) :
    c.isWrapped = false ↔ ∀ op inner, c.members = [.group op inner] → op = some .not := by
  unfold isWrapped
  split
  · next op inner hmembers => simp [hmembers]
  · next hnone =>
    exact iff_of_true rfl fun op inner hmembers => absurd hmembers (hnone op inner)

/-- Criteria in normal form are recognized: they have no redundant group. -/
theorem hasRedundantGroup_of_isNormal {c : Criteria} (h : IsNormal c.members) :
    c.hasRedundantGroup = false := by
  rw [Criteria.hasRedundantGroup, Bool.or_eq_false_iff, c.isWrapped_eq_false_iff]
  exact ⟨h.unwrapped, ((areBranching_iff_filled c.members).mp h.branching).2⟩

/-- Proper criteria are in normal form exactly if they have no redundant group. -/
theorem IsProper.isNormal_iff {c : Criteria} (h : IsProper c.members) :
    IsNormal c.members ↔ c.hasRedundantGroup = false := by
  refine ⟨hasRedundantGroup_of_isNormal, fun hredundant => ?_⟩
  rw [Criteria.hasRedundantGroup, Bool.or_eq_false_iff, c.isWrapped_eq_false_iff] at hredundant
  exact ⟨(areBranching_iff_filled c.members).mpr ⟨h.filled, hredundant.2⟩, h.leads, h.led,
    hredundant.1⟩

namespace SearchExpression

/-- Expressions are simplified as their criteria are. -/
theorem simplify_eq_self_iff (e : SearchExpression) :
    e.simplify = e ↔ IsNormal e.criteria.members := by
  rw [← e.criteria.simplify_eq_self_iff]
  constructor
  · exact congrArg SearchExpression.criteria
  · intro h
    rw [simplify, h]

/-- After simplification every group has at least two members, at all depths, the criteria are no
single group unless that is negated, the test for redundant groups finds none, and simplifying again
changes nothing. Proper criteria are left alone by simplification exactly if the test finds none in
them. -/
theorem simplify_reaches_normal_form (e : SearchExpression) :
    (∀ members ∈ memberListsIn e.simplify.criteria.members, 2 ≤ members.length) ∧
      (∀ op members, e.simplify.criteria.members = [.group op members] → op = some .not) ∧
      e.simplify.criteria.hasRedundantGroup = false ∧ e.simplify.simplify = e.simplify ∧
      (IsProper e.criteria.members →
        (e.simplify = e ↔ e.criteria.hasRedundantGroup = false)) := by
  have hnormal : IsNormal e.simplify.criteria.members := isNormal_simplify e.criteria
  refine ⟨hnormal.branching, hnormal.unwrapped, hasRedundantGroup_of_isNormal hnormal, ?_, ?_⟩
  · rwa [e.simplify.simplify_eq_self_iff]
  · intro hproper
    rw [e.simplify_eq_self_iff, hproper.isNormal_iff]

/-- An expression with a group of one and a negated group of two. -/
def wrappedExpression : SearchExpression where
  select := [allFields]
  source := "SI"
  criteria := { members := [
    .group none [.condition (some .not) ⟨"A", .equal, "1"⟩],
    .group (some .andNot) [
      .condition none ⟨"B", .equal, "2"⟩, .condition (some .or) ⟨"C", .equal, "3"⟩]] }

/-- The group of one is found and removed, and then nothing is left to do. -/
theorem wrappedExpression_reaches_normal_form :
    IsProper wrappedExpression.criteria.members ∧
      wrappedExpression.criteria.hasRedundantGroup = true ∧
      wrappedExpression.simplify ≠ wrappedExpression ∧
      wrappedExpression.simplify.simplify = wrappedExpression.simplify ∧
      wrappedExpression.simplify.criteria.members = [
        .condition (some .not) ⟨"A", .equal, "1"⟩,
        .group (some .andNot) [
          .condition none ⟨"B", .equal, "2"⟩, .condition (some .or) ⟨"C", .equal, "3"⟩]] := by
  have hproper : IsProper wrappedExpression.criteria.members :=
    ⟨by decide, by decide, by decide⟩
  have hredundant : wrappedExpression.criteria.hasRedundantGroup = true := by decide
  obtain ⟨-, -, -, htwice, hkept⟩ := simplify_reaches_normal_form wrappedExpression
  refine ⟨hproper, hredundant, fun hsame => ?_, htwice, by decide⟩
  rw [(hkept hproper).mp hsame] at hredundant
  cases hredundant

/-- Where a group that holds nothing is dropped, a group of one is left, and where that is, a single
group around all. -/
example : ({ select := [allFields], source := "SI", criteria := { members := [
    .group none [
      .group (some .and) [],
      .group (some .orNot) [.group none [.condition (some .not) ⟨"A", .equal, "1"⟩]],
      .group (some .or) [.condition (some .and) ⟨"B", .equal, "2"⟩]],
    .group (some .or) [.group none []]] } } : SearchExpression).simplify.criteria.members =
      [.condition none ⟨"A", .equal, "1"⟩, .condition (some .or) ⟨"B", .equal, "2"⟩] := by
  decide

end SearchExpression

end CatalogRecords.Query
