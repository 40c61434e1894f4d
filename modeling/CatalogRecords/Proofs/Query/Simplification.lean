import CatalogRecords.Proofs.Query.Evaluation
import CatalogRecords.Proofs.Query.Shape
import CatalogRecords.Query.Simplification

/-!
# What simplified criteria mean

Simplification passes over groups without conditions, and of the operator in front of what is then
the first member of a group it keeps the negation. The truth in this reading is given for all
criteria, and simplified criteria have just this truth in the sense of evaluation. Evaluation itself
counts an empty group as true, and before the first member it heeds no operator but a plain
negation, so the two agree on proper criteria and part on others.
-/

namespace CatalogRecords.Query

variable {v : Condition → Bool} {t : DocumentType} {convention : DecimalConvention} {d : Document}

open BooleanOperator

/-- The truth of what came before together with that of a criterion, if what comes first keeps the
negation of its operator. -/
def combineLed (before : Option Bool) (op : Option BooleanOperator) (value : Bool) : Bool :=
  combine before (if before.isNone then leading op else op) value

/-- The truth of what came before together with that of a criterion, if it has one. -/
def joinLed (before : Option Bool) (op : Option BooleanOperator) : Option Bool → Option Bool
  | none => before
  | some value => some (combineLed before op value)

mutual

/-- The truth of a criterion in the reading of simplification, if there are conditions in it. -/
def Criterion.coreTruth? (v : Condition → Bool) : Criterion → Option Bool
  | .condition _ condition => some (v condition)
  | .group _ members => coreFrom v none members

/-- The truth of what came before together with that of criteria, in the reading of
simplification. -/
def coreFrom (v : Condition → Bool) : Option Bool → List Criterion → Option Bool
  | before, [] => before
  | before, c :: cs => coreFrom v (joinLed before c.operator (c.coreTruth? v)) cs

end

/-! The steps of simplification, one by one. -/

/-- Another operator in front of a criterion does not change its truth. -/
theorem Criterion.truth_withOperator (c : Criterion) (op : Option BooleanOperator) :
    (c.withOperator op).truth v = c.truth v := by
  cases c with
  | condition _ condition => simp only [Criterion.withOperator, Criterion.truth]
  | group _ members => simp only [Criterion.withOperator, Criterion.truth]

/-- The operator of a criterion is the one it is given. -/
theorem Criterion.operator_withOperator (c : Criterion) (op : Option BooleanOperator) :
    (c.withOperator op).operator = op := by
  cases c <;> rfl

/-- A criterion with its own operator is the same. -/
theorem Criterion.withOperator_operator (c : Criterion) : c.withOperator c.operator = c := by
  cases c <;> rfl

/-- A criterion is no group of one, or gives way to its only member, with a composed operator. -/
theorem Criterion.collapse_cases (c : Criterion) :
    c.collapse = c ∨ ∃ outer inner, c = .group outer [inner] ∧
      c.collapse = inner.withOperator (compose outer inner.operator) := by
  match c with
  | .condition _ _ => exact Or.inl rfl
  | .group _ [] => exact Or.inl rfl
  | .group _ (_ :: _ :: _) => exact Or.inl rfl
  | .group outer [inner] => exact Or.inr ⟨outer, inner, rfl, rfl⟩

/-- In front of everything only a plain negation is heeded. -/
theorem combine_none_of_ne_not {op : Option BooleanOperator} (hop : op ≠ some .not)
    (value : Bool) : combine none op value = value := by
  cases op with
  | none => rfl
  | some op =>
    cases op with
    | not => exact absurd rfl hop
    | _ => rfl

/-- A composed operator does what the two operators do one after the other, unless it stands in
front of everything and joins. -/
theorem combine_compose {before : Option Bool} {outer : Option BooleanOperator}
    (houter : before.isSome ∨ isLeading outer = true) (inner : Option BooleanOperator)
    (value : Bool) :
    combine before (compose outer inner) value =
      combine before outer (combine none inner value) := by
  by_cases hinner : inner = some .not
  · subst hinner
    rw [compose, if_pos rfl]
    cases before with
    | none =>
      have houter : isLeading outer = true := houter.resolve_left (by decide)
      match outer, houter with
      | none, _ => rfl
      | some .not, _ => exact (Bool.not_not value).symm
    | some before => rcases outer with - | (_ | _ | _ | _ | _) <;> simp [negated, combine]
  · rw [compose, if_neg hinner, combine_none_of_ne_not hinner]

/-- The only member of a group counts as the group did, unless that stands in front of everything
with a joining operator. -/
theorem combine_collapse {before : Option Bool} {c : Criterion}
    (hc : before.isSome ∨ isLeading c.operator = true) :
    combine before c.collapse.operator (c.collapse.truth v) =
      combine before c.operator (c.truth v) := by
  rcases c.collapse_cases with h | ⟨outer, inner, rfl, h⟩
  · rw [h]
  · have htruth : (Criterion.group outer [inner]).truth v =
        combine none inner.operator (inner.truth v) := by
      rw [Criterion.truth, truthFrom, truthFrom, Option.getD_some]
    rw [h, Criterion.operator_withOperator, Criterion.truth_withOperator, htruth]
    exact combine_compose hc inner.operator (inner.truth v)

/-- Groups of one after something else may give way to their members. -/
theorem truthFrom_map_collapse (before : Bool) (cs : List Criterion) :
    truthFrom v (some before) (cs.map Criterion.collapse) = truthFrom v (some before) cs := by
  induction cs generalizing before with
  | nil => rfl
  | cons c cs ih =>
    rw [List.map_cons, truthFrom, truthFrom, combine_collapse (Or.inl rfl)]
    exact ih _

/-- Groups of one may give way to their members if the first criterion does not join. -/
theorem truthFrom_none_map_collapse {cs : List Criterion} (hcs : leads cs = true) :
    truthFrom v none (cs.map Criterion.collapse) = truthFrom v none cs := by
  cases cs with
  | nil => rfl
  | cons c cs =>
    rw [List.map_cons, truthFrom, truthFrom, combine_collapse (Or.inr hcs)]
    exact truthFrom_map_collapse _ cs

/-- What is put first leads. -/
theorem leads_leadFirst (cs : List Criterion) : leads (leadFirst cs) = true := by
  cases cs with
  | nil => rfl
  | cons c cs =>
    rw [leadFirst, leads, Criterion.operator_withOperator]
    exact isLeading_leading _

/-- An operator that can stand first is kept. -/
theorem leading_of_isLeading {op : Option BooleanOperator} (hop : isLeading op = true) :
    leading op = op := by
  match op, hop with
  | none, _ => rfl
  | some .not, _ => rfl

/-- Criteria that are led already are kept. -/
theorem leadFirst_of_leads {cs : List Criterion} (hcs : leads cs = true) : leadFirst cs = cs := by
  cases cs with
  | nil => rfl
  | cons c cs => rw [leadFirst, leading_of_isLeading hcs, Criterion.withOperator_operator]

/-- The members of a group that are not empty groups. -/
def withoutEmpty (members : List Criterion) : List Criterion :=
  members.filter fun c => !c.isEmptyGroup

/-- Tidied members have the truth of those that are not empty groups, with the first one leading. -/
theorem truthFrom_tidy (members : List Criterion) :
    truthFrom v none (tidy members) = truthFrom v none (leadFirst (withoutEmpty members)) := by
  rw [tidy, truthFrom_none_map_collapse (leads_leadFirst _), withoutEmpty]

/-- Simplifying a criterion leaves its operator. -/
theorem Criterion.operator_simplify (c : Criterion) : c.simplify.operator = c.operator := by
  cases c with
  | condition op condition => simp only [Criterion.simplify, Criterion.operator]
  | group op members => simp only [Criterion.simplify, Criterion.operator]

/-- An empty list of criteria is the only one without a truth of its own. -/
theorem truthFrom_none_eq_none_iff (cs : List Criterion) :
    truthFrom v none cs = none ↔ cs = [] := by
  cases cs with
  | nil => simp [truthFrom]
  | cons c cs =>
    obtain ⟨value, hvalue⟩ := truthFrom_some (v := v) (combine none c.operator (c.truth v)) cs
    simp [truthFrom, hvalue]

mutual

/-- The truth of a criterion in the reading of simplification is that of the simplified criterion,
and there is none if that is an empty group. -/
theorem Criterion.coreTruth?_eq (c : Criterion) :
    c.coreTruth? v = if c.simplify.isEmptyGroup then none else some (c.simplify.truth v) := by
  cases c with
  | condition op condition =>
    simp only [Criterion.coreTruth?, Criterion.simplify, Criterion.isEmptyGroup, Criterion.truth]
    rfl
  | group op members =>
    rw [Criterion.coreTruth?, coreFrom_none members, Criterion.simplify]
    rw [← truthFrom_tidy]
    cases htidy : tidy (simplifyEach members) with
    | nil => rfl
    | cons c cs =>
      -- there are members left, so they have a truth and the group is not empty
      obtain ⟨value, hvalue⟩ := truthFrom_some (v := v) (combine none c.operator (c.truth v)) cs
      rw [Criterion.isEmptyGroup, Criterion.truth, truthFrom, hvalue]
      · rfl
      · simp

/-- Criteria after something else have in the reading of simplification the truth of those that do
not simplify to empty groups. -/
theorem coreFrom_some (before : Bool) (cs : List Criterion) :
    coreFrom v (some before) cs = truthFrom v (some before) (withoutEmpty (simplifyEach cs)) := by
  cases cs with
  | nil => rfl
  | cons c cs =>
    rw [coreFrom, simplifyEach, withoutEmpty, List.filter_cons, Criterion.coreTruth?_eq c]
    cases hempty : c.simplify.isEmptyGroup with
    | true => exact coreFrom_some before cs
    | false =>
      rw [if_neg Bool.false_ne_true, if_pos Bool.not_false, truthFrom, Criterion.operator_simplify]
      exact coreFrom_some _ cs

/-- Criteria in front have in the reading of simplification the truth of those that do not simplify
to empty groups, once the first of these leads. -/
theorem coreFrom_none (cs : List Criterion) :
    coreFrom v none cs = truthFrom v none (leadFirst (withoutEmpty (simplifyEach cs))) := by
  cases cs with
  | nil => rfl
  | cons c cs =>
    rw [coreFrom, simplifyEach, withoutEmpty, List.filter_cons, Criterion.coreTruth?_eq c]
    cases hempty : c.simplify.isEmptyGroup with
    | true => exact coreFrom_none cs
    | false =>
      rw [if_neg Bool.false_ne_true, if_pos Bool.not_false, leadFirst, truthFrom,
        Criterion.operator_withOperator, Criterion.truth_withOperator,
        Criterion.operator_simplify]
      exact coreFrom_some _ cs

end

/-! Where the two readings agree. -/

/-- Led criteria are joined alike in both readings. -/
theorem combineLed_eq_combine {before : Option Bool} {op : Option BooleanOperator}
    (hop : before.isSome ∨ isLeading op = true) (value : Bool) :
    combineLed before op value = combine before op value := by
  cases before with
  | none => rw [combineLed, if_pos (by rfl), leading_of_isLeading (hop.resolve_left (by decide))]
  | some before => rfl

mutual

/-- A proper criterion has the same truth in both readings. -/
theorem Criterion.coreTruth?_eq_some {c : Criterion} (hfilled : c.isFilled = true)
    (hled : c.isLed = true) : c.coreTruth? v = some (c.truth v) := by
  cases c with
  | condition op condition => rw [Criterion.coreTruth?, Criterion.truth]
  | group op members =>
    rw [Criterion.isFilled, Bool.and_eq_true, Bool.not_eq_true', List.isEmpty_eq_false_iff]
      at hfilled
    rw [Criterion.isLed, Bool.and_eq_true] at hled
    rw [Criterion.coreTruth?, Criterion.truth,
      coreFrom_eq_truthFrom (Or.inr hled.1) hfilled.2 hled.2]
    cases htruth : truthFrom v none members with
    | none => exact absurd ((truthFrom_none_eq_none_iff members).mp htruth) hfilled.1
    | some value => rfl

/-- Proper criteria have the same truth in both readings. -/
theorem coreFrom_eq_truthFrom {before : Option Bool} {cs : List Criterion}
    (hleads : before.isSome ∨ leads cs = true) (hfilled : allFilled cs = true)
    (hled : allLed cs = true) : coreFrom v before cs = truthFrom v before cs := by
  cases cs with
  | nil => rfl
  | cons c cs =>
    rw [allFilled, Bool.and_eq_true] at hfilled
    rw [allLed, Bool.and_eq_true] at hled
    rw [coreFrom, truthFrom, Criterion.coreTruth?_eq_some hfilled.1 hled.1]
    rw [← combineLed_eq_combine hleads]
    exact coreFrom_eq_truthFrom (Or.inl rfl) hfilled.2 hled.2

end

/-! Simplified criteria are led, and keep their conditions. -/

/-- A criterion with another operator is led inside as before. -/
theorem Criterion.isLed_withOperator (c : Criterion) (op : Option BooleanOperator) :
    (c.withOperator op).isLed = c.isLed := by
  cases c <;> simp only [Criterion.withOperator, Criterion.isLed]

/-- The only member of a led group is led. -/
theorem Criterion.isLed_collapse {c : Criterion} (hc : c.isLed = true) :
    c.collapse.isLed = true := by
  rcases c.collapse_cases with h | ⟨outer, inner, rfl, h⟩
  · rw [h]
    exact hc
  · rw [Criterion.isLed, allLed, Bool.and_eq_true, Bool.and_eq_true] at hc
    rw [h, Criterion.isLed_withOperator]
    exact hc.2.1

/-- The only member of a group that can stand first can stand first in its place. -/
theorem isLeading_operator_collapse {c : Criterion} (hc : isLeading c.operator = true) :
    isLeading c.collapse.operator = true := by
  rcases c.collapse_cases with h | ⟨outer, inner, rfl, h⟩
  · rw [h]
    exact hc
  · rw [h, Criterion.operator_withOperator, compose]
    match outer, hc with
    | none, _ => split <;> rfl
    | some .not, _ => split <;> rfl

/-- What comes first in tidied members leads. -/
theorem leads_tidy (members : List Criterion) : leads (tidy members) = true := by
  rw [tidy, ← withoutEmpty]
  have hleads := leads_leadFirst (withoutEmpty members)
  cases hmembers : leadFirst (withoutEmpty members) with
  | nil => rfl
  | cons c cs =>
    rw [hmembers] at hleads
    exact isLeading_operator_collapse hleads

/-- Criteria are led inside as before when the first one leads. -/
theorem allLed_leadFirst (cs : List Criterion) : allLed (leadFirst cs) = allLed cs := by
  cases cs with
  | nil => rfl
  | cons c cs => rw [leadFirst, allLed, allLed, Criterion.isLed_withOperator]

/-- Tidied members are led if the members were. -/
theorem allLed_tidy {members : List Criterion} (hmembers : allLed members = true) :
    allLed (tidy members) = true := by
  have hkept : allLed (leadFirst (withoutEmpty members)) = true := by
    rw [allLed_leadFirst]
    rw [allLed_eq_all, List.all_eq_true] at hmembers ⊢
    exact fun c hc => hmembers c (List.mem_filter.mp hc).1
  rw [allLed_eq_all, List.all_eq_true] at hkept ⊢
  intro c hc
  obtain ⟨member, hmember, rfl⟩ := List.mem_map.mp hc
  exact Criterion.isLed_collapse (hkept member hmember)

mutual

/-- Simplified criteria are led. -/
theorem Criterion.isLed_simplify (c : Criterion) : c.simplify.isLed = true := by
  cases c with
  | condition op condition => rw [Criterion.simplify, Criterion.isLed]
  | group op members =>
    rw [Criterion.simplify, Criterion.isLed, leads_tidy, allLed_tidy (allLed_simplifyEach members)]
    rfl

/-- Simplified members are led. -/
theorem allLed_simplifyEach (cs : List Criterion) : allLed (simplifyEach cs) = true := by
  cases cs with
  | nil => rfl
  | cons c cs =>
    rw [simplifyEach, allLed, Criterion.isLed_simplify c, allLed_simplifyEach cs]
    rfl

end

/-- The conditions of a criterion do not depend on its operator. -/
theorem Criterion.conditions_withOperator (c : Criterion) (op : Option BooleanOperator) :
    (c.withOperator op).conditions = c.conditions := by
  cases c <;> simp only [Criterion.withOperator, Criterion.conditions]

/-- The only member of a group has the conditions of the group. -/
theorem Criterion.conditions_collapse (c : Criterion) : c.collapse.conditions = c.conditions := by
  rcases c.collapse_cases with h | ⟨outer, inner, rfl, h⟩
  · rw [h]
  · rw [h, Criterion.conditions_withOperator, Criterion.conditions, conditionsIn, conditionsIn,
      List.append_nil]

/-- There are no conditions in an empty group. -/
theorem Criterion.conditions_of_isEmptyGroup {c : Criterion} (hc : c.isEmptyGroup = true) :
    c.conditions = [] := by
  match c, hc with
  | .group _ [], _ => rw [Criterion.conditions, conditionsIn]

/-- The conditions of criteria do not depend on the operator of the first. -/
theorem conditionsIn_leadFirst (cs : List Criterion) :
    conditionsIn (leadFirst cs) = conditionsIn cs := by
  cases cs with
  | nil => rfl
  | cons c cs => rw [leadFirst, conditionsIn, conditionsIn, Criterion.conditions_withOperator]

/-- Tidying members keeps their conditions. -/
theorem conditionsIn_tidy (members : List Criterion) :
    conditionsIn (tidy members) = conditionsIn members := by
  have hmap (cs : List Criterion) : conditionsIn (cs.map Criterion.collapse) = conditionsIn cs := by
    simp only [conditionsIn_eq_flatMap, List.flatMap_map, Criterion.conditions_collapse]
  rw [tidy, hmap, conditionsIn_leadFirst]
  induction members with
  | nil => rfl
  | cons c cs ih =>
    rw [List.filter_cons, conditionsIn]
    cases hempty : c.isEmptyGroup with
    | true =>
      rw [Criterion.conditions_of_isEmptyGroup hempty]
      exact ih
    | false =>
      rw [if_pos Bool.not_false, conditionsIn, ih]

mutual

/-- Simplifying a criterion keeps its conditions. -/
theorem Criterion.conditions_simplify (c : Criterion) : c.simplify.conditions = c.conditions := by
  cases c with
  | condition op condition => rw [Criterion.simplify]
  | group op members =>
    rw [Criterion.simplify, Criterion.conditions, Criterion.conditions, conditionsIn_tidy,
      conditionsIn_simplifyEach members]

/-- Simplifying members keeps their conditions. -/
theorem conditionsIn_simplifyEach (cs : List Criterion) :
    conditionsIn (simplifyEach cs) = conditionsIn cs := by
  cases cs with
  | nil => rfl
  | cons c cs =>
    rw [simplifyEach, conditionsIn, conditionsIn, Criterion.conditions_simplify c,
      conditionsIn_simplifyEach cs]

end

/-- Members in the place of a single group have its conditions. -/
theorem conditionsIn_unwrap (members : List Criterion) :
    conditionsIn (unwrap members) = conditionsIn members := by
  unfold unwrap
  split
  · split
    · rfl
    · rw [conditionsIn_leadFirst, conditionsIn, conditionsIn, List.append_nil, Criterion.conditions]
  · rfl

/-- Members in the place of a single group have its truth if they are led. -/
theorem truthFrom_unwrap {members : List Criterion} (hmembers : allLed members = true) :
    (truthFrom v none (unwrap members)).getD true = (truthFrom v none members).getD true := by
  unfold unwrap
  split
  · next op inner =>
    rw [allLed, Bool.and_eq_true, Criterion.isLed, Bool.and_eq_true] at hmembers
    split
    · rfl
    · next hop =>
      rw [leadFirst_of_leads hmembers.1.1, truthFrom, truthFrom, Criterion.operator,
        Criterion.truth, combine_none_of_ne_not hop, Option.getD_some]
  · rfl

namespace Criteria

/-- Criteria with simplified members have the conditions of the criteria. -/
theorem conditions_simplifyMembers (c : Criteria) :
    c.simplifyMembers.conditions = c.conditions := by
  rw [conditions, conditions, simplifyMembers, Query.simplifyMembers, conditionsIn_tidy,
    conditionsIn_simplifyEach]

/-- Simplified criteria have the conditions of the criteria. -/
theorem conditions_simplify (c : Criteria) : c.simplify.conditions = c.conditions := by
  rw [conditions, simplify, conditionsIn_unwrap]
  exact c.conditions_simplifyMembers

/-- Simplified criteria have the truth that the criteria have in the reading of simplification. -/
theorem truthFrom_simplify (c : Criteria) :
    (truthFrom v none c.simplify.members).getD true = (coreFrom v none c.members).getD true := by
  have hled : allLed (Query.simplifyMembers c.members) = true :=
    allLed_tidy (allLed_simplifyEach c.members)
  rw [simplify, truthFrom_unwrap hled, Query.simplifyMembers, truthFrom_tidy, coreFrom_none]

end Criteria

namespace SearchExpression

/-- The truth of the criteria of an expression for a document, in the reading of simplification. -/
def isCoreMetBy (e : SearchExpression) (t : DocumentType) (convention : DecimalConvention)
    (d : Document) : Bool :=
  (coreFrom (isMet (Condition.holds t convention d)) none e.criteria.members).getD true

/-- A simplified expression has the truth in the reading of simplification as its answer, and the
same things go wrong. -/
theorem evaluate_simplify (e : SearchExpression) :
    e.simplify.evaluate t convention d =
      answer (e.failure? t convention d) (e.isCoreMetBy t convention d) := by
  have hfailure : e.simplify.failure? t convention d = e.failure? t convention d :=
    failure?_congr rfl e.criteria.conditions_simplify
  rw [evaluate_eq, hfailure, isMetBy, isCoreMetBy]
  exact congrArg _ e.criteria.truthFrom_simplify

/-- A simplified expression has the answer of the expression exactly if something goes wrong or the
two readings agree. -/
theorem evaluate_simplify_eq_iff (e : SearchExpression) :
    e.simplify.evaluate t convention d = e.evaluate t convention d ↔
      e.failure? t convention d ≠ none ∨
        e.isCoreMetBy t convention d = e.isMetBy t convention d := by
  rw [evaluate_simplify, evaluate_eq]
  cases e.failure? t convention d with
  | none => simp [answer]
  | some error => simp [answer]

end SearchExpression

end CatalogRecords.Query
