import CatalogRecords.Proofs.Query.Simplification

/-!
# When simplification keeps the truth

Empty groups, and negations in front of what comes first, are read differently by evaluation and by
simplification. Whether that shows can be told from the operators and groups alone, going through
the members of each group from left to right: either the truth does not depend on conditions at all,
or it does, and then simplification turns it around always, never, or for some conditions only.
Criteria are faithful if this comes to a truth that is never turned around; proper criteria are.
-/

namespace CatalogRecords.Query

open BooleanOperator

variable {v : Condition → Bool}

/-- What simplification makes of the truth of criteria. -/
inductive Effect where
  /-- There are no conditions, and evaluation comes to this truth. -/
  | constant (value : Bool)
  /-- There are conditions; said is whether the truth is turned around, if that depends on none. -/
  | varying (turned : Option Bool)
  deriving DecidableEq, Repr

/-- The truth after which an operator leaves what it joins as it is, or just turns it around. -/
def neutral : Option BooleanOperator → Bool
  | some .or => false
  | some .orNot => false
  | _ => true

/-- Whether an operator in front of everything is a negation for simplification only. -/
def turns : Option BooleanOperator → Bool
  | some .andNot => true
  | some .orNot => true
  | _ => false

/-- The effect on what came before together with the effect on the next criterion. -/
def Effect.join : Option Effect → Option BooleanOperator → Effect → Effect
  | none, op, constant value => constant (combine none op value)
  | none, op, varying turned => varying (turned.map fun turned => turned ^^ turns op)
  | some (constant before), op, constant value => constant (combine (some before) op value)
  | some (constant before), op, varying turned =>
    varying (if before = neutral op then turned else none)
  | some (varying turned), op, constant value =>
    varying (if combine (some (neutral op)) op value = neutral op then turned else none)
  | some (varying turned), _, varying turned' =>
    varying (if turned = some false ∧ turned' = some false then some false else none)

mutual

/-- The effect of simplification on a criterion. -/
def Criterion.effect : Criterion → Effect
  | .condition _ _ => .varying (some false)
  | .group _ members => (effectFrom none members).getD (.constant true)

/-- The effect on what came before together with criteria. -/
def effectFrom : Option Effect → List Criterion → Option Effect
  | before, [] => before
  | before, c :: cs => effectFrom (some (Effect.join before c.operator c.effect)) cs

end

/-- Whether simplification keeps the truth of criteria, whatever their conditions are. -/
def Criteria.isFaithful (c : Criteria) : Bool :=
  let effect := (effectFrom none c.members).getD (.constant true)
  effect == .varying (some false) || effect == .constant true

/-! How operators join truths that are fixed or turned around. -/

/-- In front of everything the two readings part by a negation at most. -/
theorem combineLed_none (op : Option BooleanOperator) (value : Bool) :
    combineLed none op value = (combine none op value ^^ turns op) := by
  rcases op with - | (_ | _ | _ | _ | _) <;> cases value <;> rfl

/-- A truth in front of everything that is turned around is turned around in the end. -/
theorem combine_none_xor (op : Option BooleanOperator) (value turned : Bool) :
    combine none op (value ^^ turned) = (combine none op value ^^ turned) := by
  rcases op with - | (_ | _ | _ | _ | _) <;> cases value <;> cases turned <;> rfl

/-- After the neutral truth an operator is read as simplification reads it in front. -/
theorem combine_neutral (op : Option BooleanOperator) (value : Bool) :
    combine (some (neutral op)) op value = combineLed none op value := by
  rcases op with - | (_ | _ | _ | _ | _) <;> cases value <;> rfl

/-- A truth in front of everything that is turned around is turned around in either reading. -/
theorem combineLed_none_xor (op : Option BooleanOperator) (value turned : Bool) :
    combineLed none op (value ^^ turned) = (combineLed none op value ^^ turned) := by
  rcases op with - | (_ | _ | _ | _ | _) <;> cases value <;> cases turned <;> rfl

/-- The truth that is not neutral stays whatever is joined to it. -/
theorem combine_of_ne_neutral {before : Bool} {op : Option BooleanOperator}
    (hbefore : before ≠ neutral op) (value : Bool) :
    combine (some before) op value = !neutral op := by
  rw [Bool.eq_not_of_ne hbefore]
  rcases op with - | (_ | _ | _ | _ | _) <;> rfl

/-- What the neutral truth takes without a change every truth does. -/
theorem combine_of_eq_neutral {op : Option BooleanOperator} {value : Bool}
    (hvalue : combine (some (neutral op)) op value = neutral op) (before : Bool) :
    combine (some before) op value = before := by
  by_cases hbefore : before = neutral op
  · rw [hbefore, hvalue]
  · rw [combine_of_ne_neutral hbefore, Bool.eq_not_of_ne hbefore]

/-- What the neutral truth does not take without a change leaves no choice. -/
theorem combine_eq_of_ne_neutral {op : Option BooleanOperator} {value : Bool}
    (hvalue : combine (some (neutral op)) op value ≠ neutral op) (before : Bool) :
    combine (some before) op value = !neutral op := by
  by_cases hbefore : before = neutral op
  · rw [hbefore, Bool.eq_not_of_ne hvalue]
  · exact combine_of_ne_neutral hbefore value

/-! Faithful criteria keep their truth. -/

/-- The truth of criteria in the two readings is as an effect says. -/
def Effect.Relates : Effect → Bool → Option Bool → Prop
  | constant value, truth, core => truth = value ∧ core = none
  | varying turned, truth, core =>
    ∃ value, core = some value ∧ ∀ r, turned = some r → value = (truth ^^ r)

/-- The truth of what came before in the two readings is as its effect says, if anything did. -/
def RelatesFrom : Option Effect → Option Bool → Option Bool → Prop
  | none, truth, core => truth = none ∧ core = none
  | some effect, truth, core => ∃ value, truth = some value ∧ effect.Relates value core

/-- Criteria that count as true if there are none are related as their effect says. -/
theorem RelatesFrom.getD {effect : Option Effect} {truth core : Option Bool}
    (h : RelatesFrom effect truth core) :
    (effect.getD (.constant true)).Relates (truth.getD true) core := by
  cases effect with
  | none =>
    obtain ⟨rfl, rfl⟩ := h
    exact ⟨rfl, rfl⟩
  | some effect =>
    obtain ⟨value, rfl, h⟩ := h
    exact h

/-- The effect on what came before and the next criterion follows from the effects on both. -/
theorem RelatesFrom.join {before : Option Effect} {effect : Effect} {truth core : Option Bool}
    {truth' : Bool} {core' : Option Bool} (hbefore : RelatesFrom before truth core)
    (heffect : effect.Relates truth' core') (op : Option BooleanOperator) :
    RelatesFrom (some (Effect.join before op effect)) (some (combine truth op truth'))
      (joinLed core op core') := by
  refine ⟨_, rfl, ?_⟩
  match before, effect with
  | none, .constant value =>
    obtain ⟨rfl, rfl⟩ := hbefore
    obtain ⟨rfl, rfl⟩ := heffect
    exact ⟨rfl, rfl⟩
  | none, .varying turned =>
    obtain ⟨rfl, rfl⟩ := hbefore
    obtain ⟨value, rfl, hvalue⟩ := heffect
    refine ⟨combineLed none op value, rfl, fun r hr => ?_⟩
    obtain ⟨r, hturned, rfl⟩ := Option.map_eq_some_iff.mp hr
    rw [hvalue r hturned, combineLed_none, combine_none_xor, Bool.xor_assoc]
  | some (.constant before), .constant value =>
    obtain ⟨_, rfl, rfl, rfl⟩ := hbefore
    obtain ⟨rfl, rfl⟩ := heffect
    exact ⟨rfl, rfl⟩
  | some (.constant before), .varying turned =>
    obtain ⟨_, rfl, hbefore, rfl⟩ := hbefore
    obtain ⟨value, rfl, hvalue⟩ := heffect
    refine ⟨combineLed none op value, rfl, fun r hr => ?_⟩
    by_cases hneutral : before = neutral op
    · rw [if_pos hneutral] at hr
      rw [hbefore, hneutral, combine_neutral, hvalue r hr, combineLed_none_xor]
    · rw [if_neg hneutral] at hr
      cases hr
  | some (.varying turned), .constant value =>
    obtain ⟨before, rfl, core, rfl, hcore⟩ := hbefore
    obtain ⟨rfl, rfl⟩ := heffect
    refine ⟨core, rfl, fun r hr => ?_⟩
    by_cases hneutral : combine (some (neutral op)) op truth' = neutral op
    · rw [if_pos hneutral] at hr
      rw [combine_of_eq_neutral hneutral, hcore r hr]
    · rw [if_neg hneutral] at hr
      cases hr
  | some (.varying turned), .varying turned' =>
    obtain ⟨before, rfl, core, rfl, hcore⟩ := hbefore
    obtain ⟨value, rfl, hvalue⟩ := heffect
    refine ⟨combine (some core) op value, rfl, fun r hr => ?_⟩
    by_cases hkept : turned = some false ∧ turned' = some false
    · rw [if_pos hkept] at hr
      cases hr
      rw [hcore false hkept.1, hvalue false hkept.2, Bool.xor_false, Bool.xor_false, Bool.xor_false]
    · rw [if_neg hkept] at hr
      cases hr

mutual

/-- The truth of a criterion in the two readings is as its effect says. -/
theorem Criterion.relates_effect (c : Criterion) :
    c.effect.Relates (c.truth v) (c.coreTruth? v) := by
  cases c with
  | condition op condition =>
    rw [Criterion.effect, Criterion.truth, Criterion.coreTruth?]
    refine ⟨v condition, rfl, fun r hr => ?_⟩
    cases hr
    exact (Bool.xor_false _).symm
  | group op members =>
    rw [Criterion.effect, Criterion.truth, Criterion.coreTruth?]
    have hnone : RelatesFrom none none none := ⟨rfl, rfl⟩
    exact (relatesFrom_effectFrom hnone members).getD

/-- The truth of criteria in the two readings is as their effect says. -/
theorem relatesFrom_effectFrom {before : Option Effect} {truth core : Option Bool}
    (hbefore : RelatesFrom before truth core) (cs : List Criterion) :
    RelatesFrom (effectFrom before cs) (truthFrom v truth cs) (coreFrom v core cs) := by
  cases cs with
  | nil => exact hbefore
  | cons c cs =>
    rw [effectFrom, truthFrom, coreFrom]
    exact relatesFrom_effectFrom (hbefore.join (Criterion.relates_effect c) c.operator) cs

end

/-- Faithful criteria have the same truth in both readings. -/
theorem Criteria.truth_eq_of_isFaithful {c : Criteria} (hc : c.isFaithful = true)
    (v : Condition → Bool) :
    (coreFrom v none c.members).getD true = (truthFrom v none c.members).getD true := by
  have hnone : RelatesFrom none none none := ⟨rfl, rfl⟩
  have hrelates := (relatesFrom_effectFrom (v := v) hnone c.members).getD
  rw [isFaithful, Bool.or_eq_true, beq_iff_eq, beq_iff_eq] at hc
  rcases hc with hkept | hconstant
  · rw [hkept] at hrelates
    obtain ⟨value, hcore, hvalue⟩ := hrelates
    rw [hcore, Option.getD_some, hvalue false rfl, Bool.xor_false]
  · rw [hconstant] at hrelates
    obtain ⟨htruth, hcore⟩ := hrelates
    rw [hcore, htruth, Option.getD_none]

/-- An operator that can stand first is read in one way. -/
theorem turns_of_isLeading {op : Option BooleanOperator} (hop : isLeading op = true) :
    turns op = false := by
  match op, hop with
  | none, _ => rfl
  | some .not, _ => rfl

mutual

/-- Simplification keeps the truth of a proper criterion. -/
theorem Criterion.effect_of_isFilled {c : Criterion} (hfilled : c.isFilled = true)
    (hled : c.isLed = true) : c.effect = .varying (some false) := by
  cases c with
  | condition op condition => rw [Criterion.effect]
  | group op members =>
    rw [Criterion.isFilled, Bool.and_eq_true] at hfilled
    rw [Criterion.isLed, Bool.and_eq_true] at hled
    rw [Criterion.effect]
    cases members with
    | nil => exact absurd hfilled.1 (by decide)
    | cons c cs =>
      rw [allFilled, Bool.and_eq_true] at hfilled
      rw [allLed, Bool.and_eq_true] at hled
      have hturns : turns c.operator = false := turns_of_isLeading hled.1
      rw [effectFrom, Criterion.effect_of_isFilled hfilled.2.1 hled.2.1, Effect.join, hturns,
        Option.map_some, Bool.xor_false, effectFrom_of_allFilled hfilled.2.2 hled.2.2]
      rfl

/-- Simplification keeps the truth of proper criteria after others of which it keeps the truth. -/
theorem effectFrom_of_allFilled {cs : List Criterion} (hfilled : allFilled cs = true)
    (hled : allLed cs = true) :
    effectFrom (some (.varying (some false))) cs = some (.varying (some false)) := by
  cases cs with
  | nil => rfl
  | cons c cs =>
    rw [allFilled, Bool.and_eq_true] at hfilled
    rw [allLed, Bool.and_eq_true] at hled
    rw [effectFrom, Criterion.effect_of_isFilled hfilled.1 hled.1, Effect.join, if_pos ⟨rfl, rfl⟩]
    exact effectFrom_of_allFilled hfilled.2 hled.2

end

/-- Proper criteria are faithful. -/
theorem Criteria.isFaithful_of_isProper {c : Criteria} (hc : IsProper c.members) :
    c.isFaithful = true := by
  rw [isFaithful]
  cases hmembers : c.members with
  | nil => rfl
  | cons first rest =>
    rw [hmembers] at hc
    have hfilled := hc.isFilled_group (List.cons_ne_nil first rest) none
    have heffect := Criterion.effect_of_isFilled hfilled (hc.isLed_group none)
    rw [Criterion.effect] at heffect
    rw [heffect]
    rfl

end CatalogRecords.Query
