import CatalogRecords.Proofs.Query.Faithfulness
import CatalogRecords.Query.Reader

/-!
# When simplification keeps every answer

That faithful criteria keep their answers is exact. The effect of simplification on criteria was
computed without their conditions, and every difference that it allows comes about with conditions
that are met or not, independently of each other. So criteria that are not faithful have an answer
that changes, once there are other conditions in the place of theirs.
-/

namespace CatalogRecords.Query

variable {v : Condition → Bool}

mutual

/-- A criterion with one and the same condition throughout. -/
def Criterion.form : Criterion → Criterion
  | .condition op _ => .condition op ⟨"", .equal, ""⟩
  | .group op members => .group op (formEach members)

/-- Criteria with one and the same condition throughout. -/
def formEach : List Criterion → List Criterion
  | [] => []
  | c :: cs => c.form :: formEach cs

end

/-- Pairs of truths are as different as an effect says they can be. -/
def Effect.IsShownBy (pairs : Bool → Option Bool → Prop) : Effect → Prop
  | constant value => pairs value none
  | varying turned =>
    (∀ core, ∃ truth, pairs truth (some core)) ∧
      ∀ r, turned ≠ some r → ∃ truth, pairs truth (some (truth ^^ !r))

/-- Pairs of truths of what came before are as different as its effect says they can be. -/
def IsShownFrom (pairs : Option Bool → Option Bool → Prop) : Option Effect → Prop
  | none => pairs none none
  | some effect => effect.IsShownBy fun truth core => pairs (some truth) core

/-- The pairs of truths of what came before together with a criterion, given those of both. -/
inductive Joined (before : Option Bool → Option Bool → Prop) (op : Option BooleanOperator)
    (pairs : Bool → Option Bool → Prop) : Option Bool → Option Bool → Prop where
  | intro {truth core : Option Bool} {truth' : Bool} {core' : Option Bool}
      (hbefore : before truth core) (hpairs : pairs truth' core') :
      Joined before op pairs (some (combine truth op truth')) (joinLed core op core')

/-- Two criteria whose truth varies can differ together if the first can. -/
theorem exists_combine_ne_of_left (op : Option BooleanOperator) (l₀ l₁ l r₀ r₁ : Bool) :
    ∃ p ∈ [(l₀, false), (l₁, true), (l, !l)], ∃ q ∈ [(r₀, false), (r₁, true)],
      combine (some p.2) op q.2 = !combine (some p.1) op q.1 := by
  rcases op with - | (_ | _ | _ | _ | _) <;> revert l₀ l₁ l r₀ r₁ <;> decide

/-- Two criteria whose truth varies can differ together if the second can. -/
theorem exists_combine_ne_of_right (op : Option BooleanOperator) (l₀ l₁ r₀ r₁ r : Bool) :
    ∃ p ∈ [(l₀, false), (l₁, true)], ∃ q ∈ [(r₀, false), (r₁, true), (r, !r)],
      combine (some p.2) op q.2 = !combine (some p.1) op q.1 := by
  rcases op with - | (_ | _ | _ | _ | _) <;> revert l₀ l₁ r₀ r₁ r <;> decide

/-- Two criteria whose truth varies can be alike together. -/
theorem exists_combine_eq (op : Option BooleanOperator) (l₀ l₁ r₀ r₁ : Bool) :
    ∃ p ∈ [(l₀, false), (l₁, true)], ∃ q ∈ [(r₀, false), (r₁, true)],
      combine (some p.2) op q.2 = combine (some p.1) op q.1 := by
  rcases op with - | (_ | _ | _ | _ | _) <;> revert l₀ l₁ r₀ r₁ <;> decide

/-- Each truth comes from some truth in front of everything in the reading of simplification. -/
theorem exists_combineLed_none (op : Option BooleanOperator) (core : Bool) :
    ∃ value, combineLed none op value = core := by
  refine ⟨combineLed none op false ^^ core, ?_⟩
  have hvalue := combineLed_none_xor op false (combineLed none op false ^^ core)
  rw [Bool.false_xor] at hvalue
  rw [hvalue, ← Bool.xor_assoc, Bool.xor_self, Bool.false_xor]

/-- After what has no truth in the reading of simplification, a criterion with each truth in that
reading leads to each truth. -/
theorem Joined.exists_core {firsts : Option Bool → Option Bool → Prop}
    {pairs : Bool → Option Bool → Prop} {first : Option Bool} (hfirst : firsts first none)
    (hpairs : ∀ core, ∃ truth, pairs truth (some core)) (op : Option BooleanOperator)
    (core : Bool) : ∃ truth, Joined firsts op pairs (some truth) (some core) := by
  obtain ⟨value, hvalue⟩ := exists_combineLed_none op core
  obtain ⟨truth, htruth⟩ := hpairs value
  refine ⟨combine first op truth, ?_⟩
  rw [← hvalue]
  exact .intro hfirst htruth

/-- Each truth comes from some two truths that are joined. -/
theorem exists_combine_some (op : Option BooleanOperator) (core : Bool) :
    ∃ before value, combine (some before) op value = core := by
  obtain ⟨value, hvalue⟩ := exists_combineLed_none op core
  exact ⟨neutral op, value, by rw [combine_neutral, hvalue]⟩

namespace Effect

variable {firsts : Option Bool → Option Bool → Prop} {pairs : Bool → Option Bool → Prop}
  {turned turned' : Option Bool} {value before : Bool}

/-- What the effect on a criterion in front allows is shown by what shows the effect on it. -/
theorem IsShownBy.first (hfirsts : firsts none none) (hpairs : (varying turned).IsShownBy pairs)
    (op : Option BooleanOperator) :
    (join none op (varying turned)).IsShownBy fun truth core =>
      Joined firsts op pairs (some truth) core := by
  obtain ⟨hcore, hturned⟩ := hpairs
  refine ⟨fun core => ?_, fun r hr => ?_⟩
  · exact Joined.exists_core hfirsts hcore op core
  · have hne : turned ≠ some (r ^^ turns op) := by
      rintro rfl
      apply hr
      rw [Option.map_some, Bool.xor_assoc, Bool.xor_self, Bool.xor_false]
    obtain ⟨truth, htruth⟩ := hturned _ hne
    refine ⟨combine none op truth, ?_⟩
    have hcore :
        combineLed none op (truth ^^ !(r ^^ turns op)) = (combine none op truth ^^ !r) := by
      rw [combineLed_none, combine_none_xor, Bool.xor_assoc, ← Bool.not_xor, Bool.xor_assoc,
        Bool.xor_self, Bool.xor_false]
    rw [← hcore]
    exact .intro hfirsts htruth

/-- What the effect on a criterion after a fixed truth allows is shown by what shows the effect on
it. -/
theorem IsShownBy.after_constant (hfirsts : firsts (some before) none)
    (hpairs : (varying turned).IsShownBy pairs) (op : Option BooleanOperator) :
    (join (some (constant before)) op (varying turned)).IsShownBy fun truth core =>
      Joined firsts op pairs (some truth) core := by
  obtain ⟨hcore, hturned⟩ := hpairs
  refine ⟨fun core => ?_, fun r hr => ?_⟩
  · exact Joined.exists_core hfirsts hcore op core
  · by_cases hneutral : before = neutral op
    · rw [if_pos hneutral] at hr
      obtain ⟨truth, htruth⟩ := hturned r hr
      refine ⟨combine (some before) op truth, ?_⟩
      have hcore : combineLed none op (truth ^^ !r) = (combine (some before) op truth ^^ !r) := by
        rw [hneutral, combine_neutral, combineLed_none_xor]
      rw [← hcore]
      exact .intro hfirsts htruth
    · obtain ⟨value, hvalue⟩ := exists_combineLed_none op (!neutral op ^^ !r)
      obtain ⟨truth, htruth⟩ := hcore value
      refine ⟨!neutral op, ?_⟩
      rw [← hvalue, ← combine_of_ne_neutral hneutral truth]
      exact .intro hfirsts htruth

/-- What the effect before a fixed truth allows is shown by what shows that effect. -/
theorem IsShownBy.before_constant
    (hfirsts : (varying turned).IsShownBy fun truth core => firsts (some truth) core)
    (hpairs : pairs value none) (op : Option BooleanOperator) :
    (join (some (varying turned)) op (constant value)).IsShownBy fun truth core =>
      Joined firsts op pairs (some truth) core := by
  obtain ⟨hcore, hturned⟩ := hfirsts
  refine ⟨fun core => ?_, fun r hr => ?_⟩
  · obtain ⟨truth, htruth⟩ := hcore core
    exact ⟨combine (some truth) op value, .intro htruth hpairs⟩
  · by_cases hneutral : combine (some (neutral op)) op value = neutral op
    · rw [if_pos hneutral] at hr
      obtain ⟨truth, htruth⟩ := hturned r hr
      refine ⟨truth, ?_⟩
      have hjoined : Joined firsts op pairs _ _ := .intro htruth hpairs
      rw [combine_of_eq_neutral hneutral] at hjoined
      exact hjoined
    · obtain ⟨truth, htruth⟩ := hcore (!neutral op ^^ !r)
      refine ⟨!neutral op, ?_⟩
      have hjoined : Joined firsts op pairs _ _ := .intro htruth hpairs
      rw [combine_eq_of_ne_neutral hneutral] at hjoined
      exact hjoined

/-- What the effect on two criteria with conditions allows is shown by what shows the effects on
both. -/
theorem IsShownBy.both
    (hfirsts : (varying turned).IsShownBy fun truth core => firsts (some truth) core)
    (hpairs : (varying turned').IsShownBy pairs) (op : Option BooleanOperator) :
    (join (some (varying turned)) op (varying turned')).IsShownBy fun truth core =>
      Joined firsts op pairs (some truth) core := by
  obtain ⟨hcore, hturned⟩ := hfirsts
  obtain ⟨hcore', hturned'⟩ := hpairs
  obtain ⟨l₀, hl₀⟩ := hcore false
  obtain ⟨l₁, hl₁⟩ := hcore true
  obtain ⟨r₀, hr₀⟩ := hcore' false
  obtain ⟨r₁, hr₁⟩ := hcore' true
  have hleft : ∀ p ∈ [(l₀, false), (l₁, true)], firsts (some p.1) (some p.2) := by
    simp [hl₀, hl₁]
  have hright : ∀ q ∈ [(r₀, false), (r₁, true)], pairs q.1 (some q.2) := by
    simp [hr₀, hr₁]
  refine ⟨fun core => ?_, fun r hr => ?_⟩
  · obtain ⟨before, value, hvalue⟩ := exists_combine_some op core
    obtain ⟨truth, htruth⟩ := hcore before
    obtain ⟨truth', htruth'⟩ := hcore' value
    refine ⟨combine (some truth) op truth', ?_⟩
    rw [← hvalue]
    exact .intro htruth htruth'
  · -- a pair from either side is enough, as long as the two together come out as `r` asks
    suffices h : ∃ p q : Bool × Bool, firsts (some p.1) (some p.2) ∧ pairs q.1 (some q.2) ∧
        combine (some p.2) op q.2 = (combine (some p.1) op q.1 ^^ !r) by
      obtain ⟨p, q, hp, hq, hcombine⟩ := h
      refine ⟨combine (some p.1) op q.1, ?_⟩
      rw [← hcombine]
      exact .intro hp hq
    cases r with
    | true =>
      obtain ⟨p, hp, q, hq, hcombine⟩ := exists_combine_eq op l₀ l₁ r₀ r₁
      refine ⟨p, q, hleft p hp, hright q hq, ?_⟩
      rw [hcombine, Bool.not_true, Bool.xor_false]
    | false =>
      by_cases hturn : turned = some false
      · have hturn' : turned' ≠ some false := fun hturn' => hr (if_pos ⟨hturn, hturn'⟩)
        obtain ⟨r, hr⟩ := hturned' false hturn'
        obtain ⟨p, hp, q, hq, hcombine⟩ := exists_combine_ne_of_right op l₀ l₁ r₀ r₁ r
        have hright : ∀ q ∈ [(r₀, false), (r₁, true), (r, !r)], pairs q.1 (some q.2) := by
          simpa [hr₀, hr₁] using hr
        refine ⟨p, q, hleft p hp, hright q hq, ?_⟩
        rw [hcombine, Bool.not_false, Bool.xor_true]
      · obtain ⟨l, hl⟩ := hturned false hturn
        obtain ⟨p, hp, q, hq, hcombine⟩ := exists_combine_ne_of_left op l₀ l₁ l r₀ r₁
        have hleft : ∀ p ∈ [(l₀, false), (l₁, true), (l, !l)], firsts (some p.1) (some p.2) := by
          simpa [hl₀, hl₁] using hl
        refine ⟨p, q, hleft p hp, hright q hq, ?_⟩
        rw [hcombine, Bool.not_false, Bool.xor_true]

end Effect

namespace IsShownFrom

variable {firsts pairs' : Option Bool → Option Bool → Prop} {pairs : Bool → Option Bool → Prop}
  {before : Option Effect} {effect : Effect}

/-- The effect on what came before and the next criterion is shown by what shows both effects. -/
theorem join (hbefore : IsShownFrom firsts before) (heffect : effect.IsShownBy pairs)
    (op : Option BooleanOperator) :
    IsShownFrom (Joined firsts op pairs) (some (Effect.join before op effect)) := by
  match before, effect with
  | none, .constant value => exact .intro hbefore heffect
  | none, .varying turned => exact Effect.IsShownBy.first hbefore heffect op
  | some (.constant before), .constant value => exact .intro hbefore heffect
  | some (.constant before), .varying turned => exact .after_constant hbefore heffect op
  | some (.varying turned), .constant value => exact .before_constant hbefore heffect op
  | some (.varying turned), .varying turned' => exact .both hbefore heffect op

/-- More pairs show the same effects. -/
theorem mono (hfirsts : IsShownFrom firsts before)
    (h : ∀ truth core, firsts truth core → pairs' truth core) : IsShownFrom pairs' before := by
  match before with
  | none => exact h none none hfirsts
  | some (.constant value) => exact h _ _ hfirsts
  | some (.varying turned) =>
    obtain ⟨hcore, hturned⟩ := hfirsts
    refine ⟨fun core => ?_, fun r hr => ?_⟩
    · obtain ⟨truth, htruth⟩ := hcore core
      exact ⟨truth, h _ _ htruth⟩
    · obtain ⟨truth, htruth⟩ := hturned r hr
      exact ⟨truth, h _ _ htruth⟩

/-- Pairs for criteria show the effect on a group of them. -/
theorem getD (hfirsts : IsShownFrom firsts before) {pairs : Bool → Option Bool → Prop}
    (h : ∀ truth core, firsts truth core → pairs (truth.getD true) core) :
    (before.getD (.constant true)).IsShownBy pairs := by
  match before with
  | none => exact h none none hfirsts
  | some effect =>
    have hsome : IsShownFrom (fun truth core => pairs (truth.getD true) core) (some effect) :=
      hfirsts.mono h
    exact hsome

end IsShownFrom

/-- The criteria have the form of others, and one of two conditions wherever there is one. -/
def IsFilling (yes no : Condition) (cs cs' : List Criterion) : Prop :=
  formEach cs' = formEach cs ∧ ∀ x ∈ conditionsIn cs', x = yes ∨ x = no

/-- The pairs of truths of what came before together with criteria that have one of two conditions
wherever there is one. -/
def Outcomes (v : Condition → Bool) (yes no : Condition) (before : Option Bool → Option Bool → Prop)
    (cs : List Criterion) (truth core : Option Bool) : Prop :=
  ∃ cs', IsFilling yes no cs cs' ∧ ∃ truth₀ core₀, before truth₀ core₀ ∧
    truthFrom v truth₀ cs' = truth ∧ coreFrom v core₀ cs' = core

/-- The pairs of truths of a criterion that has one of two conditions wherever there is one. -/
def Criterion.Outcomes (v : Condition → Bool) (yes no : Condition) (c : Criterion) (truth : Bool)
    (core : Option Bool) : Prop :=
  ∃ c' : Criterion, c'.form = c.form ∧ (∀ x ∈ c'.conditions, x = yes ∨ x = no) ∧
    c'.truth v = truth ∧ c'.coreTruth? v = core

/-- Criteria of one form have one operator. -/
theorem Criterion.operator_eq_of_form_eq {c c' : Criterion} (h : c'.form = c.form) :
    c'.operator = c.operator := by
  cases c <;> cases c' <;> simp_all [Criterion.form, Criterion.operator]

variable {yes no : Condition}

mutual

/-- The effect on a criterion is shown by putting other conditions into it. -/
theorem Criterion.isShownBy_outcomes (hyes : v yes = true) (hno : v no = false) (c : Criterion) :
    c.effect.IsShownBy (c.Outcomes v yes no) := by
  cases c with
  | condition op condition =>
    have hfilling (x : Condition) (hx : x = yes ∨ x = no) :
        (Criterion.condition op condition).Outcomes v yes no (v x) (some (v x)) := by
      refine ⟨.condition op x, ?_, ?_, ?_, ?_⟩
      · rw [Criterion.form, Criterion.form]
      · simpa [Criterion.conditions] using hx
      · rw [Criterion.truth]
      · rw [Criterion.coreTruth?]
    have hall (truth : Bool) :
        (Criterion.condition op condition).Outcomes v yes no truth (some truth) := by
      cases truth with
      | true => exact hyes ▸ hfilling yes (Or.inl rfl)
      | false => exact hno ▸ hfilling no (Or.inr rfl)
    rw [Criterion.effect]
    refine ⟨fun core => ⟨core, hall core⟩, fun r hr => ?_⟩
    cases r with
    | true => exact ⟨true, hall true⟩
    | false => exact absurd rfl hr
  | group op members =>
    have hnone : IsShownFrom (fun truth core => truth = none ∧ core = none) none := ⟨rfl, rfl⟩
    rw [Criterion.effect]
    refine (isShownFrom_outcomes hyes hno hnone members).getD ?_
    rintro truth core ⟨members', ⟨hform, hconditions⟩, -, -, ⟨rfl, rfl⟩, rfl, rfl⟩
    refine ⟨.group op members', ?_, ?_, ?_, ?_⟩
    · rw [Criterion.form, Criterion.form, hform]
    · rw [Criterion.conditions]
      exact hconditions
    · rw [Criterion.truth]
    · rw [Criterion.coreTruth?]

/-- The effect on criteria is shown by putting other conditions into them. -/
theorem isShownFrom_outcomes (hyes : v yes = true) (hno : v no = false)
    {before : Option Effect} {firsts : Option Bool → Option Bool → Prop}
    (hfirsts : IsShownFrom firsts before) (cs : List Criterion) :
    IsShownFrom (Outcomes v yes no firsts cs) (effectFrom before cs) := by
  cases cs with
  | nil =>
    refine hfirsts.mono fun truth core h => ?_
    exact ⟨[], ⟨rfl, fun x hx => absurd hx List.not_mem_nil⟩, truth, core, h, rfl, rfl⟩
  | cons c cs =>
    -- the pairs for the first member are those that the rest goes on from
    rw [effectFrom]
    have hjoin := hfirsts.join (Criterion.isShownBy_outcomes hyes hno c) c.operator
    refine (isShownFrom_outcomes hyes hno hjoin cs).mono ?_
    rintro truth core ⟨cs', ⟨hform, hconditions⟩, truth₀, core₀, hjoined, rfl, rfl⟩
    obtain ⟨hfirst, c', hform', hconditions', rfl, rfl⟩ := hjoined
    refine ⟨c' :: cs', ⟨?_, ?_⟩, _, _, hfirst, ?_, ?_⟩
    · rw [formEach, formEach, hform', hform]
    · intro x hx
      rw [conditionsIn] at hx
      exact (List.mem_append.mp hx).elim (hconditions' x) (hconditions x)
    · rw [truthFrom, Criterion.operator_eq_of_form_eq hform']
    · rw [coreFrom, Criterion.operator_eq_of_form_eq hform']

end

/-- Criteria that are not faithful have a truth that is not kept once other conditions are put into
them. -/
theorem exists_filling_of_not_isFaithful (hyes : v yes = true) (hno : v no = false)
    {c : Criteria} (hc : c.isFaithful = false) :
    ∃ members, IsFilling yes no c.members members ∧
      (coreFrom v none members).getD true ≠ (truthFrom v none members).getD true := by
  have hnone : IsShownFrom (fun truth core => truth = none ∧ core = none) none := ⟨rfl, rfl⟩
  have hshown : ((effectFrom none c.members).getD (.constant true)).IsShownBy fun truth core =>
      ∃ members, IsFilling yes no c.members members ∧
        (truthFrom v none members).getD true = truth ∧ coreFrom v none members = core := by
    refine (isShownFrom_outcomes hyes hno hnone c.members).getD ?_
    rintro truth core ⟨members, hmembers, -, -, ⟨rfl, rfl⟩, rfl, rfl⟩
    exact ⟨members, hmembers, rfl, rfl⟩
  rw [Criteria.isFaithful, Bool.or_eq_false_iff, beq_eq_false_iff_ne, beq_eq_false_iff_ne] at hc
  cases heffect : (effectFrom none c.members).getD (.constant true) with
  | constant value =>
    rw [heffect] at hc hshown
    have hvalue : value = false := by
      cases value with
      | true => exact absurd rfl hc.2
      | false => rfl
    obtain ⟨members, hmembers, htruth, hcore⟩ := hshown
    refine ⟨members, hmembers, ?_⟩
    rw [htruth, hcore, hvalue]
    decide
  | varying turned =>
    rw [heffect] at hc hshown
    have hturned : turned ≠ some false := fun hturned => hc.1 (hturned ▸ rfl)
    obtain ⟨truth, members, hmembers, htruth, hcore⟩ := hshown.2 false hturned
    refine ⟨members, hmembers, ?_⟩
    rw [htruth, hcore]
    cases truth <;> decide

/-! The exact condition. -/

mutual

/-- The effect on a criterion is that on its form. -/
theorem Criterion.effect_form (c : Criterion) : c.form.effect = c.effect := by
  cases c with
  | condition op condition => rw [Criterion.form, Criterion.effect, Criterion.effect]
  | group op members =>
    rw [Criterion.form, Criterion.effect, Criterion.effect, effectFrom_formEach none members]

/-- The effect on criteria is that on their form. -/
theorem effectFrom_formEach (before : Option Effect) (cs : List Criterion) :
    effectFrom before (formEach cs) = effectFrom before cs := by
  cases cs with
  | nil => rfl
  | cons c cs =>
    have hoperator : c.form.operator = c.operator := by
      cases c <;> simp only [Criterion.form, Criterion.operator]
    rw [formEach, effectFrom, effectFrom, hoperator, Criterion.effect_form c]
    exact effectFrom_formEach _ cs

end

/-- A condition on the name of the package, which every document answers for. -/
def packageCondition (comparator : Comparator) : Condition := ⟨"._package_name", comparator, ""⟩

/-- A condition on the name of the package asks for no element. -/
theorem ofText_packageCondition (comparator : Comparator) :
    FieldRef.ofText (packageCondition comparator).field =
      ⟨"", some Metafield.packageName.name⟩ := by
  have hfield : FieldRef.ofText "._package_name" = ⟨"", some Metafield.packageName.name⟩ := by
    decide
  exact hfield

/-- Every document answers a condition on the name of the package. -/
theorem holds_packageCondition (t : DocumentType) (convention : DecimalConvention) (d : Document)
    (comparator : Comparator) :
    (packageCondition comparator).holds t convention d =
      .ok (comparator.holdsOfTexts d.packageName "") := by
  rw [Condition.holds, ofText_packageCondition]
  simp only [Metafield.ofName?_name]
  rfl

/-- A condition on the name of the package is met if the name compares so. -/
theorem isMet_packageCondition (t : DocumentType) (convention : DecimalConvention) (d : Document)
    (comparator : Comparator) :
    isMet (Condition.holds t convention d) (packageCondition comparator) =
      comparator.holdsOfTexts d.packageName "" := by
  rw [isMet, holds_packageCondition]

/-- Nothing goes wrong with conditions on the name of the package. -/
theorem failure?_eq_none_of_packageCondition {e : SearchExpression} {d : Document}
    (hsource : e.source = d.documentType)
    (hconditions : ∀ x ∈ e.criteria.conditions,
      x = packageCondition .equal ∨ x = packageCondition .less)
    (t : DocumentType) (convention : DecimalConvention) : e.failure? t convention d = none := by
  have hpackage (x : Condition) (hx : x ∈ e.criteria.conditions) :
      ∃ comparator, x = packageCondition comparator :=
    (hconditions x hx).elim (fun hx => ⟨.equal, hx⟩) (fun hx => ⟨.less, hx⟩)
  rw [SearchExpression.failure?_eq_none_iff]
  refine ⟨hsource, fun x hx => ?_⟩
  obtain ⟨comparator, rfl⟩ := hpackage x hx
  refine ⟨fun m hm => ?_, _, holds_packageCondition t convention d comparator⟩
  rw [ofText_packageCondition, FieldRef.known?, Option.bind_some, Metafield.ofName?_name] at hm
  cases hm
  rfl

namespace SearchExpression

/-- An expression with other criteria. -/
def withMembers (e : SearchExpression) (members : List Criterion) : SearchExpression :=
  { e with criteria := { e.criteria with members := members } }

/-- What simplification does to the answer of an expression. On a document the answer is kept
exactly if something goes wrong, or if the criteria have one truth in both readings. Whatever the
conditions are, on all documents it is kept exactly for faithful criteria. -/
theorem simplify_keeps_answers_iff (e : SearchExpression) (t : DocumentType)
    (convention : DecimalConvention) :
    (∀ d, e.simplify.evaluate t convention d = e.evaluate t convention d ↔
      e.failure? t convention d ≠ none ∨
        e.isCoreMetBy t convention d = e.isMetBy t convention d) ∧
    ((∀ members, formEach members = formEach e.criteria.members → ∀ d,
      (e.withMembers members).simplify.evaluate t convention d =
        (e.withMembers members).evaluate t convention d) ↔
      e.criteria.isFaithful = true) := by
  refine ⟨fun d => e.evaluate_simplify_eq_iff, fun hkeeps => ?_,
    fun hfaithful members hform d => ?_⟩
  · refine (Bool.eq_false_or_eq_true e.criteria.isFaithful).resolve_right fun hfaithful => ?_
    -- the name of the package is empty, so one of the two conditions is met and the other is not
    let d : Document := { documentType := e.source }
    have hyes : isMet (Condition.holds t convention d) (packageCondition .equal) = true := by
      rw [isMet_packageCondition]
      rfl
    have hno : isMet (Condition.holds t convention d) (packageCondition .less) = false := by
      rw [isMet_packageCondition]
      rfl
    obtain ⟨members, ⟨hform, hconditions⟩, hne⟩ :=
      exists_filling_of_not_isFaithful hyes hno hfaithful
    have hfailure : (e.withMembers members).failure? t convention d = none :=
      failure?_eq_none_of_packageCondition (e := e.withMembers members) rfl hconditions t convention
    rcases (e.withMembers members).evaluate_simplify_eq_iff.mp (hkeeps members hform d) with h | h
    · exact h hfailure
    · exact hne h
  · have heffect : effectFrom none members = effectFrom none e.criteria.members := by
      rw [← effectFrom_formEach, hform, effectFrom_formEach]
    have hmembers : (e.withMembers members).criteria.isFaithful = true := by
      rw [Criteria.isFaithful] at hfaithful ⊢
      rw [withMembers, heffect]
      exact hfaithful
    exact evaluate_simplify_eq_iff _ |>.mpr (Or.inr (Criteria.truth_eq_of_isFaithful hmembers _))

/-- An expression whose first condition has a negation and a joining word. -/
def withLeadingNegation : SearchExpression where
  select := [allFields]
  source := "SI"
  criteria := { members := [.condition (some .andNot) (packageCondition .equal)] }

/-- An expression with an empty group. -/
def withEmptyGroup : SearchExpression where
  select := [allFields]
  source := "SI"
  criteria := { members := [.condition none (packageCondition .less), .group (some .or) []] }

/-- Both are read from texts, and on a document without a package the answer changes from yes to
no, whatever the schema and the convention. -/
theorem simplify_changes_answers :
    read .strict "SELECT * FROM SI WHERE AND NOT ._package_name = \"\"" = .ok withLeadingNegation ∧
      read .lenient "SELECT * FROM SI WHERE ._package_name < \"\" OR ()" = .ok withEmptyGroup ∧
      ∀ e ∈ [withLeadingNegation, withEmptyGroup], ∀ t convention,
        e.evaluate t convention { documentType := "SI" } = .ok true ∧
          e.simplify.evaluate t convention { documentType := "SI" } = .ok false := by
  refine ⟨rfl, rfl, fun e he t convention => ?_⟩
  rw [List.mem_cons, List.mem_singleton] at he
  rcases he with rfl | rfl
  · exact ⟨rfl, rfl⟩
  · exact ⟨rfl, rfl⟩

end SearchExpression

end CatalogRecords.Query
