import CatalogRecords.Proofs.Query.Simplification

/-!
# What merged expressions mean

Merging puts the criteria of two expressions side by side as two groups and simplifies. In the
reading of simplification the truth of the two groups is joined by the operator, or only one of them
is there. On proper criteria this reading is that of evaluation, so a merged expression answers what
the operator makes of the two answers.
-/

namespace CatalogRecords.Query

open BooleanOperator

variable {v : Condition → Bool} {t : DocumentType} {convention : DecimalConvention} {d : Document}

/-- A group of proper criteria has their truth in the reading of simplification. -/
theorem IsProper.coreTruth?_group {members : List Criterion} (h : IsProper members)
    (hne : members ≠ []) (op : Option BooleanOperator) :
    (Criterion.group op members).coreTruth? v = some ((truthFrom v none members).getD true) := by
  rw [Criterion.coreTruth?_eq_some (h.isFilled_group hne op) (h.isLed_group op), Criterion.truth]

namespace Criteria

variable {a b : Criteria} {op : BooleanOperator}

/-- Side by side, criteria have the conditions of both. -/
theorem conditionsIn_beside (a b : Criteria) (op : BooleanOperator) :
    conditionsIn (a.beside b op) = a.conditions ++ b.conditions := by
  have hgroup (op : Option BooleanOperator) (members : List Criterion) :
      conditionsIn (if members.isEmpty then [] else [.group op members]) =
        conditionsIn members := by
    cases members with
    | nil => rfl
    | cons c cs =>
      rw [List.isEmpty_cons, if_neg Bool.false_ne_true, conditionsIn, conditionsIn,
        List.append_nil, Criterion.conditions]
  rw [beside, conditionsIn_append, hgroup, hgroup, conditions, conditions]

/-- Two lists of proper criteria side by side are joined by the operator. -/
theorem coreFrom_beside (ha : IsProper a.members) (hb : IsProper b.members)
    (hane : a.members ≠ []) (hbne : b.members ≠ []) :
    coreFrom v none (a.beside b op) =
      some (combine (some ((truthFrom v none a.members).getD true)) op
        ((truthFrom v none b.members).getD true)) := by
  have hbeside : a.beside b op = [.group none a.members, .group (some op) b.members] := by
    simp [beside, hane, hbne]
  rw [hbeside, coreFrom, ha.coreTruth?_group hane, coreFrom, hb.coreTruth?_group hbne]
  rfl

/-- Proper criteria beside none keep the negation of the operator. -/
theorem coreFrom_beside_of_left_nil (hb : IsProper b.members) (hanil : a.members = [])
    (hbne : b.members ≠ []) :
    coreFrom v none (a.beside b op) =
      some (combineLed none (some op) ((truthFrom v none b.members).getD true)) := by
  have hbeside : a.beside b op = [.group (leading (some op)) b.members] := by
    simp [beside, hanil, hbne]
  rw [hbeside, coreFrom, hb.coreTruth?_group hbne]
  cases op <;> rfl

/-- Proper criteria that none are put beside stay as they are. -/
theorem coreFrom_beside_of_right_nil (ha : IsProper a.members) (hbnil : b.members = []) :
    (coreFrom v none (a.beside b op)).getD true = (truthFrom v none a.members).getD true := by
  by_cases hanil : a.members = []
  · have hbeside : a.beside b op = [] := by
      simp [beside, hanil, hbnil]
    rw [hbeside, hanil]
    rfl
  · have hbeside : a.beside b op = [.group none a.members] := by
      simp [beside, hanil, hbnil]
    rw [hbeside, coreFrom, ha.coreTruth?_group hanil]
    rfl

end Criteria

namespace SearchExpression

variable {a b : SearchExpression} {va vb : Bool}

/-- Merged expressions have the conditions of both. -/
theorem conditions_merge (a b : SearchExpression) (op : BooleanOperator) :
    (a.merge b op).criteria.conditions = a.criteria.conditions ++ b.criteria.conditions := by
  rw [merge, simplify, Criteria.conditions_simplify, Criteria.conditions,
    Criteria.conditionsIn_beside]

/-- Conditions are not lost, repeated or moved. Simplification keeps those at all depths in their
order, whether it stops before the outermost group or not, and merging puts those of the second
expression after those of the first. Nothing but the criteria of the (first) expression changes. -/
theorem conditions_are_kept (a b : SearchExpression) (op : BooleanOperator) :
    a.criteria.simplifyMembers.conditions = a.criteria.conditions ∧
    (a.simplify.criteria.conditions = a.criteria.conditions ∧ a.simplify.select = a.select ∧
      a.simplify.source = a.source ∧ a.simplify.orderBy = a.orderBy) ∧
    ((a.merge b op).criteria.conditions = a.criteria.conditions ++ b.criteria.conditions ∧
      (a.merge b op).select = a.select ∧ (a.merge b op).source = a.source ∧
      (a.merge b op).orderBy = a.orderBy) := by
  have hsimplified := a.criteria.conditions_simplify
  have hmerged := conditions_merge a b op
  exact ⟨a.criteria.conditions_simplifyMembers, ⟨hsimplified, rfl, rfl, rfl⟩,
    ⟨hmerged, rfl, rfl, rfl⟩⟩

/-- In criteria that are not proper, with empty groups and groups of one in each other and joining
operators in front, the order stays as well. -/
example : ({ select := [allFields], source := "SI", criteria := { members := [
    .group (some .or) [.group none [], .group (some .andNot) [
      .condition (some .and) ⟨"A", .equal, "1"⟩]],
    .condition none ⟨"B", .equal, "2"⟩,
    .group (some .not) [.group none [.condition (some .not) ⟨"A", .equal, "1"⟩]]] } } :
      SearchExpression).simplify.criteria.members = [
    .condition (some .not) ⟨"A", .equal, "1"⟩, .condition none ⟨"B", .equal, "2"⟩,
    .condition none ⟨"A", .equal, "1"⟩] := by
  decide

/-- If nothing goes wrong with two expressions on a document, nothing goes wrong when they are
merged, and the answer is the truth of their criteria side by side. -/
theorem evaluate_merge (ha : a.failure? t convention d = none)
    (hb : b.failure? t convention d = none) (op : BooleanOperator) :
    (a.merge b op).evaluate t convention d =
      .ok ((coreFrom (isMet (Condition.holds t convention d)) none
        (a.criteria.beside b.criteria op)).getD true) := by
  let joined : SearchExpression :=
    { a with criteria := { members := a.criteria.beside b.criteria op } }
  have hmerge : a.merge b op = joined.simplify := rfl
  have hfailure : joined.failure? t convention d = none := by
    rw [failure?_eq_none_iff] at ha hb ⊢
    refine ⟨ha.1, fun c hc => ?_⟩
    have hc : c ∈ a.criteria.conditions ++ b.criteria.conditions := by
      rw [← Criteria.conditionsIn_beside]
      exact hc
    rcases List.mem_append.mp hc with hc | hc
    · exact ha.2 c hc
    · exact hb.2 c hc
  rw [hmerge, evaluate_simplify, hfailure]
  rfl

/-- Merging two expressions with proper criteria that both have an answer on a document combines
their answers: by the operator if both have criteria, to what is left of the operator if only the
second has, and to the answer of the first if the second has none. -/
theorem merge_combines_answers (ha : IsProper a.criteria.members)
    (hb : IsProper b.criteria.members) (hva : a.evaluate t convention d = .ok va)
    (hvb : b.evaluate t convention d = .ok vb) :
    (a.criteria.members ≠ [] → b.criteria.members ≠ [] →
      (a.merge b .and).evaluate t convention d = .ok (va && vb) ∧
      (a.merge b .or).evaluate t convention d = .ok (va || vb) ∧
      (a.merge b .andNot).evaluate t convention d = .ok (va && !vb) ∧
      (a.merge b .orNot).evaluate t convention d = .ok (va || !vb)) ∧
    (a.criteria.members = [] → b.criteria.members ≠ [] →
      (a.merge b .and).evaluate t convention d = .ok vb ∧
      (a.merge b .or).evaluate t convention d = .ok vb ∧
      (a.merge b .andNot).evaluate t convention d = .ok (!vb) ∧
      (a.merge b .orNot).evaluate t convention d = .ok (!vb)) ∧
    (b.criteria.members = [] → ∀ op, (a.merge b op).evaluate t convention d = .ok va) := by
  obtain ⟨hafailure, rfl⟩ := evaluate_eq_ok_iff.mp hva
  obtain ⟨hbfailure, rfl⟩ := evaluate_eq_ok_iff.mp hvb
  have hmerge := evaluate_merge hafailure hbfailure
  refine ⟨fun hane hbne => ?_, fun hanil hbne => ?_, fun hbnil op => ?_⟩
  · have hjoined (op : BooleanOperator) : (a.merge b op).evaluate t convention d =
        .ok (combine (some (a.isMetBy t convention d)) op (b.isMetBy t convention d)) := by
      rw [hmerge op, Criteria.coreFrom_beside ha hb hane hbne]
      rfl
    exact ⟨hjoined .and, hjoined .or, hjoined .andNot, hjoined .orNot⟩
  · have hjoined (op : BooleanOperator) : (a.merge b op).evaluate t convention d =
        .ok (combineLed none op (b.isMetBy t convention d)) := by
      rw [hmerge op, Criteria.coreFrom_beside_of_left_nil hb hanil hbne]
      rfl
    exact ⟨hjoined .and, hjoined .or, hjoined .andNot, hjoined .orNot⟩
  · rw [hmerge op, Criteria.coreFrom_beside_of_right_nil ha hbnil]
    rfl

/-- A document type without elements. -/
def bareType : DocumentType := ⟨"SI", "", false, none, none, none, false, []⟩

/-- Documents with a package, said with two negations. -/
def packaged : SearchExpression where
  select := [allFields]
  source := "SI"
  criteria := { members := [.group (some .not) [
    .condition (some .not) ⟨"._package_name", .greater, ""⟩]] }

/-- Documents of two packages, said with a redundant group. -/
def ofTwoPackages : SearchExpression where
  select := [allFields]
  source := "SI"
  criteria := { members := [.group none [
    .condition none ⟨"._package_name", .equal, "a"⟩,
    .condition (some .or) ⟨"._package_name", .equal, "b"⟩]] }

/-- A document of the second package. -/
def secondPackage : Document where
  documentType := "SI"
  packageName := "B"

/-- The document meets both expressions, so it does not meet the first without the second, nor the
second alone with its negation. -/
theorem merge_packaged_ofTwoPackages :
    packaged.evaluate bareType .point secondPackage = .ok true ∧
      ofTwoPackages.evaluate bareType .point secondPackage = .ok true ∧
      (packaged.merge ofTwoPackages .andNot).evaluate bareType .point secondPackage = .ok false ∧
      ((all "SI").merge ofTwoPackages .orNot).evaluate bareType .point secondPackage =
        .ok false := by
  have hpackaged : IsProper packaged.criteria.members := ⟨by decide, by decide, by decide⟩
  have htwo : IsProper ofTwoPackages.criteria.members := ⟨by decide, by decide, by decide⟩
  have hall : IsProper (all "SI").criteria.members := ⟨by decide, by decide, by decide⟩
  have hpackagedAnswer : packaged.evaluate bareType .point secondPackage = .ok true := rfl
  have htwoAnswer : ofTwoPackages.evaluate bareType .point secondPackage = .ok true := rfl
  have hallAnswer : (all "SI").evaluate bareType .point secondPackage = .ok true := rfl
  have hboth := merge_combines_answers hpackaged htwo hpackagedAnswer htwoAnswer
  have hsecond := merge_combines_answers hall htwo hallAnswer htwoAnswer
  exact ⟨hpackagedAnswer, htwoAnswer, (hboth.1 (by decide) (by decide)).2.2.1,
    (hsecond.2.1 rfl (by decide)).2.2.2⟩

end SearchExpression

end CatalogRecords.Query
