import CatalogRecords.Query.Expression

/-!
# The shape of criteria

What can be said of criteria without looking at their conditions: whether a group somewhere is
empty, and whether the first member of a group has an operator that joins it to nothing. The two
make criteria `IsProper`.
-/

namespace CatalogRecords.Query

mutual

/-- Whether no group is empty, neither the criterion itself nor one in it. -/
def Criterion.isFilled : Criterion → Bool
  | .condition _ _ => true
  | .group _ members => !members.isEmpty && allFilled members

/-- Whether no group in the criteria is empty. -/
def allFilled : List Criterion → Bool
  | [] => true
  | c :: cs => c.isFilled && allFilled cs

end

/-- No group in several criteria is empty if none is in each of them. -/
theorem allFilled_eq_all (cs : List Criterion) : allFilled cs = cs.all Criterion.isFilled := by
  induction cs with
  | nil => rfl
  | cons c cs ih => rw [allFilled, ih, List.all_cons]

/-- Whether what comes first among criteria has no operator, or a negation. -/
def leads : List Criterion → Bool
  | [] => true
  | c :: _ => BooleanOperator.isLeading c.operator

mutual

/-- Whether in each group, the criterion itself included, the first member has no operator, or a
negation. -/
def Criterion.isLed : Criterion → Bool
  | .condition _ _ => true
  | .group _ members => leads members && allLed members

/-- Whether in each group among criteria the first member has no operator, or a negation. -/
def allLed : List Criterion → Bool
  | [] => true
  | c :: cs => c.isLed && allLed cs

end

/-- In each group among several criteria a member leads if it does in those of each of them. -/
theorem allLed_eq_all (cs : List Criterion) : allLed cs = cs.all Criterion.isLed := by
  induction cs with
  | nil => rfl
  | cons c cs ih => rw [allLed, ih, List.all_cons]

/-- Criteria in which no group is empty and the first member of each has no operator, or a
negation. -/
structure IsProper (cs : List Criterion) : Prop where
  filled : allFilled cs = true
  leads : leads cs = true
  led : allLed cs = true

namespace IsProper

variable {cs : List Criterion}

/-- In a group of proper criteria no group is empty. -/
theorem isFilled_group (h : IsProper cs) (hne : cs ≠ []) (op : Option BooleanOperator) :
    (Criterion.group op cs).isFilled = true := by
  rw [Criterion.isFilled, h.filled, List.isEmpty_eq_false_iff.mpr hne]
  rfl

/-- In a group of proper criteria the first members lead. -/
theorem isLed_group (h : IsProper cs) (op : Option BooleanOperator) :
    (Criterion.group op cs).isLed = true := by
  rw [Criterion.isLed, h.leads, h.led]
  rfl

end IsProper

end CatalogRecords.Query
