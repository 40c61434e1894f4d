import CatalogRecords.Query.Expression

/-!
# Simplifying and merging expressions

Simplification works from the inside out. Empty groups go; what then comes first in a group keeps
only a negation of its operator; and a group of one gives way to its only member, which takes over
the operator of the group. Last, a single group that is not negated gives its members to the
expression. Merging puts the criteria of two expressions side by side as two groups and simplifies.
-/

namespace CatalogRecords.Query

/-- The members with the operator of the first cut down to its negation. -/
def leadFirst : List Criterion → List Criterion
  | [] => []
  | c :: cs => c.withOperator (BooleanOperator.leading c.operator) :: cs

/-- A group of one as its only member. -/
def Criterion.collapse : Criterion → Criterion
  | .group outer [inner] => inner.withOperator (BooleanOperator.compose outer inner.operator)
  | c => c

/-- The members of a group, each simplified already, without empty groups and groups of one. -/
def tidy (members : List Criterion) : List Criterion :=
  (leadFirst (members.filter fun c => !c.isEmptyGroup)).map Criterion.collapse

mutual

/-- A criterion with simplified members. -/
def Criterion.simplify : Criterion → Criterion
  | .condition op test => .condition op test
  | .group op members => .group op (tidy (simplifyEach members))

/-- Criteria with simplified members. -/
def simplifyEach : List Criterion → List Criterion
  | [] => []
  | c :: cs => c.simplify :: simplifyEach cs

end

/-- The members of a group in simplified form. -/
def simplifyMembers (members : List Criterion) : List Criterion := tidy (simplifyEach members)

/-- The members of a single group that is not negated in the place of that group. -/
def unwrap (members : List Criterion) : List Criterion :=
  match members with
  | [.group op inner] => if op = some .not then members else leadFirst inner
  | _ => members

namespace Criteria

/-- The criteria with simplified members; a single group stays. -/
def simplifyMembers (c : Criteria) : Criteria :=
  { c with members := Query.simplifyMembers c.members }

/-- The criteria in simplified form. -/
def simplify (c : Criteria) : Criteria :=
  { c with members := unwrap (Query.simplifyMembers c.members) }

/-- The criteria of two expressions side by side, as far as there are any. -/
def beside (a b : Criteria) (op : BooleanOperator) : List Criterion :=
  let left : List Criterion := if a.members.isEmpty then [] else [.group none a.members]
  let joint := if left.isEmpty then BooleanOperator.leading (some op) else some op
  left ++ if b.members.isEmpty then [] else [.group joint b.members]

end Criteria

namespace SearchExpression

/-- The expression with simplified criteria. -/
def simplify (e : SearchExpression) : SearchExpression :=
  { e with criteria := e.criteria.simplify }

/-- The expression `a` with its criteria and those of `b`, joined by an operator. -/
def merge (a b : SearchExpression) (op : BooleanOperator) : SearchExpression :=
  ({ a with criteria := { members := a.criteria.beside b.criteria op } } :
    SearchExpression).simplify

end SearchExpression

/-- Simplifying each member is simplifying all. -/
theorem simplifyEach_eq_map (cs : List Criterion) :
    simplifyEach cs = cs.map Criterion.simplify := by
  induction cs with
  | nil => rfl
  | cons c cs ih => simp [simplifyEach, ih]

end CatalogRecords.Query
