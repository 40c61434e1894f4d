import CatalogRecords.Query.Token

/-!
# Search expressions

A search expression names the fields that are wanted, the document type that is searched, the
criteria a document has to meet and the order of the answer. Criteria are conditions on fields and
groups of criteria, each joined to what stands before it by an operator.
-/

namespace CatalogRecords.Query

/-- A comparison of a field with a literal. -/
structure Condition where
  field : String
  comparator : Comparator
  literal : String
  deriving DecidableEq, Repr

/-- A condition or a group of criteria, with the operator that joins it to those before it. -/
inductive Criterion where
  | condition (operator : Option BooleanOperator) (test : Condition)
  | group (operator : Option BooleanOperator) (members : List Criterion)
  deriving Repr

mutual

/-- Decides whether two criteria are equal. -/
def Criterion.decEq : (a b : Criterion) → Decidable (a = b)
  | .condition op test, .condition op' test' =>
    decidable_of_iff (op = op' ∧ test = test') (by simp)
  | .group op members, .group op' members' =>
    match decEqCriteria members members' with
    | isTrue same => decidable_of_iff (op = op') (by simp [same])
    | isFalse differ => isFalse (by simp [differ])
  | .condition _ _, .group _ _ => isFalse (by simp)
  | .group _ _, .condition _ _ => isFalse (by simp)

/-- Decides whether two lists of criteria are equal. -/
def decEqCriteria : (as bs : List Criterion) → Decidable (as = bs)
  | [], [] => isTrue rfl
  | [], _ :: _ => isFalse (by simp)
  | _ :: _, [] => isFalse (by simp)
  | a :: as, b :: bs =>
    match a.decEq b with
    | isTrue same =>
      match decEqCriteria as bs with
      | isTrue sameRest => isTrue (by simp [same, sameRest])
      | isFalse differ => isFalse (by simp [differ])
    | isFalse differ => isFalse (by simp [differ])

end

/-- Equality of criteria can be decided. -/
instance : DecidableEq Criterion := Criterion.decEq

namespace Criterion

/-- The operator that joins a criterion to those before it. -/
def operator : Criterion → Option BooleanOperator
  | condition op _ => op
  | group op _ => op

/-- The criterion with another operator. -/
def withOperator (op : Option BooleanOperator) : Criterion → Criterion
  | condition _ test => condition op test
  | group _ members => group op members

/-- Whether a criterion is a group that holds nothing. -/
def isEmptyGroup : Criterion → Bool
  | group _ [] => true
  | _ => false

end Criterion

mutual

/-- The conditions of a criterion at all depths, in order. -/
def Criterion.conditions : Criterion → List Condition
  | .condition _ test => [test]
  | .group _ members => conditionsIn members

/-- The conditions of criteria at all depths, in order. -/
def conditionsIn : List Criterion → List Condition
  | [] => []
  | c :: cs => c.conditions ++ conditionsIn cs

end

mutual

/-- Whether a criterion is a group of one, or holds a group of one somewhere. -/
def Criterion.isRedundant : Criterion → Bool
  | .condition _ _ => false
  | .group _ members => members.length == 1 || anyRedundant members

/-- Whether one of the criteria is redundant. -/
def anyRedundant : List Criterion → Bool
  | [] => false
  | c :: cs => c.isRedundant || anyRedundant cs

end

/-- The criteria of an expression, as a group of their own. -/
structure Criteria where
  operator : Option BooleanOperator := none
  members : List Criterion := []
  deriving DecidableEq, Repr

namespace Criteria

/-- The conditions at all depths, in order. -/
def conditions (c : Criteria) : List Condition := conditionsIn c.members

/-- Whether the criteria are a single group that is not negated. -/
def isWrapped (c : Criteria) : Bool :=
  match c.members with
  | [.group op _] => op != some .not
  | _ => false

/-- Whether the criteria can be written with fewer groups. -/
def hasRedundantGroup (c : Criteria) : Bool := c.isWrapped || anyRedundant c.members

/-- The criteria as one criterion. -/
def toCriterion (c : Criteria) : Criterion := .group c.operator c.members

end Criteria

/-- A field to order by. -/
structure OrderingTerm where
  field : String
  ascending : Bool
  deriving DecidableEq, Repr

/-- A search expression. -/
structure SearchExpression where
  select : List String
  source : String
  criteria : Criteria := {}
  orderBy : List OrderingTerm := []
  deriving DecidableEq, Repr

/-- What stands for all fields. -/
def allFields : String := "*"

namespace SearchExpression

/-- The expression for all documents of a type. -/
def all (source : String) : SearchExpression where
  select := [allFields]
  source := source

/-- The fields that an expression names, in order: those wanted, those of conditions, and those to
order by. -/
def fieldRefs (e : SearchExpression) : List String :=
  e.select.filter (· != allFields) ++ e.criteria.conditions.map Condition.field ++
    e.orderBy.map OrderingTerm.field

end SearchExpression

/-! The text of expressions. -/

/-- A name in brackets. -/
def bracketName (name : String) : String := "[" ++ name ++ "]"

/-- An operator in front of a criterion. -/
def operatorText : Option BooleanOperator → String
  | some op => op.text ++ " "
  | none => ""

/-- The text of a condition. -/
def Condition.text (c : Condition) : String :=
  bracketName c.field ++ " " ++ c.comparator.text ++ " \"" ++ escapeLiteral c.literal ++ "\""

mutual

/-- The text of a criterion. -/
def Criterion.text : Criterion → String
  | .condition op test => operatorText op ++ test.text
  | .group op members => operatorText op ++ "(" ++ criteriaText members ++ ")"

/-- The texts of criteria with blanks between them. -/
def criteriaText : List Criterion → String
  | [] => ""
  | [c] => c.text
  | c :: cs => c.text ++ " " ++ criteriaText cs

end

/-- The text of an ordering term. -/
def OrderingTerm.text (t : OrderingTerm) : String :=
  bracketName t.field ++ if t.ascending then " ASC" else " DESC"

/-- The text of a field that is wanted. -/
def selectText (name : String) : String := if name == allFields then allFields else bracketName name

/-- A keyword with what follows it, when something does. -/
def clauseText (keyword : String) (items : List String) : String :=
  if items.isEmpty then "" else keyword ++ " " ++ Text.join ", " items

/-- The text of an expression. -/
def SearchExpression.text (e : SearchExpression) : String :=
  "SELECT" ++ clauseText "" (e.select.map selectText) ++
    " FROM " ++ bracketName e.source ++
    (if e.criteria.members.isEmpty then "" else " WHERE " ++ criteriaText e.criteria.members) ++
    clauseText " ORDER_BY" (e.orderBy.map OrderingTerm.text)

/-- The conditions of several criteria are those of each, one after the other. -/
theorem conditionsIn_eq_flatMap (cs : List Criterion) :
    conditionsIn cs = cs.flatMap Criterion.conditions := by
  induction cs with
  | nil => rfl
  | cons c cs ih => simp [conditionsIn, ih]

/-- The conditions of two lists of criteria stand one after the other. -/
theorem conditionsIn_append (as bs : List Criterion) :
    conditionsIn (as ++ bs) = conditionsIn as ++ conditionsIn bs := by
  simp [conditionsIn_eq_flatMap]

end CatalogRecords.Query
