import CatalogRecords.Data.Record
import CatalogRecords.Query.Expression

/-!
# The written form of search expressions

Expressions are written as records. A criterion is a map with one entry, whose name tells a
condition from a group. An operator that is not there is left out.
-/

namespace CatalogRecords.Query

open Data

/-- The entry of an operator. -/
def writtenOperator (op : Option BooleanOperator) : List (String × Data) :=
  textEntry? "combinator" (op.map BooleanOperator.word)

/-- Reads the operator of a condition or group. -/
def operatorOf? {value : Data} (r : Record value) : Option (Option BooleanOperator) :=
  r.optionalDefault "combinator" fun part => part.1.word? .json BooleanOperator.words

mutual

/-- The map of a criterion. -/
def Criterion.encode : Criterion → Data
  | .condition op test => .map [("condition", .map (writtenOperator op ++ [
      ("field", .text test.field), ("comparator", .text test.comparator.word),
      ("literal", .text test.literal)]))]
  | .group op members => .map [("group", .map (writtenOperator op ++ [
      ("children", .list (encodeCriteria members))]))]

/-- The maps of criteria. -/
def encodeCriteria : List Criterion → List Data
  | [] => []
  | c :: cs => c.encode :: encodeCriteria cs

end

/-- Reads a condition with its operator. -/
def decodeCondition? (value : Data) : Option Criterion := do
  let r ← value.record? .json ["combinator", "field", "comparator", "literal"]
  let text (part : Part value) := part.1.text?
  some (.condition (← operatorOf? r) {
    field := ← r.required "field" text
    comparator := ← r.required "comparator" fun part => part.1.word? .json Comparator.words
    literal := ← r.required "literal" text })

/-- Reads a group with its operator. -/
def Criterion.decodeGroup? (value : Data) : Option Criteria := do
  let r ← value.record? .json ["combinator", "children"]
  some {
    operator := ← operatorOf? r
    members := ← r.defaulted "children" [] fun part =>
      part.1.listWith? .json fun item =>
        match _hitem : item.1 with
        | .map [("condition", inner)] => decodeCondition? inner
        | .map [("group", inner)] => (Criterion.decodeGroup? inner).map Criteria.toCriterion
        | _ => none }
termination_by sizeOf value
decreasing_by
  have hitem' := item.2
  have hpart := part.2
  rw [_hitem] at hitem'
  simp only [Data.map.sizeOf_spec, List.cons.sizeOf_spec, Prod.mk.sizeOf_spec] at hitem'
  omega

/-- Reads a criterion. -/
def Criterion.decode? : Data → Option Criterion
  | .map [("condition", inner)] => decodeCondition? inner
  | .map [("group", inner)] => (Criterion.decodeGroup? inner).map Criteria.toCriterion
  | _ => none

namespace Criteria

/-- The record of criteria. -/
def encode (c : Criteria) : Data :=
  .map (writtenOperator c.operator ++ [("children", .list (encodeCriteria c.members))])

/-- Reads criteria. -/
def decode? (value : Data) : Option Criteria := Criterion.decodeGroup? value

end Criteria

namespace OrderingTerm

/-- The record of an ordering term. -/
def encode (t : OrderingTerm) : Data :=
  .map [("field", .text t.field), ("ascending", .bool t.ascending)]

/-- Reads an ordering term. -/
def decode? (value : Data) : Option OrderingTerm := do
  let r ← value.record? .json ["field", "ascending"]
  some {
    field := ← r.required "field" fun part => part.1.text?
    ascending := ← r.required "ascending" fun part => part.1.bool? }

end OrderingTerm

namespace SearchExpression

/-- The record of an expression. -/
def encode (e : SearchExpression) : Data :=
  .map [("select", ofTexts e.select), ("source", .text e.source), ("where", e.criteria.encode),
    ("order_by", .list (e.orderBy.map OrderingTerm.encode))]

/-- Reads an expression. -/
def decode? (value : Data) : Option SearchExpression := do
  let r ← value.record? .json ["select", "source", "where", "order_by"]
  some {
    select := ← r.defaulted "select" [] fun part => part.1.list? .json Data.text?
    source := ← r.required "source" fun part => part.1.text?
    criteria := ← r.defaulted "where" {} fun part => Criteria.decode? part.1
    orderBy := ← r.defaulted "order_by" [] fun part => part.1.list? .json OrderingTerm.decode? }

end SearchExpression

end CatalogRecords.Query
