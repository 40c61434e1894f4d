import CatalogRecords.Text.LetterCase

/-!
# Operators of queries

Conditions are joined by boolean operators and compare with comparators. A boolean operator may
carry a negation; the first condition of a group has none to join it to, so that only a negation
can stand before it. `negated` adds a negation or takes one away, and is its own inverse.
-/

namespace CatalogRecords.Query

/-- What joins a condition or group to those before it. -/
inductive BooleanOperator where
  | and
  | or
  | not
  | andNot
  | orNot
  deriving DecidableEq, Repr

namespace BooleanOperator

/-- The operator as it stands in a query. -/
def text : BooleanOperator → String
  | and => "AND"
  | or => "OR"
  | not => "NOT"
  | andNot => "AND NOT"
  | orNot => "OR NOT"

/-- The words for the operators in records. -/
def words : List (String × BooleanOperator) :=
  [("AND", and), ("OR", or), ("NOT", not), ("AND_NOT", andNot), ("OR_NOT", orNot)]

/-- The word for an operator in records. -/
def word : BooleanOperator → String
  | and => "AND"
  | or => "OR"
  | not => "NOT"
  | andNot => "AND_NOT"
  | orNot => "OR_NOT"

/-- Whether an operator can stand before the first condition of a group: none, or a negation. -/
def isLeading : Option BooleanOperator → Bool
  | none => true
  | some not => true
  | _ => false

/-- The operator with its negation turned around. -/
def negated : Option BooleanOperator → Option BooleanOperator
  | none => some not
  | some and => some andNot
  | some or => some orNot
  | some not => none
  | some andNot => some and
  | some orNot => some or

/-- The operator of the only member of a group that takes the place of the group. -/
def compose (outer inner : Option BooleanOperator) : Option BooleanOperator :=
  if inner = some not then negated outer else outer

/-- What is left of an operator before the first condition of a group: its negation. -/
def leading : Option BooleanOperator → Option BooleanOperator
  | some not => some not
  | some andNot => some not
  | some orNot => some not
  | _ => none

/-- Turning a negation around twice changes nothing. -/
theorem negated_negated (op : Option BooleanOperator) : negated (negated op) = op := by
  cases op with
  | none => rfl
  | some op => cases op <;> rfl

/-- What is left of an operator can stand before the first condition of a group. -/
theorem isLeading_leading (op : Option BooleanOperator) : isLeading (leading op) = true := by
  cases op with
  | none => rfl
  | some op => cases op <;> rfl

/-- Every word is read as what it was written for. -/
theorem lookup_word (op : BooleanOperator) : words.lookup op.word = some op := by
  cases op <;> decide

end BooleanOperator

/-- How a condition compares the values of a field with its literal. -/
inductive Comparator where
  | equal
  | less
  | greater
  | lessOrEqual
  | greaterOrEqual
  | like
  deriving DecidableEq, Repr

namespace Comparator

/-- The comparator as it stands in a query. -/
def text : Comparator → String
  | equal => "="
  | less => "<"
  | greater => ">"
  | lessOrEqual => "<="
  | greaterOrEqual => ">="
  | like => "LIKE"

/-- The comparator that a text stands for; LIKE in any case. -/
def ofText? (symbol : String) : Option Comparator :=
  match symbol with
  | "=" => some equal
  | "<" => some less
  | ">" => some greater
  | "<=" => some lessOrEqual
  | ">=" => some greaterOrEqual
  | other => if Text.latinUpper other == "LIKE" then some like else none

/-- The words for the comparators in records. -/
def words : List (String × Comparator) := [
  ("EQUAL", equal), ("LESS", less), ("GREATER", greater), ("LESS_OR_EQUAL", lessOrEqual),
  ("GREATER_OR_EQUAL", greaterOrEqual), ("LIKE", like)]

/-- The word for a comparator in records. -/
def word : Comparator → String
  | equal => "EQUAL"
  | less => "LESS"
  | greater => "GREATER"
  | lessOrEqual => "LESS_OR_EQUAL"
  | greaterOrEqual => "GREATER_OR_EQUAL"
  | like => "LIKE"

/-- Whether the comparator asks for an order. -/
def isOrdering : Comparator → Bool
  | less => true
  | greater => true
  | lessOrEqual => true
  | greaterOrEqual => true
  | _ => false

/-- Whether the comparator accepts an order of a value and a literal. -/
def accepts : Comparator → Ordering → Bool
  | equal, order => order == .eq
  | less, order => order == .lt
  | greater, order => order == .gt
  | lessOrEqual, order => order != .gt
  | greaterOrEqual, order => order != .lt
  | like, _ => false

/-- Every word is read as what it was written for. -/
theorem lookup_word (c : Comparator) : words.lookup c.word = some c := by
  cases c <;> decide

end Comparator

end CatalogRecords.Query
