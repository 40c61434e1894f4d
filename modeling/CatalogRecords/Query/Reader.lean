import CatalogRecords.Query.Expression

/-!
# Reading search expressions

The tokens of a text are read one by one; the keywords SELECT, FROM, WHERE and ORDER_BY say which
part of the expression the ones after them belong to. Strict reading refuses whatever does not fit.
Lenient reading always comes to an expression: it skips over what it cannot use.

Criteria are read with the groups that are open kept one inside the other, each with the members
that came before it; an operator waits for the condition or group it stands before; and the tokens
of a condition are collected until there are three.
-/

namespace CatalogRecords.Query

/-- The parts of an expression. -/
inductive Clause where
  | select
  | source
  | criteria
  | orderBy
  deriving DecidableEq, Repr

namespace Clause

/-- The keyword of a part. -/
def keyword : Clause → String
  | select => "SELECT"
  | source => "FROM"
  | criteria => "WHERE"
  | orderBy => "ORDER_BY"

/-- The part that a word in upper case begins. -/
def ofKeyword? (word : String) : Option Clause :=
  [select, source, criteria, orderBy].find? fun c => c.keyword == word

end Clause

/-- What was expected in the place of a token. -/
inductive Expected where
  | selectClause
  | fieldOrStar
  | endOfSource
  | condition
  | field
  | comparator
  | literal
  deriving DecidableEq, Repr

/-- The words for what was expected. -/
def Expected.text : Expected → String
  | selectClause => "SELECT"
  | fieldOrStar => "field reference or '*'"
  | endOfSource => "end of FROM clause"
  | condition => "condition"
  | field => "field reference"
  | comparator => "comparator"
  | literal => "quoted literal"

/-- Why a text is no expression. -/
inductive ParseError where
  | unexpectedCharacter (offset : Nat) (found : Char)
  | unexpectedToken (token : Token) (expected : Expected)
  | duplicateClause (clause : Clause)
  | missingSource
  | incompleteCondition (tokens : List TokenKind)
  | danglingOperator (operator : BooleanOperator)
  | unmatchedClose (offset : Nat)
  | unclosedGroup (count : Nat)
  | emptyGroup (offset : Nat)
  deriving DecidableEq, Repr

/-- The text of an error. -/
def ParseError.message : ParseError → String
  | unexpectedCharacter offset found =>
    s!"unexpected character '{found}' at offset {offset}"
  | unexpectedToken token expected =>
    "unexpected " ++ token.kind.text ++ s!" at offset {token.offset}, expected " ++ expected.text
  | duplicateClause clause => "clause " ++ clause.keyword ++ " appears more than once"
  | missingSource => "missing document type: a FROM clause is required"
  | incompleteCondition tokens =>
    "incomplete condition '" ++ Text.join " " (tokens.map TokenKind.text) ++ "'"
  | danglingOperator op => "boolean operator " ++ op.text ++ " is not followed by a condition"
  | unmatchedClose offset => s!"unmatched ')' at offset {offset}"
  | unclosedGroup count => s!"{count} parenthesis left open"
  | emptyGroup offset => s!"empty parentheses at offset {offset}"

/-- How a text is read. -/
inductive Reading where
  | strict
  | lenient
  deriving DecidableEq, Repr

/-- An error in strict reading, and another way to go on in lenient reading. -/
def Reading.refuse {α : Type} (reading : Reading) (error : ParseError) (otherwise : α) :
    Except ParseError α :=
  match reading with
  | .strict => .error error
  | .lenient => .ok otherwise

/-! Criteria. -/

/-- A group that is open: its operator, where it was opened, and the members before it of the group
around it. -/
structure OpenGroup where
  operator : Option BooleanOperator
  openedAt : Nat
  before : List Criterion
  deriving DecidableEq, Repr

/-- Criteria that are being read: the open groups from the innermost out, the members so far of the
innermost, the operator that waits for the next condition or group, and the tokens of a condition
that is not complete. -/
structure CriteriaReader where
  opened : List OpenGroup := []
  members : List Criterion := []
  pending : Option BooleanOperator := none
  fragment : List Token := []
  deriving DecidableEq, Repr

/-- The condition that three tokens make. -/
def conditionOf? : List TokenKind → Option Condition
  | [.name field _, .comparator comparator, .literal value] => some ⟨field, comparator, value⟩
  | [.name field _, .comparator comparator, .name value bracketed] =>
    if bracketed then none else some ⟨field, comparator, value⟩
  | _ => none

namespace CriteriaReader

/-- Refuses a condition that is not complete. -/
def withoutFragment (reading : Reading) (r : CriteriaReader) : Except ParseError CriteriaReader :=
  if r.fragment.isEmpty then .ok r
  else reading.refuse (.incompleteCondition (r.fragment.map Token.kind)) { r with fragment := [] }

/-- Refuses an operator with nothing to apply to. -/
def withoutPending (reading : Reading) (r : CriteriaReader) : Except ParseError CriteriaReader :=
  match r.pending with
  | none => .ok r
  | some op => reading.refuse (.danglingOperator op) { r with pending := none }

/-- Reads one of the operators AND and OR. -/
def join (reading : Reading) (op : BooleanOperator) (token : Token) (r : CriteriaReader) :
    Except ParseError CriteriaReader :=
  let read := { r with pending := some op }
  if r.pending.isSome || !r.fragment.isEmpty then
    reading.refuse (.unexpectedToken token .condition) read
  else .ok read

/-- Reads a negation. -/
def negate (reading : Reading) (token : Token) (r : CriteriaReader) :
    Except ParseError CriteriaReader :=
  let read := { r with pending := BooleanOperator.negated r.pending }
  if !r.fragment.isEmpty then reading.refuse (.unexpectedToken token .condition) read else .ok read

/-- Opens a group. -/
def openGroup (reading : Reading) (offset : Nat) (r : CriteriaReader) :
    Except ParseError CriteriaReader := do
  let r ← r.withoutFragment reading
  .ok { opened := ⟨r.pending, offset, r.members⟩ :: r.opened }

/-- Closes the innermost group. -/
def closeGroup (reading : Reading) (offset : Nat) (r : CriteriaReader) :
    Except ParseError CriteriaReader := do
  let r ← (← r.withoutFragment reading).withoutPending reading
  match r.opened with
  | [] => reading.refuse (.unmatchedClose offset) r
  | group :: outer =>
    let closed : CriteriaReader :=
      { opened := outer, members := group.before ++ [.group group.operator r.members] }
    if r.members.isEmpty then reading.refuse (.emptyGroup group.openedAt) closed else .ok closed

/-- What the next token of a condition has to be after so many, unless the given one is that. -/
def misfit? (count : Nat) (kind : TokenKind) : Option Expected :=
  match count, kind with
  | 0, .name _ _ => none
  | 0, _ => some .field
  | 1, .comparator _ => none
  | 1, _ => some .comparator
  | _, .literal _ => none
  | _, _ => some .literal

/-- Adds a token of a condition. The third completes it; tokens that make none are dropped with
their operator. -/
def collect (token : Token) (r : CriteriaReader) : CriteriaReader :=
  let fragment := r.fragment ++ [token]
  if fragment.length < 3 then { r with fragment := fragment }
  else
    let members := match conditionOf? (fragment.map Token.kind) with
      | some test => r.members ++ [.condition r.pending test]
      | none => r.members
    { r with members := members, pending := none, fragment := [] }

/-- Reads a token of a condition. -/
def readOperand (reading : Reading) (token : Token) (r : CriteriaReader) :
    Except ParseError CriteriaReader :=
  match misfit? r.fragment.length token.kind with
  | some expected => reading.refuse (.unexpectedToken token expected) (r.collect token)
  | none => .ok (r.collect token)

/-- Reads a token. -/
def read (reading : Reading) (token : Token) (r : CriteriaReader) :
    Except ParseError CriteriaReader :=
  match token.kind.keyword? with
  | some "AND" => r.join reading .and token
  | some "OR" => r.join reading .or token
  | some "NOT" => r.negate reading token
  | _ =>
    match token.kind with
    | .opening => r.openGroup reading token.offset
    | .closing => r.closeGroup reading token.offset
    | _ => r.readOperand reading token

/-- The members at the outermost level, without those of groups that are open. -/
def outermost (r : CriteriaReader) : List Criterion :=
  match r.opened.getLast? with
  | some group => group.before
  | none => r.members

/-- The criteria when there are no more tokens. -/
def finish (reading : Reading) (r : CriteriaReader) : Except ParseError Criteria := do
  let r ← (← r.withoutFragment reading).withoutPending reading
  let criteria : Criteria := { members := r.outermost }
  if r.opened.isEmpty then .ok criteria
  else reading.refuse (.unclosedGroup r.opened.length) criteria

end CriteriaReader

/-! The order. -/

/-- Ordering terms that are being read, and whether the last has its direction. -/
structure OrderReader where
  terms : List OrderingTerm := []
  directed : Bool := true
  deriving DecidableEq, Repr

namespace OrderReader

/-- Reads a direction, which belongs to the last term. -/
def direct (reading : Reading) (ascending : Bool) (token : Token) (r : OrderReader) :
    Except ParseError OrderReader :=
  match r.directed, r.terms.getLast? with
  | false, some last =>
    .ok { terms := r.terms.dropLast ++ [{ last with ascending := ascending }], directed := true }
  | _, _ => reading.refuse (.unexpectedToken token .field) r

/-- Reads a token. -/
def read (reading : Reading) (token : Token) (r : OrderReader) : Except ParseError OrderReader :=
  match token.kind.keyword? with
  | some "ASC" => r.direct reading true token
  | some "DESC" => r.direct reading false token
  | _ =>
    match token.kind with
    | .name field _ => .ok { terms := r.terms ++ [⟨field, true⟩], directed := false }
    | _ => reading.refuse (.unexpectedToken token .field) r

end OrderReader

/-! Expressions. -/

/-- An expression that is being read: the part that is read now, the parts there were, and what was
read of each. -/
structure ExpressionReader where
  clause : Option Clause := none
  seen : List Clause := []
  select : List String := []
  source : Option String := none
  criteria : CriteriaReader := {}
  order : OrderReader := {}

namespace ExpressionReader

/-- Begins a part. -/
def begin (reading : Reading) (clause : Clause) (token : Token) (r : ExpressionReader) :
    Except ParseError ExpressionReader :=
  let begun := { r with clause := some clause, seen := clause :: r.seen }
  if r.seen.contains clause then reading.refuse (.duplicateClause clause) begun
  else if r.seen.isEmpty && clause != .select then
    reading.refuse (.unexpectedToken token .selectClause) begun
  else .ok begun

/-- Reads a token of the fields that are wanted. -/
def readSelect (reading : Reading) (token : Token) (r : ExpressionReader) :
    Except ParseError ExpressionReader :=
  match token.kind with
  | .star => .ok { r with select := r.select ++ [allFields] }
  | .name name _ => .ok { r with select := r.select ++ [name] }
  | _ => reading.refuse (.unexpectedToken token .fieldOrStar) r

/-- Reads a token of the document type. There is one name; when more are let pass, the last
holds. -/
def readSource (reading : Reading) (token : Token) (r : ExpressionReader) :
    Except ParseError ExpressionReader :=
  match token.kind with
  | .name name _ =>
    let named := { r with source := some name }
    if r.source.isSome then reading.refuse (.unexpectedToken token .endOfSource) named
    else .ok named
  | _ => reading.refuse (.unexpectedToken token .endOfSource) r

/-- Reads a token. -/
def read (reading : Reading) (r : ExpressionReader) (token : Token) :
    Except ParseError ExpressionReader :=
  match token.kind.keyword?.bind Clause.ofKeyword? with
  | some clause => r.begin reading clause token
  | none =>
    match r.clause with
    | none => reading.refuse (.unexpectedToken token .selectClause) r
    | some .select => r.readSelect reading token
    | some .source => r.readSource reading token
    | some .criteria =>
      (r.criteria.read reading token).map fun criteria => { r with criteria := criteria }
    | some .orderBy => (r.order.read reading token).map fun order => { r with order := order }

/-- The expression when there are no more tokens. -/
def finish (reading : Reading) (r : ExpressionReader) : Except ParseError SearchExpression := do
  let source := r.source.getD ""
  if reading = .strict ∧ source = "" then .error .missingSource
  else
    .ok {
      select := r.select
      source := source
      criteria := ← r.criteria.finish reading
      orderBy := r.order.terms }

end ExpressionReader

/-- The tokens of a text. Strictly, there are none if something else stands between them. -/
def tokenize (reading : Reading) (text : String) : Except ParseError (List Token) :=
  match reading, stray? text with
  | .strict, some (offset, found) => .error (.unexpectedCharacter offset found)
  | _, _ => .ok (tokens text)

/-- Reads an expression. -/
def SearchExpression.read (reading : Reading) (text : String) :
    Except ParseError SearchExpression := do
  let tokens ← tokenize reading text
  let reader ← tokens.foldlM (ExpressionReader.read reading) {}
  reader.finish reading

end CatalogRecords.Query
