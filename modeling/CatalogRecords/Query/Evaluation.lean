import CatalogRecords.Document.Basic
import CatalogRecords.Query.Metafield

/-!
# Evaluating expressions

Whether a single document meets the criteria of an expression. The members of a group are taken
from left to right, no operator binding tighter than another, and a group without members holds. A
condition holds if it does for one of the values that are found. Texts compare in upper case; LIKE
asks whether one holds the other.
-/

namespace CatalogRecords.Query

/-- Why an expression cannot be evaluated. -/
inductive EvaluationError where
  | path (error : PathError)
  | storageOnly (names : List String)
  | unknownMetafield (name : String)
  | sourceMismatch (expected found : String)
  deriving DecidableEq, Repr

/-- The text of an error. -/
def EvaluationError.message : EvaluationError → String
  | path error => error.message
  | storageOnly names =>
    "metafields " ++ Text.join ", " names ++ " can only be evaluated by storage"
  | unknownMetafield name => s!"unknown metafield {name}"
  | sourceMismatch expected found =>
    s!"expression queries {expected} but the document is of type {found}"

/-- The truth of what came before in a group together with that of the next member, if there was
anything before. -/
def combine (before : Option Bool) (op : Option BooleanOperator) (value : Bool) : Bool :=
  match before, op with
  | none, some .not => !value
  | none, _ => value
  | some before, some .or => before || value
  | some before, some .orNot => before || !value
  | some before, some .andNot => before && !value
  | some before, some .not => before && !value
  | some before, some .and => before && value
  | some before, none => before && value

mutual

/-- The truth of a criterion, given that of conditions; the first error counts. -/
def Criterion.evaluate {ε : Type} (test : Condition → Except ε Bool) : Criterion → Except ε Bool
  | .condition _ condition => test condition
  | .group _ members => (evaluateFrom test none members).map fun value => value.getD true

/-- The truth of what came before together with that of criteria. -/
def evaluateFrom {ε : Type} (test : Condition → Except ε Bool) :
    Option Bool → List Criterion → Except ε (Option Bool)
  | before, [] => .ok before
  | before, c :: cs => do
    let value ← c.evaluate test
    evaluateFrom test (some (combine before c.operator value)) cs

end

/-- The truth of criteria, given that of conditions. -/
def Criteria.evaluate {ε : Type} (test : Condition → Except ε Bool) (c : Criteria) :
    Except ε Bool :=
  (evaluateFrom test none c.members).map fun value => value.getD true

namespace Comparator

/-- Compares texts without regard to case. -/
def holdsOfTexts (c : Comparator) (value literal : String) : Bool :=
  let value := Text.upper value
  let literal := Text.upper literal
  match c with
  | like => Text.holds value literal
  | c => c.accepts (compare value literal)

/-- Compares values of one type. -/
def holdsOfValues (c : Comparator) (value target : TypedValue) : Bool :=
  match value, target with
  | .text value, .text target => c.holdsOfTexts value target
  | value, target => (value.cmp? target).any c.accepts

/-- Compares a number with a literal. -/
def holdsOfCount (c : Comparator) (count : Nat) (literal : String) : Bool :=
  match Number.readInteger? (.unsigned 64) (Text.trim literal).toList with
  | some target => c.accepts (compare (count : Int) target)
  | none => false

end Comparator

/-- Whether a document meets a condition. -/
def Condition.holds (t : DocumentType) (convention : DecimalConvention) (d : Document)
    (c : Condition) : Except EvaluationError Bool := do
  let ref := FieldRef.ofText c.field
  let path := (t.resolveUnique ref.path).mapError EvaluationError.path
  match ref.metafield with
  | none =>
    return (d.textsAt (← path)).any fun text => c.comparator.holdsOfTexts text c.literal
  | some name =>
    match Metafield.ofName? name with
    | none => .error (.unknownMetafield name)
    | some .packageName => return c.comparator.holdsOfTexts d.packageName c.literal
    | some .authorId => return d.authorId.any fun id => c.comparator.holdsOfTexts id c.literal
    | some .count => return c.comparator.holdsOfCount (d.contentsAt (← path)).length c.literal
    | some .attachmentCount =>
      return c.comparator.holdsOfCount (d.attachmentsOf (← path)).length c.literal
    | some .asValue =>
      let path ← path
      match (t.field? path).bind fun field => field.coerce? convention c.literal with
      | some target =>
        return (d.valuesAt t path convention).any fun value =>
          c.comparator.holdsOfValues value target
      | none => return false
    | some other => .error (.storageOnly [other.name])

namespace SearchExpression

/-- The names of the metafields in the criteria that a single document cannot answer for, in the
order in which they first come. -/
def unanswerable (e : SearchExpression) : List String :=
  distinct (((e.criteria.conditions.filterMap fun c => (FieldRef.ofText c.field).known?).filter
    fun m => !m.isInMemory).map Metafield.name)

/-- Whether a document meets the criteria of an expression. -/
def evaluate (e : SearchExpression) (t : DocumentType) (convention : DecimalConvention)
    (d : Document) : Except EvaluationError Bool :=
  if e.source ≠ d.documentType then .error (.sourceMismatch e.source d.documentType)
  else if !e.unanswerable.isEmpty then .error (.storageOnly e.unanswerable)
  else e.criteria.evaluate (Condition.holds t convention d)

end SearchExpression

end CatalogRecords.Query
