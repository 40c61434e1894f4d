import CatalogRecords.Query.Metafield
import CatalogRecords.Query.Reader
import CatalogRecords.Data.Record
import CatalogRecords.Value

/-!
# Checking expressions against a document type

An expression can be checked before there is any document: whether each field it names stands for
one element, whether that element has the metafield, whether the comparator and the literal of each
condition fit, and whether operators stand where they have something to join. All findings are
reported, those on the fields that are wanted first.
-/

namespace CatalogRecords.Query

/-- Something that is wrong with an expression. -/
inductive ExpressionFinding where
  | parse (error : ParseError)
  | unknownSource (source : String)
  | sourceMismatch (expected found : String)
  | unknownElement (path : String)
  | ambiguousElement (path : String) (candidates : List String)
  | unknownMetafield (name : String)
  | storageOnlyMetafield (name : String)
  | notForDocumentType (metafield : String)
  | onlyForDocumentType (metafield path : String)
  | notForContainer (metafield path : String)
  | requiresMedia (path : String)
  | missingMetafield (field : String)
  | orderingNotAllowed (field : String) (comparator : Comparator)
  | likeNotAllowed (field : String)
  | leadingOperator (operator : BooleanOperator)
  | missingOperator (subject : String)
  | emptyLiteral (field : String)
  | unconvertible (literal field : String)
  deriving DecidableEq, Repr

/-- The text of a finding. -/
def ExpressionFinding.message : ExpressionFinding → String
  | parse error => "could not parse the query: " ++ error.message
  | unknownSource source => s!"document type {source} named in the FROM clause does not exist"
  | sourceMismatch expected found =>
    s!"the FROM clause names {found}, but the query is validated against {expected}"
  | unknownElement path => s!"element {path} is not defined"
  | ambiguousElement path candidates =>
    s!"element {path} is ambiguous, could refer to: " ++ Text.join "; " candidates
  | unknownMetafield name => s!"metafield {name} does not exist"
  | storageOnlyMetafield name => s!"metafield {name} can only be used on saved documents"
  | notForDocumentType metafield => s!"metafield {metafield} cannot be used on the document type"
  | onlyForDocumentType metafield path =>
    s!"metafield {metafield} can only be used on the document type, not on {path}"
  | notForContainer metafield path =>
    s!"metafield {metafield} cannot be used on paragraph or structured field {path}"
  | requiresMedia path =>
    s!"field {path} cannot have attachments, so _attachment_count does not apply"
  | missingMetafield field => s!"{field} is not a simple field and needs a metafield"
  | orderingNotAllowed field comparator =>
    "comparator " ++ comparator.text ++ s!" cannot be used on {field}"
  | likeNotAllowed field => s!"LIKE can only be used on string simple fields, not on {field}"
  | leadingOperator op => "the first condition of a group cannot start with " ++ op.text
  | missingOperator subject =>
    s!"condition on {subject} needs AND, OR, AND NOT or OR NOT to join the previous one"
  | emptyLiteral field => s!"condition on {field} has no value to compare to"
  | unconvertible literal field => s!"'{literal}' cannot be converted to the type of {field}"

/-- What is asked of reading and checking. -/
structure CheckOptions where
  lenientParsing : Bool := false
  /-- Lets metafields pass that only stored documents have. -/
  allowStorageOnly : Bool := false
  convention : DecimalConvention := .point
  deriving Repr, Inhabited

namespace CheckOptions

/-- How a text is read. -/
def reading (o : CheckOptions) : Reading := if o.lenientParsing then .lenient else .strict

open Data in
/-- Reads options. -/
def decode? (value : Data) : Option CheckOptions := do
  let r ← value.record? .json
    ["lenient_parsing", "allow_storage_only_metafields", "decimal_convention"]
  some {
    lenientParsing := ← r.defaulted "lenient_parsing" false fun part => part.1.bool?
    allowStorageOnly := ← r.defaulted "allow_storage_only_metafields" false fun part =>
      part.1.bool?
    convention := ← r.defaulted "decimal_convention" .point fun part =>
      part.1.word? .json DecimalConvention.words }

end CheckOptions

/-- What a field of an expression stands for. -/
structure Target where
  path : String
  /-- It is the document type itself. -/
  isRoot : Bool
  field : Option SimpleField
  metafield : Option Metafield

/-- A finding, if there is reason for it. -/
def reportIf (reason : Bool) (finding : ExpressionFinding) : List ExpressionFinding :=
  if reason then [finding] else []

namespace Metafield

/-- What is wrong with a metafield at an element, or at the document type. -/
def findings (m : Metafield) (options : CheckOptions) (path : String) (isRoot : Bool)
    (field : Option SimpleField) : List ExpressionFinding :=
  reportIf (m.isStorageOnly && !options.allowStorageOnly) (.storageOnlyMetafield m.name) ++
    (match m.scope, isRoot with
      | .element, true => [.notForDocumentType m.name]
      | .documentType, false => [.onlyForDocumentType m.name path]
      | .element, false => reportIf (field.isNone && m != .count) (.notForContainer m.name path)
      | .documentType, true => []) ++
    reportIf (m == .attachmentCount && field.any fun f => f.media == .none) (.requiresMedia path)

end Metafield

/-- What a field stands for, and what is wrong with it. -/
def resolveField (t : DocumentType) (options : CheckOptions) (field : String) :
    Option Target × List ExpressionFinding :=
  let ref := FieldRef.ofText field
  match t.resolveAll ref.path with
  | [] => (none, [.unknownElement ref.path])
  | [path] =>
    let simple := t.field? path
    let target (metafield : Option Metafield) : Target := ⟨path, t.isRoot path, simple, metafield⟩
    match ref.metafield with
    | none => (some (target none), reportIf simple.isNone (.missingMetafield field))
    | some name =>
      match Metafield.ofName? name with
      | none => (none, [.unknownMetafield name])
      | some m => (some (target (some m)), m.findings options ref.path (t.isRoot path) simple)
  | candidates => (none, [.ambiguousElement ref.path candidates])

/-- What is wrong with a field. -/
def fieldFindings (t : DocumentType) (options : CheckOptions) (field : String) :
    List ExpressionFinding :=
  (resolveField t options field).2

namespace Target

/-- Whether what stands at the target has an order. -/
def isOrdered (target : Target) : Bool :=
  if target.isRoot then target.metafield.any Metafield.isOrderable
  else if target.field.isNone then target.metafield == some .count
  else true

/-- Whether what stands at the target is a text. -/
def isText (target : Target) : Bool :=
  (target.field.any fun f => f.fieldType == .string) &&
    (target.metafield == none || target.metafield == some .asValue)

/-- Whether a literal can be compared with what stands at the target. -/
def converts (target : Target) (convention : DecimalConvention) (literal : String) : Bool :=
  let isCount := (Number.readInteger? (.unsigned 64) (Text.trim literal).toList).isSome
  match target.metafield with
  | some .asValue => target.field.all fun f => (f.coerce? convention literal).isSome
  | some .count => isCount
  | some .attachmentCount => isCount
  | _ => true

/-- What is wrong with a condition on the target. -/
def findings (target : Target) (options : CheckOptions) (c : Condition) :
    List ExpressionFinding :=
  reportIf (c.comparator.isOrdering && !target.isOrdered)
      (.orderingNotAllowed c.field c.comparator) ++
    reportIf (c.comparator == .like && !target.isText) (.likeNotAllowed c.field) ++
    if c.literal == "" then [.emptyLiteral c.field]
    else
      reportIf (!target.converts options.convention c.literal) (.unconvertible c.literal c.field)

end Target

/-- What is wrong with a condition. The comparator and the literal are looked at only if nothing is
wrong with the field. -/
def Condition.findings (t : DocumentType) (options : CheckOptions) (c : Condition) :
    List ExpressionFinding :=
  match resolveField t options c.field with
  | (some target, []) => target.findings options c
  | (_, findings) => findings

/-- What a criterion is called in findings. -/
def Criterion.subject : Criterion → String
  | .condition _ test => test.field
  | .group _ _ => "(...)"

/-- What is wrong with the operator of a criterion. -/
def Criterion.operatorFindings (isFirst : Bool) (c : Criterion) : List ExpressionFinding :=
  match isFirst, c.operator with
  | true, some op =>
    reportIf (!BooleanOperator.isLeading (some op)) (.leadingOperator op)
  | true, none => []
  | false, op => reportIf (BooleanOperator.isLeading op) (.missingOperator c.subject)

mutual

/-- What is wrong with a criterion apart from its operator. -/
def Criterion.findings (t : DocumentType) (options : CheckOptions) :
    Criterion → List ExpressionFinding
  | .condition _ test => test.findings t options
  | .group _ members => memberFindings t options true members

/-- What is wrong with the members of a group. -/
def memberFindings (t : DocumentType) (options : CheckOptions) (isFirst : Bool) :
    List Criterion → List ExpressionFinding
  | [] => []
  | c :: cs =>
    c.operatorFindings isFirst ++ c.findings t options ++ memberFindings t options false cs

end

namespace SearchExpression

/-- What is wrong with an expression about documents of a type. -/
def findings (e : SearchExpression) (t : DocumentType) (options : CheckOptions) :
    List ExpressionFinding :=
  (e.select.filter (· != allFields)).flatMap (fieldFindings t options) ++
    reportIf (e.source != t.sid) (.sourceMismatch t.sid e.source) ++
    memberFindings t options true e.criteria.members ++
    e.orderBy.flatMap fun term => fieldFindings t options term.field

/-- Whether nothing is wrong with an expression. -/
def isValid (e : SearchExpression) (t : DocumentType) (options : CheckOptions) : Bool :=
  (e.findings t options).isEmpty

end SearchExpression

/-- Reads a text and checks it against the document type it names: what is wrong with it, and the
expression if it could be read. -/
def checkText (types : String → Option DocumentType) (options : CheckOptions) (text : String) :
    List ExpressionFinding × Option SearchExpression :=
  match SearchExpression.read options.reading text with
  | .error error => ([.parse error], none)
  | .ok e =>
    match types e.source with
    | some t => (e.findings t options, some e)
    | none => ([.unknownSource e.source], some e)

end CatalogRecords.Query
