import CatalogRecords.Dictionary.Basic
import CatalogRecords.Document.Basic

/-!
# Validation

A document is checked against its type in one pass over its nodes, then its attachments, then the
fields that must be there. All findings are reported in that order; a document with a fatal one
cannot be saved. Independently of the findings, the paths that are present say to which level the
document is catalogued.
-/

namespace CatalogRecords

/-- The kinds of findings. -/
inductive FindingKind where
  | emptyElement
  | outOfOrderStructure
  | wrongLength
  | patternMismatch
  | notInDictionary
  | unknownElement
  | missingField
  | fieldHasNoMedia
  | noValueForMedia
  deriving DecidableEq, Repr

/-- The word for a kind, as it is written in results. -/
def FindingKind.word : FindingKind → String
  | emptyElement => "empty_element"
  | outOfOrderStructure => "out_of_order_structure"
  | wrongLength => "wrong_length"
  | patternMismatch => "pattern_mismatch"
  | notInDictionary => "not_in_dictionary"
  | unknownElement => "unknown_element"
  | missingField => "missing_field"
  | fieldHasNoMedia => "field_has_no_media"
  | noValueForMedia => "no_value_for_media"

/-- The name of a kind, as it is shown to a reader. -/
def FindingKind.name : FindingKind → String
  | emptyElement => "EmptyElement"
  | outOfOrderStructure => "OutOfOrderStructure"
  | wrongLength => "WrongLength"
  | patternMismatch => "PatternMismatch"
  | notInDictionary => "NotInDictionary"
  | unknownElement => "UnknownElement"
  | missingField => "MissingField"
  | fieldHasNoMedia => "FieldHasNoMedia"
  | noValueForMedia => "NoValueForMedia"

/-- Something that validation finds wrong with a document. -/
inductive Finding where
  | emptyField (path : String)
  | notExactLength (path : String) (wanted found : Nat)
  | tooLong (path : String) (found most : Nat)
  | patternMismatch (path source : String)
  | notInDictionary (value path : String)
  | unknownElement (path type : String)
  | outOfOrder (path previous : String)
  | nodesInField (path : String)
  | textInContainer (path : String)
  | emptyContainer (path : String)
  | noMedia (fileName path : String)
  | noValueForMedia (fileName value path : String)
  | missingField (path : String)
  deriving DecidableEq, Repr

namespace Finding

/-- The kind of a finding. -/
def kind : Finding → FindingKind
  | emptyField _ => .emptyElement
  | notExactLength _ _ _ => .wrongLength
  | tooLong _ _ _ => .wrongLength
  | patternMismatch _ _ => .patternMismatch
  | notInDictionary _ _ => .notInDictionary
  | unknownElement _ _ => .unknownElement
  | outOfOrder _ _ => .outOfOrderStructure
  | nodesInField _ => .outOfOrderStructure
  | textInContainer _ => .outOfOrderStructure
  | emptyContainer _ => .emptyElement
  | noMedia _ _ => .fieldHasNoMedia
  | noValueForMedia _ _ _ => .noValueForMedia
  | missingField _ => .missingField

/-- Whether a document with the finding cannot be saved: all but an empty container. -/
def isFatal : Finding → Bool
  | emptyContainer _ => false
  | _ => true

/-- The text of a finding. -/
def message : Finding → String
  | emptyField path => s!"field {path} is present but empty"
  | notExactLength path wanted found =>
    s!"field {path} must be exactly {wanted} characters long, found {found}"
  | tooLong path found most =>
    s!"field {path} is too long: {found} characters, at most {most} allowed"
  | patternMismatch path source => s!"field {path} does not match pattern {source}"
  | notInDictionary value path =>
    s!"value '{value}' of field {path} is not in its closed dictionary"
  | unknownElement path type => s!"element {path} is not declared by document type {type}"
  | outOfOrder path previous => s!"element {path} cannot directly follow {previous}"
  | nodesInField path => s!"simple field {path} holds nested elements"
  | textInContainer path => s!"container {path} holds a text value"
  | emptyContainer path => s!"element {path} is empty"
  | noMedia fileName path =>
    s!"file {fileName} is attached to field {path}, which does not accept attachments"
  | noValueForMedia fileName value path =>
    s!"file {fileName} is attached to value '{value}' of field {path}, " ++
      "but that value is not present"
  | missingField path => s!"field {path} is required for saving but missing"

end Finding

/-- A finding, if there is reason for it. -/
def findingIf (reason : Bool) (finding : Finding) : List Finding := if reason then [finding] else []

/-- What is wrong with a text as a value of a field. -/
def SimpleField.findings (field : SimpleField) (known : String → String → Bool) (path : String)
    (value : String) : List Finding :=
  let length := value.length
  findingIf (value == "") (.emptyField path) ++
    findingIf (0 < field.length && field.fixedLength && length != field.length)
      (.notExactLength path field.length length) ++
    findingIf (0 < field.length && !field.fixedLength && field.length < length)
      (.tooLong path length field.length) ++
    (match field.validation with
      | some pattern => findingIf (!pattern.isMatch value) (.patternMismatch path pattern.source)
      | none => []) ++
    findingIf (field.dictionary == .closed && !known path value) (.notInDictionary value path)

/-- What is wrong with what an element's node holds. -/
def Element.findings (e : Element) (known : String → String → Bool) (path : String) :
    Content → List Finding
  | .text value =>
    match e.field? with
    | some field => field.findings known path value
    | none => [.textInContainer path]
  | .group nodes =>
    if e.isContainer then findingIf nodes.isEmpty (.emptyContainer path) else [.nodesInField path]

/-- What is wrong with the nodes of a document, one after the other. A node that the type does not
declare is not looked at further, and the next one follows the one before it. -/
def DocumentType.entryFindings (t : DocumentType) (known : String → String → Bool) :
    Option String → List FlatEntry → List Finding
  | _, [] => []
  | previous, entry :: entries =>
    match t.element? entry.path with
    | none => .unknownElement entry.path t.sid :: t.entryFindings known previous entries
    | some e =>
      (match previous with
        | some p => findingIf (!t.canFollow entry.path p) (.outOfOrder entry.path p)
        | none => []) ++
      e.findings known entry.path entry.content ++
      t.entryFindings known (some entry.path) entries

/-- What is wrong with an attachment. -/
def Document.attachmentFindings (d : Document) (t : DocumentType) (a : Attachment) :
    List Finding :=
  if !t.isMultimediaField a.fieldPath then [.noMedia a.fileName a.fieldPath]
  else findingIf (!(d.textsAt a.fieldPath).contains a.value)
    (.noValueForMedia a.fileName a.value a.fieldPath)

/-- The fields that a document cannot be saved without and that it does not have. -/
def Document.missingFindings (d : Document) (t : DocumentType) : List Finding :=
  t.requiredFields.flatMap fun e => findingIf (d.contentsAt e.path).isEmpty (.missingField e.path)

/-- Whether all that a level asks for is among the paths. -/
def DocumentType.satisfies (t : DocumentType) (present : List String) (level : Level) : Bool :=
  (t.requiredPaths level).all present.contains

/-- The level of a document with the given paths: the strictest that asks for something and is
satisfied with all the laxer ones. -/
def DocumentType.levelOf (t : DocumentType) (present : List String) : Level :=
  ((Level.strictestFirst.filter fun level => !(t.requiredPaths level).isEmpty).find? fun level =>
    (Level.strictestFirst.filter fun laxer => laxer.rank ≤ level.rank).all
      (t.satisfies present)).getD .none

/-- What a validation comes to. -/
structure ValidationResult where
  findings : List Finding
  level : Level

/-- Whether the document can be saved. -/
def ValidationResult.canBeSaved (r : ValidationResult) : Bool := r.findings.all fun f => !f.isFatal

/-- Validates a document against a type and a dictionary. -/
def Document.validate (d : Document) (t : DocumentType) (dictionary : Dictionary) :
    ValidationResult where
  findings :=
    t.entryFindings (dictionary.forType t.sid) none d.flatten ++
      d.attachments.flatMap (d.attachmentFindings t) ++ d.missingFindings t
  level := t.levelOf d.presentPaths

/-- The document with the level that validation gave it. -/
def Document.validated (d : Document) (r : ValidationResult) : Document :=
  { d with level := r.level }

end CatalogRecords
