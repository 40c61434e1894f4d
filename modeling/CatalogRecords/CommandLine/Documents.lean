import CatalogRecords.CommandLine.Session
import CatalogRecords.Document.Validation

/-!
# Commands on document types and documents

One command lists the elements of a document type, each indented by how deep it is. The other
validates documents and prints what it finds, as text or as JSON; it fails when one of them cannot
be saved.
-/

namespace CatalogRecords.CommandLine

open CommandStep

/-- A word, if there is reason for it. -/
def wordIf (reason : Bool) (word : String) : List String := if reason then [word] else []

/-- The words for a simple field. -/
def fieldWords (field : SimpleField) : List String :=
  [field.fieldType.word] ++
    wordIf (0 < field.length)
      ((if field.fixedLength then "length=" else "length<=") ++ toString field.length) ++
    wordIf (field.dictionary != .none) ("dictionary=" ++ field.dictionary.word) ++
    wordIf (field.media != .none) ("media=" ++ field.media.word) ++
    wordIf field.requiredForSaving "required-for-saving"

/-- The words for what an element is. -/
def kindWords : ElementKind → List String
  | .paragraph => ["paragraph"]
  | .structuredField => ["structured"]
  | .simpleField field => fieldWords field

/-- The line for an element. -/
def elementLine (e : Element) : String :=
  let depth := (e.path.toList.filter (· == '.')).length
  String.ofList (List.replicate (2 * depth) ' ') ++
    Text.join " " ([e.sid] ++ kindWords e.kind ++ wordIf e.repeatable "repeatable" ++
      wordIf (e.level != .none) ("level=" ++ e.level.word))

/-- The line for a document type. -/
def typeLine (t : DocumentType) : String :=
  s!"{t.sid}: {t.label}" ++ match t.version with
    | some version => s!" (version {version})"
    | none => ""

/-- Lists the elements of a document type. -/
def runInspect (c : Call) (configuration : Configuration) : CommandStep Unit := do
  let registry ← loadRegistry c configuration
  let sid := c.arguments.headD ""
  match registry.get? sid with
  | none =>
    let available := Text.join ", " registry.sids
    throw s!"Unknown document type '{sid}' (available: {available})"
  | some t => printAll (typeLine t :: t.elements.map elementLine)

/-- The terms of all registered document types, read from a database. -/
def loadDictionary (d : OpenDatabase) (registry : Registry) : Except String Dictionary := do
  let p ← d.tablePrefix.mapError TermStoreError.message
  let table : Except String TermTable := (d.db.table p).mapError fun error =>
    s!"Failed to read dictionary '{d.path}': {error.message}"
  let fields ← registry.sids.mapM fun sid => table.map fun t => t.termsOf sid
  .ok (.ofLists (fields.flatten.foldl (fun lists (path, terms) =>
    Dictionary.addTerms lists path terms) []))

/-- The dictionary that documents are validated with; without a database it is empty. -/
def chooseDictionary (c : Call) (configuration : Configuration) (registry : Registry) :
    CommandStep Dictionary := do
  if (c.value? .dictionary).isNone && configuration.dictionary.isNone then return .empty
  else
    let d ← openDatabase c configuration (c.value? .dictionary)
    orFail (fun text : String => text) (loadDictionary d registry)

/-- Validates the document in a file. -/
def validateFile (w : Workspace) (registry : Registry) (dictionary : Dictionary) (path : String) :
    Except String ValidationResult := do
  let d ← readDocument w path
  match registry.get? d.documentType with
  | some t => .ok (d.validate t dictionary)
  | none => .error s!"Unknown document type '{d.documentType}'"

/-- What a validation comes to as it is written. -/
def encodeResult (r : ValidationResult) : Data :=
  .map [("can_be_saved", .bool r.canBeSaved), ("catalogation_level", .text r.level.word),
    ("errors", .list (r.findings.map fun f =>
      .map [("kind", .text f.kind.word), ("message", .text f.message)]))]

/-- The outcome for a file as it is written. -/
def encodeOutcome (path : String) : Except String ValidationResult → Data
  | .ok r => .map [("file", .text path), ("result", encodeResult r)]
  | .error text => .map [("file", .text path), ("error", .text text)]

/-- The lines for the outcome of a file. -/
def outcomeLines (path : String) : Except String ValidationResult → List String
  | .ok r =>
    let verdict := if r.canBeSaved then "ok" else "cannot be saved"
    s!"{path}: {verdict}, level {r.level.word}" ::
      r.findings.map fun f => s!"  [{f.kind.name}] {f.message}"
  | .error text => [s!"{path}: {text}"]

/-- Whether the document of a file can be saved. -/
def isAccepted : Except String ValidationResult → Bool
  | .ok r => r.canBeSaved
  | .error _ => false

/-- Validates documents. -/
def runValidate (c : Call) (configuration : Configuration) : CommandStep Unit := do
  let registry ← loadRegistry c configuration
  let dictionary ← chooseDictionary c configuration registry
  let w ← files
  let outcomes := c.arguments.map fun path => (path, validateFile w registry dictionary path)
  if c.has .json then
    print (Json.pretty (.list (outcomes.map fun (path, outcome) => encodeOutcome path outcome)))
  else printAll (outcomes.flatMap fun (path, outcome) => outcomeLines path outcome)
  let rejected := (outcomes.filter fun outcome => !isAccepted outcome.2).length
  if 0 < rejected then throw s!"{rejected} of {outcomes.length} document(s) cannot be saved"

end CatalogRecords.CommandLine
