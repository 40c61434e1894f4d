import CatalogRecords.CommandLine.Session
import CatalogRecords.Query.Evaluation

/-!
# Commands on queries

A query is read and checked against the document type it names. If anything is wrong with it, that
is printed and the command fails; else it is printed in its canonical form, or evaluated on
documents.
-/

namespace CatalogRecords.CommandLine

open CommandStep Query

/-- Reads and checks the query of a call; fails if anything is wrong with it. -/
def checkedQuery (c : Call) (configuration : Configuration) (registry : Registry) :
    CommandStep SearchExpression := do
  let options := checkOptions c configuration
  match checkText registry.get? options (c.arguments.headD "") with
  | ([], some e) => return e
  | (findings, _) =>
    printAll ("Query is not valid:" :: findings.map fun finding => "  " ++ finding.message)
    throw s!"{findings.length} problem(s) found"

/-- Prints the canonical form of a query and which of its metafields only stored documents have. -/
def runCheckQuery (c : Call) (configuration : Configuration) : CommandStep Unit := do
  let registry ← loadRegistry c configuration
  let e ← checkedQuery c configuration registry
  print e.text
  if e.isStorageOnly then
    print ("note: storage-only metafields: " ++ Text.join ", " e.storageOnlyMetafields)

/-- Evaluates a query on the document in a file. -/
def evaluateFile (w : Workspace) (e : SearchExpression) (t : DocumentType)
    (convention : DecimalConvention) (path : String) : Except String Bool := do
  let d ← readDocument w path
  (e.evaluate t convention d).mapError EvaluationError.message

/-- The line for the outcome of a file. -/
def matchLine (path : String) : Except String Bool → String
  | .ok true => s!"{path}: match"
  | .ok false => s!"{path}: no match"
  | .error text => s!"{path}: error: {text}"

/-- Evaluates a query on documents. -/
def runEval (c : Call) (configuration : Configuration) : CommandStep Unit := do
  let registry ← loadRegistry c configuration
  let e ← checkedQuery c configuration registry
  match registry.get? e.source with
  | none => throw s!"Unknown document type '{e.source}'"
  | some t =>
    let w ← files
    let convention := (checkOptions c configuration).convention
    let outcomes := c.arguments.tail.map fun path => (path, evaluateFile w e t convention path)
    printAll (outcomes.map fun (path, outcome) => matchLine path outcome)
    let failed := (outcomes.filter fun outcome => !outcome.2.isOk).length
    if 0 < failed then throw s!"{failed} document(s) could not be evaluated"

end CatalogRecords.CommandLine
