import CatalogRecords.CommandLine.Session
import CatalogRecords.Dictionary.SeedFiles

/-!
# Commands on terms

Terms are added to fields, removed and listed, and their table is created, dropped and seeded. What
is to be removed or listed is a field if there is a dot in it, else a document type.
-/

namespace CatalogRecords.CommandLine

open CommandStep

/-- Opens the database of a call and makes sure that its table can have the name it should. -/
def openStore (c : Call) (configuration : Configuration) (context : String) :
    CommandStep (OpenDatabase × TablePrefix) := do
  let d ← openDatabase c configuration (c.value? .db)
  let p ← orFail (fun error : TermStoreError => context ++ error.message) d.tablePrefix
  return (d, p)

/-- The argument at a position. -/
def argument (c : Call) (position : Nat) : String := c.arguments.getD position ""

/-- Whether a target is a field. -/
def isField (target : String) : Bool := target.toList.contains '.'

/-- Adds a term to a field. -/
def runTermsAdd (c : Call) (configuration : Configuration) : CommandStep Unit := do
  let (d, p) ← openStore c configuration ""
  let field := argument c 0
  let term := argument c 1
  let (isNew, db) ← orFail (fun error : TermStoreError => s!"Failed to add term: {error.message}")
    (d.db.add p field term (c.value? .url))
  d.save db
  if isNew then print s!"Added '{term}' to {field}."
  else print s!"'{term}' is already in {field}."

/-- Removes a term of a field, or all terms of a field or document type. -/
def runTermsRemove (c : Call) (configuration : Configuration) : CommandStep Unit := do
  let (d, p) ← openStore c configuration ""
  let target := argument c 0
  let removed ← match c.arguments[1]?, isField target with
    | some term, true => pure (d.db.remove p target term)
    | none, true => pure (d.db.removeField p target)
    | none, false => pure (d.db.removeType p target)
    | some _, false =>
      throw s!"'{target}' is not a field path; a term can only be removed from a field"
  let (count, db) ← orFail (fun error : TermStoreError =>
    s!"Failed to remove terms: {error.message}") removed
  d.save db
  print s!"Removed {count} term(s) from {target}."

/-- The line for a term. -/
def entryLine (e : TermEntry) : String :=
  match e.url with
  | some url => s!"{e.term}\t{url}"
  | none => e.term

/-- The terms of a field as they are written. -/
def encodeEntries (entries : List TermEntry) : Data := .list (entries.map TermEntry.encode)

/-- Lists the terms of a field or document type. -/
def runTermsList (c : Call) (configuration : Configuration) : CommandStep Unit := do
  let (d, p) ← openStore c configuration ""
  let target := argument c 0
  let t ← orFail (fun error : TermStoreError => s!"Failed to list terms: {error.message}")
    (d.db.table p)
  if isField target then
    let entries := t.entries target (c.value? .startsWith)
    if c.has .json then print (Json.pretty (encodeEntries entries))
    else printAll (entries.map entryLine)
  else
    let fields := t.fieldsOf target
    if c.has .json then
      print (Json.pretty (.map (fields.map fun (path, entries) => (path, encodeEntries entries))))
    else printAll (fields.flatMap fun (path, entries) =>
      s!"{path}:" :: entries.map fun e => "  " ++ entryLine e)

/-- Opens the database whose table is to be created, dropped or seeded. -/
def openMigration (c : Call) (configuration : Configuration) :
    CommandStep (OpenDatabase × TablePrefix) :=
  openStore c configuration "Failed to initialize migration: "

/-- Creates the table. -/
def runMigrateUp (c : Call) (configuration : Configuration) : CommandStep Unit := do
  let (d, p) ← openMigration c configuration
  let db ← orFail (fun error : TermStoreError => s!"Migration up failed: {error.message}")
    (d.db.create p)
  d.save db
  print s!"Migration up complete. Term table created with prefix '{p.text}' in '{d.path}'."

/-- Drops the table. -/
def runMigrateDown (c : Call) (configuration : Configuration) : CommandStep Unit := do
  let (d, p) ← openMigration c configuration
  let db ← orFail (fun error : TermStoreError => s!"Migration down failed: {error.message}")
    (d.db.drop p)
  d.save db
  print s!"Migration down complete. Term table with prefix '{p.text}' dropped from '{d.path}'."

/-- The lines for what became of the seeds. -/
def seedLines (r : SeedReport) : List String :=
  [s!"  Files read: {r.files}", s!"  Terms inserted: {r.inserted}",
    s!"  Duplicates skipped: {r.skipped}"]

/-- The text of what kept seeds from being put into the table. -/
def seedFailure (error : TermStoreError) : String := s!"Seed failed: {error.message}"

/-- Seeds the table. -/
def runMigrateSeed (c : Call) (configuration : Configuration) : CommandStep Unit := do
  let (d, p) ← openMigration c configuration
  let source := (c.value? .source).getD ""
  let (report, db) ← orFail seedFailure (d.db.seedFrom p (← files) source)
  d.save db
  printAll ("Seed complete:" :: seedLines report)

/-- Drops the table, creates it and seeds it. -/
def runMigrateRefresh (c : Call) (configuration : Configuration) : CommandStep Unit := do
  let (d, p) ← openMigration c configuration
  let source := (c.value? .source).getD ""
  let (result, db) := d.db.refreshFrom p (← files) source
  d.save db
  let report ← orFail seedFailure result
  printAll ("Refresh complete (table dropped, recreated, and reseeded):" :: seedLines report)

/-- Shows how much the table holds. -/
def runMigrateStatus (c : Call) (configuration : Configuration) : CommandStep Unit := do
  let (d, p) ← openMigration c configuration
  let status ← orFail (fun error : TermStoreError =>
    s!"Failed to get migration status: {error.message}") (d.db.status p)
  let existence := if status.tableExists then "yes" else "no"
  printAll ["Migration Status:", s!"  Tables exist: {existence}",
    s!"  Term count: {status.termCount}", s!"  Field count: {status.fieldCount}",
    s!"  Document type count: {status.typeCount}"]

end CatalogRecords.CommandLine
