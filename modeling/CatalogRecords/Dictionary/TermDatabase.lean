import CatalogRecords.Dictionary.Basic
import CatalogRecords.Dictionary.Seed
import CatalogRecords.Dictionary.TablePrefix
import CatalogRecords.Dictionary.TermTable
import CatalogRecords.Files.Error

/-!
# Databases of terms

A database holds the term tables of several dictionaries by name. A table has to be created before
it can be used; creating one that is there and dropping one that is not do nothing. Seeding puts all
terms of all seeds into a table or, if anything is wrong with one of them, none. Refreshing drops a
table, creates it and seeds it, each for good: if the seeds turn out to be bad, the table stays
empty.
-/

namespace CatalogRecords

/-- Why something cannot be done with a term table. -/
inductive TermStoreError where
  /-- The table cannot be read or written. -/
  | database
  /-- The table cannot be created or dropped. -/
  | migration
  | invalidPrefix (text : String)
  | invalidFieldPath (path : String)
  | load (error : LoadError)
  deriving DecidableEq, Repr

/-- The text of an error. -/
def TermStoreError.message : TermStoreError → String
  | database => "database error: the term table is not accessible"
  | migration => "migration error: the term table cannot be created or dropped"
  | invalidPrefix text =>
    s!"invalid prefix '{text}': must contain only alphanumeric characters and underscores"
  | invalidFieldPath path =>
    s!"invalid field path '{path}': expected a complete path such as SI.CD.TSK"
  | load error => s!"loader error: {error.message}"

/-- A text as what the name of a table begins with. -/
def TablePrefix.ofText (text : String) : Except TermStoreError TablePrefix :=
  match ofText? text with
  | some p => .ok p
  | none => .error (.invalidPrefix text)

/-- A row for a term of a field. -/
def TermRow.ofPath (path term : String) (url : Option String) : Except TermStoreError TermRow :=
  match ofPath? path term url with
  | some row => .ok row
  | none => .error (.invalidFieldPath path)

/-- What a file holds that is used as a database of terms. -/
inductive TermDatabase where
  /-- Tables by name. -/
  | tables (named : List (String × TermTable))
  /-- Something that is no database. -/
  | foreign

/-- How much a table holds, if there is one. -/
structure StoreStatus where
  tableExists : Bool := false
  termCount : Nat := 0
  fieldCount : Nat := 0
  typeCount : Nat := 0
  deriving DecidableEq, Repr

/-- What became of the terms of some seeds. -/
structure SeedReport where
  files : Nat := 0
  inserted : Nat := 0
  skipped : Nat := 0
  deriving DecidableEq, Repr

namespace TermDatabase

/-- The database without tables. -/
def empty : TermDatabase := .tables []

/-- Whether a name means the table of a dictionary. -/
def isNameOf (p : TablePrefix) (name : String) : Bool :=
  TablePrefix.folded name == TablePrefix.folded p.tableName

/-- The table of a dictionary, as statements find it. -/
def table? (db : TermDatabase) (p : TablePrefix) : Option TermTable :=
  match db with
  | .tables named =>
    if p.isWritable then (named.find? fun entry => isNameOf p entry.1).map Prod.snd else none
  | .foreign => none

/-- The table of a dictionary. -/
def table (db : TermDatabase) (p : TablePrefix) : Except TermStoreError TermTable :=
  match db.table? p with
  | some t => .ok t
  | none => .error .database

/-- The database with another table for a dictionary that has one. -/
def withTable (db : TermDatabase) (p : TablePrefix) (t : TermTable) : TermDatabase :=
  match db with
  | .tables named => .tables (named.map fun (name, old) =>
      if isNameOf p name then (name, t) else (name, old))
  | .foreign => .foreign

/-- Creates the table of a dictionary. -/
def create (db : TermDatabase) (p : TablePrefix) : Except TermStoreError TermDatabase :=
  match db with
  | .foreign => .error .migration
  | .tables named =>
    if !p.isWritable then .error .migration
    else if named.any fun entry => isNameOf p entry.1 then .ok db
    else if p.isReserved then .error .migration
    else .ok (.tables (named ++ [(p.tableName, .empty)]))

/-- Drops the table of a dictionary. -/
def drop (db : TermDatabase) (p : TablePrefix) : Except TermStoreError TermDatabase :=
  match db with
  | .foreign => .error .migration
  | .tables named =>
    if p.isWritable then .ok (.tables (named.filter fun entry => !isNameOf p entry.1))
    else .error .migration

/-- How much the table of a dictionary holds. The name of the table has to be the same in every
letter, also in its case. -/
def status (db : TermDatabase) (p : TablePrefix) : Except TermStoreError StoreStatus :=
  match db with
  | .foreign => .error .database
  | .tables named =>
    if named.any fun entry => entry.1 == p.tableName then
      (db.table p).map fun t => ⟨true, t.size, t.fieldCount, t.typeCount⟩
    else .ok {}

/-- Adds a term to those of a field, and tells whether it is new. -/
def add (db : TermDatabase) (p : TablePrefix) (path term : String) (url : Option String) :
    Except TermStoreError (Bool × TermDatabase) := do
  let row ← TermRow.ofPath path term url
  let t ← db.table p
  .ok (!t.contains path term, db.withTable p (t.insert row))

/-- Changes the table of a dictionary by removing terms, and tells how many are gone. -/
def shrink (db : TermDatabase) (p : TablePrefix) (change : TermTable → TermTable) :
    Except TermStoreError (Nat × TermDatabase) := do
  let t ← db.table p
  .ok (t.size - (change t).size, db.withTable p (change t))

/-- Removes a term of a field. -/
def remove (db : TermDatabase) (p : TablePrefix) (path term : String) :
    Except TermStoreError (Nat × TermDatabase) :=
  db.shrink p fun t => t.erase path term

/-- Removes all terms of a field. -/
def removeField (db : TermDatabase) (p : TablePrefix) (path : String) :
    Except TermStoreError (Nat × TermDatabase) :=
  db.shrink p fun t => t.eraseField path

/-- Removes all terms of a document type. -/
def removeType (db : TermDatabase) (p : TablePrefix) (type : String) :
    Except TermStoreError (Nat × TermDatabase) :=
  db.shrink p fun t => t.eraseType type

/-- Puts a term of a seed into a table. -/
def seedTerm (state : TermTable × SeedReport) (entry : String × SeedTerm) :
    Except TermStoreError (TermTable × SeedReport) := do
  let (t, report) := state
  let row ← TermRow.ofPath entry.1 entry.2.term entry.2.url
  if t.contains row.path row.term then .ok (t, { report with skipped := report.skipped + 1 })
  else .ok (t.insert row, { report with inserted := report.inserted + 1 })

/-- Puts the terms of a seed into a table. -/
def seedAll (state : TermTable × SeedReport) (s : Seed) :
    Except TermStoreError (TermTable × SeedReport) := do
  let (t, report) ← s.entries.foldlM seedTerm state
  .ok (t, { report with files := report.files + 1 })

/-- Puts the terms of all seeds into the table of a dictionary, if the seeds could be loaded. -/
def seed (db : TermDatabase) (p : TablePrefix) (loaded : Except LoadError (List Seed)) :
    Except TermStoreError (SeedReport × TermDatabase) := do
  let seeds ← loaded.mapError .load
  let t ← db.table p
  let (t, report) ← seeds.foldlM seedAll (t, {})
  .ok (report, db.withTable p t)

/-- Drops the table of a dictionary, creates it and seeds it. What was done before something went
wrong is not undone. -/
def refresh (db : TermDatabase) (p : TablePrefix) (loaded : Except LoadError (List Seed)) :
    Except TermStoreError SeedReport × TermDatabase :=
  match db.drop p with
  | .error error => (.error error, db)
  | .ok dropped =>
    match dropped.create p with
    | .error error => (.error error, dropped)
    | .ok created =>
      match created.seed p loaded with
      | .error error => (.error error, created)
      | .ok (report, seeded) => (.ok report, seeded)

/-- The table of a dictionary as what a validation asks. Without the table no term is known. -/
def dictionary (db : TermDatabase) (p : TablePrefix) : Dictionary where
  termExists path term := (db.table? p).any fun t => t.contains path term
  allTerms? type := (db.table? p).map fun t => t.termsOf type

end TermDatabase

end CatalogRecords
