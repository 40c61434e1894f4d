import CatalogRecords.Files.Workspace
import CatalogRecords.Json.Reader
import CatalogRecords.Json.Writer

/-!
# Texts of databases

A database of terms is kept as a text: a line that tells it from other files, then its tables with
the paths, terms and references of their rows. What a row's path determines is not written.
-/

namespace CatalogRecords

open Data (text? list?)

/-- A row as it is written. -/
def TermRow.encode (row : TermRow) : Data :=
  .list [.text row.path, .text row.term, Data.ofText? row.url]

/-- Reads a row. -/
def TermRow.decode? : Data → Option TermRow
  | .list [path, term, .null] => do TermRow.ofPath? (← text? path) (← text? term) none
  | .list [path, term, url] => do
    TermRow.ofPath? (← text? path) (← text? term) (some (← text? url))
  | _ => none

namespace TermTable

/-- The table of some rows; of rows for the same term the first one is taken. -/
def ofRows (rows : List TermRow) : TermTable := rows.foldl insert empty

/-- A table with its name as it is written. -/
def encode (name : String) (t : TermTable) : Data :=
  .map [("name", .text name), ("rows", .list (t.rows.map TermRow.encode))]

/-- Reads a table with its name. -/
def decode? (value : Data) : Option (String × TermTable) := do
  let r ← value.record? .json ["name", "rows"]
  let name ← r.required "name" fun part => text? part.1
  let rows ← r.required "rows" fun part => list? .json TermRow.decode? part.1
  some (name, ofRows rows)

end TermTable

namespace FileContent

/-- The line that a database begins with. -/
def databaseHeader : List Char := "catalog term database\n".toList

/-- The text of a file. -/
def toText? : FileContent → Option String
  | .text s => some s
  | .database (.tables named) =>
    some (String.ofList (databaseHeader ++
      (Json.compact (.list (named.map fun (name, t) => t.encode name))).toList))
  | .database .foreign => none

/-- The content of a file with the given text. -/
def ofText (s : String) : FileContent :=
  match Text.dropStart? databaseHeader s.toList with
  | none => .text s
  | some rest =>
    match (Json.read? (String.ofList rest)).bind (list? .json TermTable.decode?) with
    | some named => .database (.tables named)
    | none => .database .foreign

end FileContent

end CatalogRecords
