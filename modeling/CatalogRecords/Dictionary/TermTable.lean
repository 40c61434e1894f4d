import CatalogRecords.Data
import CatalogRecords.Dictionary.Wildcard
import CatalogRecords.Text.Segments

/-!
# Tables of terms

A table holds the terms of many fields, each in a row with the document type that the field belongs
to. The document type is kept beside the path so that all terms of a type can be read or removed
together. No field has a term twice: adding a term that is there changes nothing, not even its
reference.
-/

namespace CatalogRecords

/-- The document type of a complete path: what comes before its first dot. Neither that nor what
comes after the dot may be empty. -/
def typeOfPath? (path : String) : Option String :=
  match Text.splitOnce? '.' path with
  | some (type, rest) => if type.isEmpty || rest.isEmpty then none else some type
  | none => none

/-- A term of a field. -/
structure TermRow where
  documentType : String
  path : String
  term : String
  url : Option String
  type_of_path : typeOfPath? path = some documentType
  deriving DecidableEq, Repr

namespace TermRow

/-- What tells rows apart. -/
def key (row : TermRow) : String × String := (row.path, row.term)

/-- The row of a term, if its path is complete. -/
def ofPath? (path term : String) (url : Option String) : Option TermRow :=
  match h : typeOfPath? path with
  | some type => some ⟨type, path, term, url, h⟩
  | none => none

/-- Rows go by their paths, and those of one path by their terms. -/
def le (a b : TermRow) : Bool :=
  decide (a.path < b.path) || (a.path == b.path && decide (a.term ≤ b.term))

end TermRow

/-- A term with its reference. -/
structure TermEntry where
  term : String
  url : Option String
  deriving DecidableEq, Repr

/-- A term with its reference as it is written. -/
def TermEntry.encode (e : TermEntry) : Data :=
  .map [("term", .text e.term), ("url", Data.ofText? e.url)]

/-- The entry of a row. -/
def TermRow.entry (row : TermRow) : TermEntry := ⟨row.term, row.url⟩

/-- Rows in which no term of a field comes twice. -/
structure TermTable where
  rows : List TermRow
  distinct : (rows.map TermRow.key).Nodup

namespace TermTable

/-- The table without terms. -/
def empty : TermTable := ⟨[], by simp⟩

/-- The row of a term of a field. -/
def find? (t : TermTable) (path term : String) : Option TermRow :=
  t.rows.find? fun row => row.key == (path, term)

/-- Whether a field has a term. -/
def contains (t : TermTable) (path term : String) : Bool := (t.find? path term).isSome

/-- Adds a row, unless the field has the term. -/
def insert (t : TermTable) (row : TermRow) : TermTable :=
  if h : row.key ∈ t.rows.map TermRow.key then t
  else ⟨t.rows ++ [row], by
    rw [List.map_append, List.map_singleton]
    exact List.nodup_append.2 ⟨t.distinct, by simp, by
      intro a ha b hb heq
      rw [List.mem_singleton] at hb
      exact h (hb ▸ heq ▸ ha)⟩⟩

/-- The rows that `keep` holds of. -/
def filter (t : TermTable) (keep : TermRow → Bool) : TermTable :=
  ⟨t.rows.filter keep, t.distinct.sublist (List.filter_sublist.map _)⟩

/-- Removes a term of a field. -/
def erase (t : TermTable) (path term : String) : TermTable :=
  t.filter fun row => row.key != (path, term)

/-- Removes all terms of a field. -/
def eraseField (t : TermTable) (path : String) : TermTable := t.filter fun row => row.path != path

/-- Removes all terms of a document type. -/
def eraseType (t : TermTable) (type : String) : TermTable :=
  t.filter fun row => row.documentType != type

/-- The reference of a term, if it has one. -/
def url? (t : TermTable) (path term : String) : Option String :=
  (t.find? path term).bind TermRow.url

/-- The number of terms. -/
def size (t : TermTable) : Nat := t.rows.length

/-- The number of fields with terms. -/
def fieldCount (t : TermTable) : Nat := (t.rows.map TermRow.path).eraseDups.length

/-- The number of document types with terms. -/
def typeCount (t : TermTable) : Nat := (t.rows.map TermRow.documentType).eraseDups.length

/-- The terms of a field in order. -/
def entriesOf (t : TermTable) (path : String) : List TermEntry :=
  ((t.rows.filter fun row => row.path == path).mergeSort TermRow.le).map TermRow.entry

/-- The terms of a field that match a pattern, in order. -/
def entriesMatching (t : TermTable) (path : String) (pattern : List Char) : List TermEntry :=
  ((t.rows.filter fun row =>
    row.path == path && Wildcard.matchesChars pattern row.term.toList).mergeSort
      TermRow.le).map TermRow.entry

/-- The terms of a field in order, or those of them that begin with a text. -/
def entries (t : TermTable) (path : String) : (start : Option String) → List TermEntry
  | none => t.entriesOf path
  | some start => t.entriesMatching path (Wildcard.beginning start)

/-- Rows with those of one path that stand next to each other together. -/
def grouped : List TermRow → List (String × List TermEntry)
  | [] => []
  | row :: rows =>
    match grouped rows with
    | (path, entries) :: groups =>
      if path = row.path then (path, row.entry :: entries) :: groups
      else (row.path, [row.entry]) :: (path, entries) :: groups
    | [] => [(row.path, [row.entry])]

/-- The terms of a document type by their fields, both in order. -/
def fieldsOf (t : TermTable) (type : String) : List (String × List TermEntry) :=
  grouped ((t.rows.filter fun row => row.documentType == type).mergeSort TermRow.le)

/-- The texts of the terms of a document type by their fields. -/
def termsOf (t : TermTable) (type : String) : List (String × List String) :=
  (t.fieldsOf type).map fun (path, entries) => (path, entries.map TermEntry.term)

end TermTable

end CatalogRecords
