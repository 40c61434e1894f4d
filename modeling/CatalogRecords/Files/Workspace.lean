import CatalogRecords.Dictionary.TermDatabase

/-!
# Workspaces

The files that a command works on: texts and databases of terms at locations below one directory.
A directory is there when it was made or when something is in it. A path is followed from segment
to segment, each of which has to be a directory before the next one counts; nothing is above the
directory that all paths start from.
-/

namespace CatalogRecords

/-- The names that lead to a file or directory. -/
abbrev Location := List String

/-- What a file holds. -/
inductive FileContent where
  | text (text : String)
  | database (db : TermDatabase)

/-- Files and directories by their locations. -/
structure Workspace where
  files : List (Location × FileContent) := []
  directories : List Location := []

namespace Workspace

/-- The content of the file at a location. -/
def file? (w : Workspace) (location : Location) : Option FileContent := w.files.lookup location

/-- Whether a location is that of a directory. -/
def isDirectory (w : Workspace) (location : Location) : Bool :=
  location.isEmpty || w.directories.contains location ||
    (w.files.map Prod.fst ++ w.directories).any fun other =>
      location.isPrefixOf other && location != other

/-- Follows segments from a location, which may be one where nothing is if nothing follows. -/
def follow (w : Workspace) (location : Location) : List String → Except Fault Location
  | [] => .ok location
  | segment :: segments =>
    if (w.file? location).isSome then .error .notDirectory
    else if !w.isDirectory location then .error .notFound
    else if segment = "" ∨ segment = "." then w.follow location segments
    else if segment = ".." then
      if location.isEmpty then .error .notFound else w.follow location.dropLast segments
    else w.follow (location ++ [segment]) segments

/-- The location that a path leads to. -/
def locate (w : Workspace) (path : String) : Except Fault Location :=
  if Text.startsWith path "/" then .error .notFound else w.follow [] (Text.split '/' path)

/-- The content of the file at a path. -/
def read (w : Workspace) (path : String) : Except Fault FileContent := do
  let location ← w.locate path
  match w.file? location with
  | some content => .ok content
  | none => .error (if w.isDirectory location then .isDirectory else .notFound)

/-- The text of the file at a path. A database to which nothing was written is an empty file. -/
def readText (w : Workspace) (path : String) : Except Fault String := do
  match ← w.read path with
  | .text text => .ok text
  | .database _ => .error .notText

/-- The names of the files in the directory at a path, in order. -/
def fileNames (w : Workspace) (path : String) : Except Fault (List String) := do
  let location ← w.locate path
  if (w.file? location).isSome then .error .notDirectory
  else if w.isDirectory location then
    let nameIn? (other : Location) : Option String :=
      if other.dropLast = location then other.getLast? else none
    .ok ((w.files.filterMap fun entry => nameIn? entry.1).mergeSort fun a b => decide (a ≤ b))
  else .error .notFound

/-- The workspace with another content of the file at a location. -/
def put (w : Workspace) (location : Location) (content : FileContent) : Workspace :=
  if (w.file? location).isSome then
    { w with files := w.files.map fun (other, old) =>
        if other = location then (other, content) else (other, old) }
  else { w with files := w.files ++ [(location, content)] }

/-- Writes the file at a path, whose directory has to be there. A path that ends in a slash is that
of a directory. -/
def write (w : Workspace) (path : String) (content : FileContent) : Except Fault Workspace := do
  let isSlashed := Text.endsWith path "/"
  let location ← w.locate (if isSlashed then String.ofList path.toList.dropLast else path)
  if isSlashed || w.isDirectory location then .error .isDirectory
  else .ok (w.put location content)

/-- The location that a path has in an empty workspace. -/
def plainLocation (path : String) : Location :=
  (Text.split '/' path).filter fun segment => segment ≠ "" ∧ segment ≠ "."

/-- Puts a text at a path and makes all directories above it; a path that ends in a slash makes a
directory only. -/
def place (w : Workspace) (path text : String) : Workspace :=
  let location := plainLocation path
  if Text.endsWith path "/" then { w with directories := w.directories ++ [location] }
  else w.put location (.text text)

/-- The workspace of texts by their paths. -/
def ofTexts (texts : List (String × String)) : Workspace :=
  texts.foldl (fun w (path, text) => w.place path text) {}

/-- Whether a database of this name is kept in no file. -/
def isTransient (path : String) : Bool := path.isEmpty || path == ":memory:"

/-- Opens the file at a path as a database of terms; a new or empty one is a database without
tables, and any other text is no database. -/
def openDatabase? (w : Workspace) (path : String) : Option (TermDatabase × Workspace) :=
  if isTransient path then some (.empty, w)
  else match w.read path with
    | .ok (.text text) => some (if text.isEmpty then .empty else .foreign, w)
    | .ok (.database db) => some (db, w)
    | .error _ =>
      match w.write path (.text "") with
      | .ok w => some (.empty, w)
      | .error _ => none

/-- Keeps a database in its file. -/
def saveDatabase (w : Workspace) (path : String) (db : TermDatabase) : Workspace :=
  if isTransient path then w
  else match w.write path (.database db) with
    | .ok w => w
    | .error _ => w

end Workspace

end CatalogRecords
