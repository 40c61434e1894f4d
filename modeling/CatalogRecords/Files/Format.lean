import CatalogRecords.Files.Workspace
import CatalogRecords.Json.Reader
import CatalogRecords.Yaml.Reader

/-!
# Formats of files

A file is decoded as its extension says, from JSON or from YAML. Whether the extension is known is
looked at before the file is.
-/

namespace CatalogRecords

/-- The last name of a path; there is none after a step upwards. -/
def fileName? (path : String) : Option String :=
  let segments := (Text.split '/' path).filter fun segment => segment ≠ "" ∧ segment ≠ "."
  segments.getLast?.filter (· ≠ "..")

/-- What follows the last dot of a file's name, unless the name begins with that dot. -/
def extension? (path : String) : Option String := do
  let name ← fileName? path
  let (after, _, before) ← Text.cutAt? (· == '.') name.toList.reverse
  if before.isEmpty then none else some (String.ofList after.reverse)

/-- The formats that files are decoded from. -/
inductive FileFormat where
  | json
  | yaml
  deriving DecidableEq, Repr

namespace FileFormat

/-- The format that a path's extension says. -/
def ofPath? (path : String) : Option FileFormat :=
  match extension? path with
  | some "json" => some json
  | some "yaml" => some yaml
  | some "yml" => some yaml
  | _ => none

/-- The error of a file that does not decode. -/
def error : FileFormat → (path : String) → LoadError
  | json => .badJson
  | yaml => .badYaml

/-- How deep values may be nested in YAML. -/
def greatestYamlDepth : Nat := 128

/-- Decodes a text. -/
def decode? {α : Type} (decode : Dialect → Data → Option α) (text : String) :
    FileFormat → Option α
  | json => (Json.readLimited? text).bind (decode .json)
  | yaml => (Yaml.read? text).bind fun node =>
      decode .yaml (node.toData.limitDepth greatestYamlDepth)

end FileFormat

namespace Workspace

/-- Decodes the file at a path as its extension says. -/
def load {α : Type} (w : Workspace) (decode : Dialect → Data → Option α) (path : String) :
    Except LoadError α :=
  match FileFormat.ofPath? path with
  | none => .error (.unsupportedFormat path)
  | some format =>
    match w.readText path with
    | .ok text =>
      match format.decode? decode text with
      | some value => .ok value
      | none => .error (format.error path)
    | .error .isDirectory => .error (format.error path)
    | .error .notText => .error (format.error path)
    | .error reason => .error (.fault reason)

/-- The path of a file in the directory at a path. -/
def pathIn (directory name : String) : String :=
  if directory.isEmpty || Text.endsWith directory "/" then directory ++ name
  else directory ++ "/" ++ name

/-- The paths of the files in a directory that can be decoded, in the order of their names. -/
def supportedFiles (w : Workspace) (directory : String) : Except LoadError (List String) :=
  match w.fileNames directory with
  | .ok names =>
    .ok ((names.map (pathIn directory)).filter fun path => (FileFormat.ofPath? path).isSome)
  | .error reason => .error (.fault reason)

/-- Decodes all files of a directory that can be decoded. -/
def loadAll {α : Type} (w : Workspace) (decode : Dialect → Data → Option α) (directory : String) :
    Except LoadError (List (String × α)) := do
  (← w.supportedFiles directory).mapM fun path => (w.load decode path).map (path, ·)

end Workspace

end CatalogRecords
