import CatalogRecords.CommandLine.Arguments
import CatalogRecords.Configuration
import CatalogRecords.Document.Encoding
import CatalogRecords.Query.Checking

/-!
# Sessions of the command line

A command reads and writes files, prints lines and may fail with a text. What it has printed and
written before it fails stays. Where options leave something open, the configuration decides.
-/

namespace CatalogRecords.CommandLine

/-- What a command works on: the files and the lines printed so far. -/
structure Session where
  files : Workspace
  lines : List String := []

/-- A step of a command. -/
abbrev CommandStep (α : Type) := ExceptT String (StateM Session) α

namespace CommandStep

/-- Prints a line. -/
def print (line : String) : CommandStep Unit :=
  modify fun s => { s with lines := s.lines ++ [line] }

/-- Prints lines. -/
def printAll (lines : List String) : CommandStep Unit :=
  modify fun s => { s with lines := s.lines ++ lines }

/-- The files. -/
def files : CommandStep Workspace := do return (← get).files

/-- Changes the files. -/
def setFiles (w : Workspace) : CommandStep Unit := modify fun s => { s with files := w }

/-- Goes on with a result, or fails with the text of an error. -/
def orFail {ε α : Type} (text : ε → String) : Except ε α → CommandStep α
  | .ok value => pure value
  | .error error => throw (text error)

end CommandStep

open CommandStep

/-- The configuration that a call names. -/
def loadConfiguration (c : Call) : CommandStep Configuration :=
  match c.value? .config with
  | none => pure {}
  | some path => do
    orFail (fun error : LoadError => s!"Failed to load configuration '{path}': {error.message}")
      (Configuration.load (← files) path)

/-- The registry that a call is about. -/
def loadRegistry (c : Call) (configuration : Configuration) : CommandStep Registry := do
  match c.value? .schemas with
  | some path =>
    orFail (fun error : LoadError => s!"Failed to load definitions from '{path}': {error.message}")
      (Registry.ofSource (← files) (.directory path))
  | none =>
    if configuration.sources.isEmpty then
      throw "No definition sources: pass --schemas or list schemas in the configuration file"
    else
      orFail (fun error : LoadError => s!"Failed to load definitions: {error.message}")
        (configuration.registry (← files))

/-- A database that a command has opened. -/
structure OpenDatabase where
  path : String
  db : TermDatabase
  /-- What the name of the table begins with, as it was given. -/
  prefixText : String

/-- Opens the database that a path names, or that of the configuration. -/
def openDatabase (c : Call) (configuration : Configuration) (path? : Option String) :
    CommandStep OpenDatabase := do
  let settings := configuration.dictionary
  match path? <|> settings.map DictionarySettings.path with
  | none => throw ("No dictionary database: pass --db or set dictionary.path " ++
      "in the configuration file")
  | some path =>
    let text := (c.value? .tablePrefix <|> settings.map DictionarySettings.tablePrefix).getD "cat_"
    match (← files).openDatabase? path with
    | none => throw s!"Failed to open database '{path}': unable to open database file"
    | some (db, w) =>
      setFiles w
      return ⟨path, db, text⟩

/-- What the name of the table begins with. -/
def OpenDatabase.tablePrefix (d : OpenDatabase) : Except TermStoreError TablePrefix :=
  TablePrefix.ofText d.prefixText

/-- Keeps what became of a database. -/
def OpenDatabase.save (d : OpenDatabase) (db : TermDatabase) : CommandStep Unit := do
  setFiles ((← files).saveDatabase d.path db)

/-- How queries are read and checked. -/
def checkOptions (c : Call) (configuration : Configuration) : Query.CheckOptions where
  lenientParsing := c.has .lenient || configuration.query.lenientParsing
  allowStorageOnly := c.has .allowStorageOnly || configuration.query.allowStorageOnly
  convention := ((c.value? .decimal).bind fun word => DecimalConvention.words.lookup word).getD
    configuration.convention

/-- Reads a document from a file. -/
def readDocument (w : Workspace) (path : String) : Except String Document :=
  match w.readText path with
  | .error reason => .error s!"Failed to read '{path}': {reason.message}"
  | .ok text =>
    match Document.ofJson? text with
    | some d => .ok d
    | none => .error s!"Failed to parse '{path}': unexpected value"

end CatalogRecords.CommandLine
