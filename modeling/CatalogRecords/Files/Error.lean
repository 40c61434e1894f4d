import CatalogRecords.Schema.Build

/-!
# Errors of loading

What can go wrong between the path of a file and what is made of its content: the file cannot be
read, its content cannot be decoded, or the definitions in it make no registry.
-/

namespace CatalogRecords

/-- Why a path cannot be read or written. -/
inductive Fault where
  | notFound
  | isDirectory
  | notDirectory
  /-- The bytes of the file are no text. -/
  | notText
  deriving DecidableEq, Repr

/-- The text of a fault. -/
def Fault.message : Fault → String
  | notFound => "No such file or directory (os error 2)"
  | isDirectory => "Is a directory (os error 21)"
  | notDirectory => "Not a directory (os error 20)"
  | notText => "stream did not contain valid UTF-8"

/-- Why something cannot be loaded. -/
inductive LoadError where
  | fault (reason : Fault)
  | badJson (path : String)
  | badYaml (path : String)
  | invalidDefinition (sid : String) (reason : SchemaError)
  | duplicateType (sid : String)
  | unsupportedFormat (path : String)
  | noSources
  deriving DecidableEq, Repr

/-- The text of an error. -/
def LoadError.message : LoadError → String
  | fault reason => s!"I/O error: {reason.message}"
  | badJson path => s!"JSON error in {path}: unexpected value"
  | badYaml path => s!"YAML error in {path}: unexpected value"
  | invalidDefinition sid reason => s!"invalid definition of {sid}: {reason.message}"
  | duplicateType sid => s!"document type {sid} is defined more than once"
  | unsupportedFormat path => s!"unsupported file format: {path}"
  | noSources => "no definition sources available"

end CatalogRecords
