import CatalogRecords.CommandLine.Documents
import CatalogRecords.CommandLine.Queries
import CatalogRecords.CommandLine.Terms

/-!
# Running the command line

The arguments are read first; a call that is not understood runs nothing. A command that fails has
the status 1 and an error, which comes after what it printed.
-/

namespace CatalogRecords.CommandLine

/-- What a call comes to. -/
structure Outcome where
  status : Nat
  output : String := ""
  error : Option String := none
  deriving DecidableEq, Repr

/-- The version of the command line. -/
def versionText : String := "catalog 0.1.0"

/-- Runs a command. -/
def runCommand (c : Call) (configuration : Configuration) : CommandStep Unit :=
  match c.command with
  | .inspect => runInspect c configuration
  | .validate => runValidate c configuration
  | .checkQuery => runCheckQuery c configuration
  | .eval => runEval c configuration
  | .termsAdd => runTermsAdd c configuration
  | .termsRemove => runTermsRemove c configuration
  | .termsList => runTermsList c configuration
  | .migrateUp => runMigrateUp c configuration
  | .migrateDown => runMigrateDown c configuration
  | .migrateSeed => runMigrateSeed c configuration
  | .migrateRefresh => runMigrateRefresh c configuration
  | .migrateStatus => runMigrateStatus c configuration
  | .catalog => pure ()
  | .terms => pure ()
  | .migrate => pure ()

/-- Loads the configuration of a call and runs its command. -/
def runCall (c : Call) : CommandStep Unit := do runCommand c (← loadConfiguration c)

/-- Lines as one text. -/
def outputOf (lines : List String) : String := String.join (lines.map (· ++ "\n"))

/-- Runs the command line on some files. -/
def run (w : Workspace) (args : List String) : Outcome × Workspace :=
  match Call.ofArguments args with
  | .error .help => (⟨0, "", none⟩, w)
  | .error .version => (⟨0, outputOf [versionText], none⟩, w)
  | .error .misuse => (⟨2, "", none⟩, w)
  | .ok c =>
    match (runCall c).run.run { files := w } with
    | (.ok (), s) => (⟨0, outputOf s.lines, none⟩, s.files)
    | (.error text, s) => (⟨1, outputOf s.lines, some ("error: " ++ text)⟩, s.files)

end CatalogRecords.CommandLine
