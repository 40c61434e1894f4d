import CatalogRecords.CommandLine.Run
import CatalogRecords.Files.DatabaseText

/-!
# The command line program

Reads the files below the current directory, runs a command on them, prints what it printed and
writes the files that it changed.
-/

namespace CatalogRecords

/-- What a caller is told who asks for help or gives arguments that are not understood. -/
def usage : String :=
  "usage: catalog [--config FILE] [--verbose] " ++
    "inspect|validate|check-query|eval|terms|migrate ARGUMENTS"

/-- Reads the files below the current directory. -/
def readWorkspace : IO Workspace := do
  let root ← IO.currentDir
  let mut w : Workspace := {}
  for path in ← root.walkDir do
    let below := path.toString.toList.drop root.toString.length
    let location := Workspace.plainLocation (String.ofList below)
    if ← path.isDir then
      w := { w with directories := w.directories ++ [location] }
    else
      let content := match String.fromUTF8? (← IO.FS.readBinFile path) with
        | some text => FileContent.ofText text
        | none => .database .foreign
      w := w.put location content
  return w

/-- Writes the files that are not as they were. -/
def writeChanges (before after : Workspace) : IO Unit := do
  for (location, content) in after.files do
    if let some text := content.toText? then
      if ((before.file? location).bind FileContent.toText?) ≠ some text then
        IO.FS.writeFile (Text.join "/" location) text

/-- Runs the command line on the files below the current directory. -/
def runProgram (args : List String) : IO UInt32 := do
  let before ← readWorkspace
  let (outcome, after) := CommandLine.run before args
  IO.print outcome.output
  if let some error := outcome.error then IO.eprintln error
  if outcome.status = 2 then IO.eprintln usage
  writeChanges before after
  return outcome.status.toUInt32

end CatalogRecords

/-- The entry point of the program. -/
def main (args : List String) : IO UInt32 := CatalogRecords.runProgram args
