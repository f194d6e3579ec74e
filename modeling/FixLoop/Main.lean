import FixLoop.CommandLine.Commands
import FixLoop.Json.Reader
import FixLoop.Json.Writer

/-!
The program. It reads the files at and below the current folder, runs the command that its arguments
say, prints what came of it, and writes the files that changed. Settings and manifests are read in
JSON, in which every manifest can be written.
-/

namespace FixLoop

namespace Program

def formats : FileFormats where
  toml? := Json.read?
  yaml? := Json.read?

/-- The entries of a folder, and of all folders below it. -/
partial def entriesOf (folder : Path) (found : Array IO.FS.DirEntry) :
    IO (List (Path × Entry)) := do
  let entries ← found.toList.mapM fun item => do
    let path := folder ++ [item.fileName]
    if ← item.path.isDir then
      return (path, Entry.folder) :: (← entriesOf path (← item.path.readDir))
    else
      return [(path, Entry.file (← IO.FS.readBinFile item.path).toList)]
  return entries.flatten

/-- The variables of the environment that are set. -/
def environment : IO (List (String × String)) := do
  let found ← Config.optionVariables.mapM fun (name, _, _) => do
    return (← IO.getEnv name).map fun value => (name, value)
  return found.filterMap id

/-- The files of a tree that differ from those of the tree before. -/
def changedFiles (before after : FileTree) : List (Path × Bytes) :=
  after.entries.filterMap fun (path, entry) =>
    match entry with
    | .file content => if before.entry? path = some entry then none else some (path, content)
    | .folder => none

def print (place : Path → String) (outcome : CommandOutcome) : IO Unit := do
  match outcome.json with
  | some value => IO.println (Json.write value)
  | none => (Line.shown (Printed.lines outcome.printed).1).forM IO.println
  outcome.messages.forM IO.eprintln
  match outcome.crash with
  | some crash => IO.eprintln (crash.message place)
  | none => pure ()

/-- Runs a command twice: the first run is timed, and the second says how long it took. -/
def run (words : List String) : IO UInt32 := do
  let here ← IO.currentDir
  let files : FileTree := ⟨← entriesOf [] (← here.readDir)⟩
  let place (path : Path) : String :=
    if path.isEmpty then toString here else toString here ++ "/" ++ path.text
  let untimed : Setting := {
    files
    environment := ← environment
    formats
    place
    passLimit := 1000000
    duration := secondsText 0 }
  let start ← IO.monoMsNow
  let first ← IO.lazyPure fun _ => Command.runArguments untimed words
  let milliseconds := (← IO.monoMsNow) - start
  let outcome := Command.runArguments
    { untimed with
      duration := secondsText milliseconds
      elapsed := some (.real (.ofDecimal false milliseconds (-3))) } words
  (changedFiles files first.files).forM fun (path, content) =>
    IO.FS.writeBinFile path.text ⟨content.toArray⟩
  print place outcome
  return UInt32.ofNat outcome.code

end Program

end FixLoop

def main (words : List String) : IO UInt32 := FixLoop.Program.run words
