import FixLoop.CommandLine.Arguments
import FixLoop.CommandLine.Output
import FixLoop.CommandLine.Overrides
import FixLoop.Manifest.Basic
import FixLoop.Session.Remediation
import FixLoop.Session.Summary
import FixLoop.Workspace.Saving

/-!
Commands: fixing the units of a manifest, listing what there is to fix, and listing the plugins. A
command turns the files it is given into an exit code, what it prints, and the files as they are
then.
-/

namespace FixLoop

/-- Where a command runs. -/
structure Setting where
  files : FileTree
  /-- The current folder. -/
  folder : Path := []
  environment : List (String × String) := []
  formats : FileFormats
  outcomes : Compilers.Outcomes := fun _ => {}
  /-- How a path is written for the user. -/
  place : Path → String
  passLimit : Nat
  /-- How durations are written. -/
  duration : String
  /-- The seconds that a run takes. -/
  elapsed : Option Value := none

/-- What was not foreseen. -/
inductive Crash where
  | manifest (fault : ManifestFault)
  | config (fault : LoadFault)
  | run (fault : Fault)
  | path (fault : PathFault)
  | markup
  deriving Repr, DecidableEq

/-- What a crash says; `place` writes paths as the user knows them. -/
def Crash.message (place : Path → String) : Crash → String
  | manifest fault => fault.message [] place
  | config fault => fault.message
  | run fault => fault.message
  | path fault => fault.message (place [])
  | markup => "a tag closes nothing"

structure CommandOutcome where
  code : Nat := 0
  printed : List Printed := []
  json : Option Value := none
  /-- The lines on the error output. -/
  messages : List String := []
  crash : Option Crash := none
  files : FileTree

/-- The command to run, with its arguments. -/
inductive Command where
  | version
  | fix (path : Option String) (spoken : SpokenConfig) (dryRun json verbose quiet : Bool)
  | analyze (path : Option String) (spoken : SpokenConfig) (json : Bool)
  | list (path : Option String) (json : Bool)
  deriving Repr

namespace Command

def flag (spellings : List String) : OptionSpec := { spellings, takesValue := false }

def valued (spelling : String) : OptionSpec := { spellings := [spelling] }

def fixOptions : List OptionSpec := [
  flag ["--dry-run", "-n"], valued "--max-iterations", valued "--batch-size", valued "--severity",
  valued "--ignore", valued "--ignore-compiler", flag ["--ignore-compiler-errors"],
  valued "--fixer", valued "--fix", valued "--banner", flag ["--format"],
  { spellings := ["--unit", "-u"] }, valued "--exclude-unit", flag ["--json"],
  flag ["--verbose", "-v"], flag ["--quiet", "-q"]]

def analyzeOptions : List OptionSpec := [
  valued "--severity", valued "--ignore", flag ["--json"], flag ["--verbose", "-v"]]

def listOptions : List OptionSpec := [flag ["--json"]]

/-- The one positional argument. -/
def onePath (arguments : Arguments) : Except UsageFault (Option String) :=
  match arguments.positional with
  | [] => .ok none
  | [path] => .ok (some path)
  | _ :: extra :: _ => .error (.unexpectedArgument extra)

def readFix (words : List String) : Except UsageFault Command := do
  let arguments ← Arguments.read fixOptions true words
  let maxIterations ← arguments.integer? "--max-iterations"
  let batchSize ← arguments.integer? "--batch-size"
  let texts (name : String) : Value := .list ((arguments.values name).map .text)
  let spoken : SpokenConfig := {
    maxIterations := maxIterations.elim .null .int
    batchSize := batchSize.elim .null .int
    minimumSeverity := (arguments.value? "--severity").elim .null .text
    ignore := texts "--ignore"
    ignoreCompiler := texts "--ignore-compiler"
    ignoreCompilerErrors := .bool (arguments.has "--ignore-compiler-errors")
    fixers := texts "--fixer"
    fixes := texts "--fix"
    banner := texts "--banner"
    format := .bool (arguments.has "--format")
    includeUnits := texts "--unit"
    excludeUnits := texts "--exclude-unit" }
  return .fix (← onePath arguments) spoken (arguments.has "--dry-run") (arguments.has "--json")
    (arguments.has "--verbose") (arguments.has "--quiet")

def readAnalyze (words : List String) : Except UsageFault Command := do
  let arguments ← Arguments.read analyzeOptions true words
  let spoken : SpokenConfig := {
    minimumSeverity := (arguments.value? "--severity").elim .null .text
    ignore := .list ((arguments.values "--ignore").map .text) }
  return .analyze (← onePath arguments) spoken (arguments.has "--json")

def readList (words : List String) : Except UsageFault Command := do
  let arguments ← Arguments.read listOptions true words
  return .list (← onePath arguments) (arguments.has "--json")

/-- Reads a command. -/
def read (words : List String) : Except UsageFault Command := do
  let arguments ← Arguments.read [flag ["--version", "-V"]] false words
  if arguments.has "--version" then return .version
  match arguments.positional with
  | [] => throw .noCommand
  | "fix" :: rest => readFix rest
  | "analyze" :: rest => readAnalyze rest
  | "list" :: rest => readList rest
  | name :: _ => throw (.unknownCommand name)

/-- The version of the program. -/
def versionText : String := "codefix version 0.1.0"

/-- Stops with a message. -/
def stop (setting : Setting) (message : String) : CommandOutcome where
  code := 1
  messages := ["Error: " ++ message]
  files := setting.files

/-- Ends with what was not foreseen. -/
def crashed (crash : Crash) (files : FileTree) : CommandOutcome where
  code := 1
  crash := some crash
  files

/-- Where the search for a manifest starts. -/
def startPath (setting : Setting) (given : Option String) : Path :=
  match given with
  | none => setting.folder
  | some text =>
    if Path.isAbsolute text then Path.ofText text else setting.folder ++ Path.ofText text

/-- The manifest to use, or the message that there is none. Nothing lies outside the tree. -/
def findManifest (setting : Setting) (given : Option String) :
    Except PathFault (Except String Path) := do
  let start := startPath setting given
  let outside := given.any Path.isAbsolute
  let tree := if outside then {} else setting.files
  match ← Manifest.find? tree start with
  | some path => return .ok path
  | none =>
    let resolved := (Path.resolve start).getD start
    let shown := if outside then "/" ++ "/".intercalate resolved else setting.place resolved
    return .error ("Could not find a workspace manifest (no '" ++ Manifest.fileName ++
      "' found). Searched from: " ++ shown)

/-- Loads the manifest for a command. -/
def loadManifest (setting : Setting) (given : Option String) :
    Except CommandOutcome (Manifest Unit) :=
  match findManifest setting given with
  | .error fault => .error (crashed (.path fault) setting.files)
  | .ok (.error message) => .error (stop setting message)
  | .ok (.ok path) =>
    match Manifest.load setting.formats setting.outcomes setting.files path with
    | .ok manifest => .ok manifest
    | .error fault =>
      if fault.isReported then .error (stop setting (fault.message path setting.place))
      else .error (crashed (.manifest fault) setting.files)

/-- Loads the configuration for the folder of a manifest. -/
def loadConfig (setting : Setting) (manifest : Manifest Unit) (spoken : SpokenConfig) :
    Except CommandOutcome Config :=
  match spoken.load setting.formats setting.files manifest.path.dropLast setting.environment with
  | .ok config => .ok config
  | .error (.load fault) =>
    if fault.isReported then .error (stop setting (SpokenFault.load fault).message)
    else .error (crashed (.config fault) setting.files)
  | .error fault => .error (stop setting fault.message)

def engineOf (setting : Setting) (manifest : Manifest Unit) (config : Config) : Engine Unit where
  analyzers := manifest.registry.analyzers
  fixers := manifest.registry.fixers
  compiler := manifest.compiler
  formatter := manifest.formatter
  config
  passLimit := setting.passLimit

/-- Words separated by commas, or a dash if there are none. -/
def listed (words : List String) (none : String) : String :=
  if words.isEmpty then none else ", ".intercalate words

def padRight (width : Nat) (s : String) : String :=
  s ++ String.ofList (List.replicate (width - s.length) ' ')

/-- The style of a kind of result. -/
def styleOf : UnitKind → String
  | .success => "green"
  | .oscillation => "yellow"
  | .compilerError => "red"
  | _ => "dim"

def styled (style text : String) : String := "[" ++ style ++ "]" ++ text ++ "[/" ++ style ++ "]"

/-- The row of a result in the table of a report. -/
def resultRow (result : UnitResult) : List String :=
  let kind := result.kind.label ++ if result.limitReached then " (limit)" else ""
  let skipped := result.skipped.map fun s => s.id ++ " (" ++ s.reason.label ++ ")"
  [result.unitName, styled (styleOf result.kind) kind, toString result.iterations,
    listed result.fixedIds "-", listed skipped "-"]

/-- What is printed about a result below the table. -/
def resultNotes (verbose : Bool) (result : UnitResult) : List Printed :=
  let errors := result.compilerErrors.map fun d =>
    Printed.markup ("  " ++ styled "red" "error" ++ " " ++ d.text)
  let details := (result.skipped.filter fun s => verbose && s.detail ≠ "").map fun s =>
    Printed.markup ("  " ++ styled "dim" (result.unitName ++ " " ++ s.id ++ ": " ++ s.detail))
  errors ++ details

/-- The last line of a report. -/
def verdict (setting : Setting) (report : RunReport) (changed : Nat) (dryRun : Bool) : Printed :=
  if report.cancelled then
    .markup (styled "yellow" "Cancelled." ++ " Fixes applied so far were kept.")
  else if report.aborted then .markup (styled "red" "Stopped:" ++ " a unit does not build.")
  else if report.isSuccess then
    .plain ("Success: " ++ (if dryRun then "Would change " else "Changed ") ++ toString changed ++
      " file(s) in " ++ setting.duration)
  else .markup (styled "yellow" "Done with unresolved diagnostics.")

/-- A report as it is printed. -/
def printReport (setting : Setting) (report : RunReport) (changed : List String)
    (dryRun verbose : Bool) : List Printed :=
  let title := "codefix" ++ if dryRun then " (dry run)" else ""
  let width := (report.fixedDiagnostics.map (·.id.length)).foldl max 0
  let fixed := report.fixedDiagnostics.map fun d =>
    Printed.markup ("  " ++ padRight width d.id ++ " " ++ d.title)
  let files := changed.map fun path => Printed.markup ("  " ++ styled "dim" path)
  [.table title ["Unit", "Result", "Iterations", "Fixed", "Skipped"]
    (report.results.map resultRow)] ++
  report.results.flatMap (resultNotes verbose) ++
  (if fixed.isEmpty then [] else .markup ("\n" ++ styled "bold" "Fixed diagnostics:") :: fixed) ++
  (if verbose && !changed.isEmpty then
    .markup ("\n" ++ styled "bold" "Changed files:") :: files else []) ++
  [.plain "", verdict setting report changed.length dryRun]

/-- Why a document cannot be written, as the system words it. -/
def writeMessage : WriteFault → String
  | .folderIsFile => "[Errno 17] File exists"
  | .path fault => fault.message ""

/-- What a run that came to a report comes to as a command. -/
def reportOutcome (setting : Setting) (report : RunReport) (workspace : Workspace)
    (dryRun json verbose quiet : Bool) : CommandOutcome :=
  let changed := workspace.changed.map fun (_, document) => document.path
  let saved := if dryRun || changed.isEmpty then none else (workspace.save setting.files).toOption
  let files := saved.elim setting.files (·.files)
  match saved.bind (·.fault) with
  | some fault =>
    { code := 2, messages := ["Error: Cannot write changes: " ++ writeMessage fault], files }
  | none =>
    let code := if report.isSuccess then 0 else 1
    if json then
      let value := match report.toValue setting.elapsed with
        | .table fields => .table <| fields ++ [
          ("dry_run", .bool dryRun), ("changed_files", .list (changed.map .text))]
        | value => value
      { code, json := some value, files }
    else
      let printed := if quiet then [] else printReport setting report changed dryRun verbose
      let cut := (Printed.lines printed).2
      if cut then { crashed .markup files with printed }
      else
        let warned := dryRun && !changed.isEmpty
        { code, printed, files
          messages := if warned then ["Warning: Dry run: no files were written"] else [] }

/-- Fixes the units of a manifest. -/
def runFix (setting : Setting) (path : Option String) (spoken : SpokenConfig)
    (dryRun json verbose quiet : Bool) : Except CommandOutcome CommandOutcome := do
  let manifest ← loadManifest setting path
  let config ← loadConfig setting manifest spoken
  let session : Session Unit := { workspace := manifest.workspace, memory := () }
  match (engineOf setting manifest config).remediate none session with
  | .ok report session =>
    return reportOutcome setting report session.workspace dryRun json verbose quiet
  | .error (.workspace fault) _ => throw (stop setting fault.message)
  | .error fault _ => throw (crashed (.run fault) setting.files)

/-- What was found in a unit: its name, the errors that keep it from building, and what there is to
fix. -/
structure Finding where
  unit : String
  errors : List Diagnostic
  diagnostics : List Diagnostic
  deriving Repr, DecidableEq

namespace Finding

def toValue (finding : Finding) : Value :=
  .table [
    ("unit", .text finding.unit),
    ("compiler_errors", .list (finding.errors.map fun d => .text d.text)),
    ("diagnostics", .list (finding.diagnostics.map fun d => .table [
      ("id", .text d.id), ("severity", .text d.severity.label),
      ("location", .text d.location.text), ("message", .text d.message)]))]

def printed (finding : Finding) : List Printed :=
  .markup (styled "bold" finding.unit) ::
    finding.errors.map (fun d => .markup ("  " ++ styled "red" "error" ++ " " ++ d.text)) ++
    finding.diagnostics.map (fun d =>
      .markup ("  " ++ styled "cyan" d.id ++ " " ++ d.location.text ++ " " ++ d.message)) ++
    if finding.errors.isEmpty && finding.diagnostics.isEmpty then
      [.markup ("  " ++ styled "green" "clean")]
    else []

end Finding

/-- Diagnoses all units of a workspace in order. -/
def findings (engine : Engine Unit) : Run Unit (List Finding) := do
  let order ← Engine.unitOrder none
  order.mapM fun unitId => do
    let (errors, diagnostics) ← engine.diagnose unitId
    let unit ← Run.snapshot unitId
    return { unit := unit.displayName, errors, diagnostics }

/-- Lists what there is to fix in the units of a manifest. -/
def runAnalyze (setting : Setting) (path : Option String) (spoken : SpokenConfig) (json : Bool) :
    Except CommandOutcome CommandOutcome := do
  let manifest ← loadManifest setting path
  let config ← loadConfig setting manifest spoken
  let session : Session Unit := { workspace := manifest.workspace, memory := () }
  match findings (engineOf setting manifest config) session with
  | .error (.workspace fault) _ => throw (stop setting fault.message)
  | .error fault _ => throw (crashed (.run fault) setting.files)
  | .ok found _ =>
    let total : Nat :=
      found.foldl (fun total f => total + f.errors.length + f.diagnostics.length) 0
    let code := if total = 0 then 0 else 1
    if json then
      let value := Value.table [
        ("total", .int total), ("units", .list (found.map Finding.toValue))]
      return { code, json := some value, files := setting.files }
    let last := Printed.markup ("\nFound " ++ toString total ++ " diagnostic(s). Run " ++
      styled "bold" "codefix fix" ++ " to apply fixes")
    let printed := found.flatMap Finding.printed ++ if total = 0 then [] else [last]
    if (Printed.lines printed).2 then return { crashed .markup setting.files with printed }
    return { code, printed, files := setting.files }

def analyzerValue (analyzer : Analyzer Unit) : Value :=
  .table [
    ("name", .text analyzer.displayName), ("class", .text analyzer.fullName),
    ("diagnostics", .list (analyzer.descriptors.map fun d =>
      .table [("id", .text d.id), ("title", .text d.title)])),
    ("languages", .list ((idSet analyzer.languages).map .text))]

def fixerValue (fixer : Fixer Unit) : Value :=
  .table [
    ("name", .text fixer.displayName), ("class", .text fixer.fullName),
    ("fixable_ids", .list ((idSet fixer.fixableIds).map .text)),
    ("fix_all", .bool fixer.supportsFixAll)]

def analyzerRow (analyzer : Analyzer Unit) : List String :=
  let diagnostics := analyzer.descriptors.map fun d => d.id ++ " " ++ d.title
  [analyzer.displayName, "\n".intercalate diagnostics, listed (idSet analyzer.languages) "all"]

def fixerRow (fixer : Fixer Unit) : List String :=
  [fixer.displayName, ", ".intercalate (idSet fixer.fixableIds),
    if fixer.supportsFixAll then "yes" else "no"]

/-- Lists the plugins that a manifest loads. -/
def runList (setting : Setting) (path : Option String) (json : Bool) :
    Except CommandOutcome CommandOutcome := do
  let registry := (← loadManifest setting path).registry
  let ids := registry.fixableIds
  if json then
    let value := Value.table [
      ("analyzers", .list (registry.analyzers.map analyzerValue)),
      ("fixers", .list (registry.fixers.map fixerValue)),
      ("fixable_ids", .list (ids.map .text))]
    return { json := some value, files := setting.files }
  let printed := [
    .table "Analyzers" ["Name", "Diagnostics", "Languages"] (registry.analyzers.map analyzerRow),
    .table "Fixers" ["Name", "Fixable ids", "Fix all"] (registry.fixers.map fixerRow),
    .markup ("\n" ++ toString ids.length ++ " fixable diagnostic id(s): " ++ listed ids "none")]
  return { printed, files := setting.files }

/-- Runs a command. -/
def run (setting : Setting) (command : Command) : CommandOutcome :=
  let outcome : Except CommandOutcome CommandOutcome := match command with
    | version => .ok { printed := [.plain versionText], files := setting.files }
    | fix path spoken dryRun json verbose quiet =>
      runFix setting path spoken dryRun json verbose quiet
    | analyze path spoken json => runAnalyze setting path spoken json
    | list path json => runList setting path json
  match outcome with
  | .ok outcome => outcome
  | .error outcome => outcome

/-- Runs the command that some arguments say; arguments that say none are an outcome too. -/
def runArguments (setting : Setting) (words : List String) : CommandOutcome :=
  match read words with
  | .ok command => run setting command
  | .error fault =>
    { code := 2, messages := ["Usage: codefix [OPTIONS] COMMAND [ARGS]...", fault.message]
      files := setting.files }

end Command

end FixLoop
