import FixLoop.Diagnostic
import FixLoop.Text.Wildcard

/-!
Configurations, and reading one from named options. Lists may be written with commas and maps as
`ID=VALUE` pairs. Options are looked at in a fixed order, and the first that cannot be read decides
the fault.
-/

namespace FixLoop

/--
How a run works. A batch size of zero sets no limit. Flags are kept as they were given, and are set
if that counts as yes.
-/
structure Config where
  maxIterations : Nat := 100
  maxIterations_pos : 0 < maxIterations := by decide
  batchSize : Nat := 0
  minimumSeverity : Severity := .info
  ignoredIds : List String := []
  ignoredCompilerIds : List String := []
  ignoreCompilerErrors : Value := .bool false
  /-- For an identifier, the only fixer that may fix it. -/
  fixerOverrides : List (String × String) := []
  /-- For an identifier, the key of the only action that may fix it. -/
  actionOverrides : List (String × String) := []
  bannerLines : List String := []
  includeUnits : List String := []
  excludeUnits : List String := []
  parallelAnalysis : Value := .bool true
  format : Value := .bool false
  deriving Repr

/-- What holds where no options are given. -/
instance : Inhabited Config := ⟨{}⟩

inductive ConfigFault where
  | unknownOption (name : String)
  | severity (fault : Severity.ReadFault)
  | notAList (kind : String)
  | notAPair (option pair : String)
  | notAnInteger (option : String)
  | noIterations
  | negativeBatch
  | emptyOverride
  deriving Repr, DecidableEq

def ConfigFault.message : ConfigFault → String
  | unknownOption name => "Unknown option: " ++ name
  | severity fault => fault.message
  | notAList kind => "Expected a list of strings, got " ++ kind
  | notAPair option pair => option ++ " entries must look like ID=VALUE, got '" ++ pair ++ "'"
  | notAnInteger option => option ++ " must be an integer"
  | noIterations => "max_iterations must be at least 1"
  | negativeBatch => "batch_size must be 0 (unlimited) or positive"
  | emptyOverride => "override keys and values must be non-empty strings"

/-- Values by option name. -/
abbrev Options := List (String × Value)

namespace Config

/-- The names of the options, in their order. -/
def optionNames : List String := [
  "max_iterations", "batch_size", "minimum_severity", "ignored_diagnostic_ids",
  "ignored_compiler_diagnostic_ids", "ignore_compiler_errors", "fixer_overrides",
  "fix_action_overrides", "file_banner_lines", "include_units", "exclude_units",
  "parallel_analysis", "format"]

/-- A list of texts: parts between commas, items as texts, or the names in a table. -/
def readList : Value → Except ConfigFault (List String)
  | .null => .ok []
  | .text s => .ok (commaParts s)
  | .list items => .ok (items.map Value.plain)
  | .table fields => .ok (fields.map (·.1))
  | value => .error (.notAList value.kind)

/-- A pair written with an equals sign. -/
def readPair (option pair : String) : Except ConfigFault (String × String) :=
  match Text.cut '=' pair.toList with
  | none => .error (.notAPair option pair)
  | some (key, value) => .ok (String.ofList (Text.trim key), String.ofList (Text.trim value))

/-- A map: a table, or a list of pairs of which the last with a key counts. -/
def readMap (option : String) : Value → Except ConfigFault (List (String × String))
  | .table fields => .ok (fields.map fun (key, value) => (key, value.plain))
  | value => do
    let pairs ← (← readList value).mapM (readPair option)
    return pairs.foldl (fun map (key, value) => putField key value map) []

/-- A whole number; yes and no are none. -/
def readInteger (option : String) : Value → Except ConfigFault Int
  | .int n => .ok n
  | _ => .error (.notAnInteger option)

/-- The entries that are checked for emptiness: of two with one key, only the action counts. -/
def checkedOverrides (fixers actions : List (String × String)) : List (String × String) :=
  fixers.filter (fun (key, _) => actions.all (·.1 != key)) ++ actions

def isSupported (config : Config) (diagnostic : Diagnostic) : Bool :=
  config.minimumSeverity ≤ diagnostic.severity && diagnostic.id ∉ config.ignoredIds

def ignoresCompilerId (config : Config) (id : String) : Bool := id ∈ config.ignoredCompilerIds

/-- Whether units of a name are fixed. -/
def admitsUnit (config : Config) (name : String) : Bool :=
  (config.includeUnits.isEmpty || config.includeUnits.any (fits · name)) &&
    !config.excludeUnits.any (fits · name)

/-- Reads a configuration from options; those not given have their defaults. -/
def ofOptions (options : Options) : Except ConfigFault Config := do
  if let some (name, _) := options.find? (·.1 ∉ optionNames) then
    throw (.unknownOption name)
  let given (name : String) (value : Value) : Value := (options.lookup name).getD value
  let list (name : String) := readList (given name .null)
  let map (name : String) := readMap name (given name .null)
  let minimumSeverity ← match Severity.read (given "minimum_severity" (.int 1)) with
    | .ok severity => pure severity
    | .error fault => throw (.severity fault)
  let ignoredIds ← list "ignored_diagnostic_ids"
  let ignoredCompilerIds ← list "ignored_compiler_diagnostic_ids"
  let fixerOverrides ← map "fixer_overrides"
  let actionOverrides ← map "fix_action_overrides"
  let bannerLines ← list "file_banner_lines"
  let includeUnits ← list "include_units"
  let excludeUnits ← list "exclude_units"
  let maxIterations ← readInteger "max_iterations" (given "max_iterations" (.int 100))
  if positive : 0 < maxIterations.toNat then
    let batchSize ← readInteger "batch_size" (given "batch_size" (.int 0))
    if batchSize < 0 then throw .negativeBatch
    if (checkedOverrides fixerOverrides actionOverrides).any
        (fun (key, value) => key = "" || value = "") then
      throw .emptyOverride
    return {
      maxIterations := maxIterations.toNat
      maxIterations_pos := positive
      batchSize := batchSize.toNat
      minimumSeverity
      ignoredIds
      ignoredCompilerIds
      ignoreCompilerErrors := given "ignore_compiler_errors" (.bool false)
      fixerOverrides
      actionOverrides
      bannerLines
      includeUnits
      excludeUnits
      parallelAnalysis := given "parallel_analysis" (.bool true)
      format := given "format" (.bool false) }
  else throw .noIterations

end Config

end FixLoop
