import FixLoop.Config.Sources

/-!
What a user says about the configuration on the command line. What is not said is left to the other
sources, and so is a flag that is not given and a list that is empty.
-/

namespace FixLoop

/-- What is said of each option; null where nothing is. -/
structure SpokenConfig where
  maxIterations : Value := .null
  batchSize : Value := .null
  minimumSeverity : Value := .null
  ignore : Value := .null
  ignoreCompiler : Value := .null
  ignoreCompilerErrors : Value := .null
  /-- Pairs of an identifier and a fixer. -/
  fixers : Value := .null
  /-- Pairs of an identifier and the key of an action. -/
  fixes : Value := .null
  banner : Value := .null
  format : Value := .null
  includeUnits : Value := .null
  excludeUnits : Value := .null
  deriving Repr

inductive SpokenFault where
  | notAPair (option pair : String)
  /-- A value that holds no pairs at all. -/
  | noPairs (kind : String)
  /-- A pair that is no text. -/
  | notAText (kind : String)
  | load (fault : LoadFault)
  deriving Repr, DecidableEq

def SpokenFault.message : SpokenFault → String
  | notAPair option pair => option ++ " expects ID=VALUE, got '" ++ pair ++ "'"
  | noPairs kind => "'" ++ kind ++ "' object is not iterable"
  | notAText kind => "'" ++ kind ++ "' object has no attribute 'partition'"
  | load fault => "Invalid configuration: " ++ fault.message

namespace SpokenConfig

/-- A pair whose key and value are not blank. -/
def readPair (option pair : String) : Except SpokenFault (String × String) :=
  match Text.cut '=' pair.toList with
  | none => .error (.notAPair option pair)
  | some (key, value) =>
    let key := Text.trim key
    let value := Text.trim value
    if key.isEmpty || value.isEmpty then .error (.notAPair option pair)
    else .ok (String.ofList key, String.ofList value)

/-- The pairs that a value holds: the items of a list, the names of a table, or the characters of
a text. -/
def pairsOf : Value → Except SpokenFault (List Value)
  | .list items => .ok items
  | .table fields => .ok (fields.map fun (name, _) => .text name)
  | .text s => .ok (s.toList.map fun c => .text (String.ofList [c]))
  | other => .error (.noPairs other.kind)

/-- The map that repeated pairs make, of which the last with a key counts; none without pairs. -/
def readPairs (option : String) (value : Value) :
    Except SpokenFault (Option (List (String × String))) := do
  if !value.isTruthy then return none
  let pairs ← (← pairsOf value).mapM fun
    | .text pair => readPair option pair
    | other => .error (.notAText other.kind)
  return some (pairs.foldl (fun map (key, value) => putField key value map) [])

/-- A value if it counts as yes. -/
def orNothing (value : Value) : Value := if value.isTruthy then value else .null

def mapValue : Option (List (String × String)) → Value
  | none => .null
  | some map => .table (map.map fun (key, value) => (key, .text value))

/-- What was said, as options. -/
def options (spoken : SpokenConfig) : Except SpokenFault Options := do
  let fixers ← readPairs "--fixer" spoken.fixers
  let fixes ← readPairs "--fix" spoken.fixes
  return [
    ("max_iterations", spoken.maxIterations),
    ("batch_size", spoken.batchSize),
    ("minimum_severity", spoken.minimumSeverity),
    ("ignored_diagnostic_ids", orNothing spoken.ignore),
    ("ignored_compiler_diagnostic_ids", orNothing spoken.ignoreCompiler),
    ("ignore_compiler_errors", orNothing spoken.ignoreCompilerErrors),
    ("fixer_overrides", mapValue fixers),
    ("fix_action_overrides", mapValue fixes),
    ("file_banner_lines", orNothing spoken.banner),
    ("format", orNothing spoken.format),
    ("include_units", orNothing spoken.includeUnits),
    ("exclude_units", orNothing spoken.excludeUnits)]

/-- The configuration for a folder, with what was said above all. -/
def load (formats : FileFormats) (tree : FileTree) (start : Path)
    (environment : List (String × String)) (spoken : SpokenConfig) :
    Except SpokenFault Config := do
  let options ← spoken.options
  (Config.load formats tree start environment options).mapError .load

end SpokenConfig

end FixLoop
