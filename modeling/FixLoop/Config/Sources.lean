import FixLoop.Config
import FixLoop.FileTree
import FixLoop.Text.Digit

/-!
Where a configuration comes from: the project file, a file of its own, environment variables, and
what the caller says, each overruling those before it. A setting of null says nothing.
-/

namespace FixLoop

/-- How the files of a project are read: settings in TOML, manifests in YAML. -/
structure FileFormats where
  toml? : Text → Option Value
  yaml? : Text → Option Value

inductive LoadFault where
  | undecodable (fault : Utf8.Fault)
  /-- A section of the project file that is no table. -/
  | notATable (name : String)
  | notAnInteger (variableName value : String)
  | config (fault : ConfigFault)
  /-- The search for a file cannot go on. -/
  | path (fault : PathFault)
  deriving Repr, DecidableEq

def LoadFault.message : LoadFault → String
  | undecodable fault => fault.message
  | notATable name => "section '" ++ name ++ "' is not a table"
  | notAnInteger name value => name ++ " must be an integer, got '" ++ value ++ "'"
  | config fault => fault.message
  | path fault => fault.message ""

/-- Whether a fault lies in a value that can be read but not be used, and so is reported as an
invalid configuration. What has no readable form at all is not foreseen. -/
def LoadFault.isReported : LoadFault → Bool
  | undecodable _ => true
  | notATable _ => false
  | notAnInteger _ _ => true
  | config (.unknownOption _) => false
  | config (.severity .noName) => false
  | config _ => true
  | path fault => fault == .nullCharacter

namespace Config

/-- The name of an option, whose words may be joined by dashes. -/
def optionName (key : String) : String :=
  String.ofList (key.toList.map fun c => if c = '-' then '_' else c)

/-- The options among the fields of a table; of two spellings of one name the later counts. -/
def knownOptions (fields : Options) : Options :=
  (fields.foldl (fun options (key, value) => putField (optionName key) value options) []).filter
    fun (name, _) => name ∈ optionNames

/-- Sources in one; each overrules those before it where it is not null. -/
def merged (sources : List Options) : Options :=
  sources.foldl
    (fun result source =>
      source.foldl
        (fun result (name, value) => if value.isNull then result else putField name value result)
        result)
    []

/-- The name of the configuration file. -/
def fileName : String := ".codefixrc"

def projectFileName : String := "pyproject.toml"

/-- The value of the first file of a name from a folder outwards; none without such a file and if
it cannot be parsed. -/
def findTable (formats : FileFormats) (tree : FileTree) (name : String) (start : Path) :
    Except LoadFault (Option Value) := do
  match ← (tree.findUpwards name start).mapError .path with
  | none => return none
  | some path =>
    match tree.read path with
    | .error _ => return none
    | .ok bytes =>
      match Utf8.decode bytes with
      | .error fault => throw (.undecodable fault)
      | .ok text => return formats.toml? text

/-- A section of a table, empty if it is missing. -/
def subsection (name : String) : Value → Except LoadFault Value
  | .table fields => .ok ((fields.lookup name).getD (.table []))
  | _ => .error (.notATable name)

def tableFields (name : String) : Value → Except LoadFault Options
  | .table fields => .ok fields
  | _ => .error (.notATable name)

/-- The options in the project file. -/
def fromProject (formats : FileFormats) (tree : FileTree) (start : Path) :
    Except LoadFault Options := do
  match ← findTable formats tree projectFileName start with
  | none => return []
  | some value =>
    let tool ← subsection "tool" value
    let settings ← subsection "codefix" tool
    return knownOptions (← tableFields "codefix" settings)

/-- The options in the configuration file. -/
def fromFile (formats : FileFormats) (tree : FileTree) (start : Path) :
    Except LoadFault Options := do
  match ← findTable formats tree fileName start with
  | none => return []
  | some value => return knownOptions (← tableFields fileName value)

/-- How the text of an environment variable is read. -/
inductive VariableKind where
  | integer
  | flag
  | text
  deriving Repr, DecidableEq

/-- The environment variables, each with its option. -/
def optionVariables : List (String × String × VariableKind) := [
  ("CODEFIX_MAX_ITERATIONS", "max_iterations", .integer),
  ("CODEFIX_BATCH_SIZE", "batch_size", .integer),
  ("CODEFIX_MINIMUM_SEVERITY", "minimum_severity", .text),
  ("CODEFIX_IGNORED_DIAGNOSTIC_IDS", "ignored_diagnostic_ids", .text),
  ("CODEFIX_IGNORED_COMPILER_DIAGNOSTIC_IDS", "ignored_compiler_diagnostic_ids", .text),
  ("CODEFIX_IGNORE_COMPILER_ERRORS", "ignore_compiler_errors", .flag),
  ("CODEFIX_FORMAT", "format", .flag)]

/-- Whether the text of a flag says yes, in ASCII letters of any case. -/
def saysYes (text : String) : Bool :=
  String.ofList ((Text.trim text.toList).map Char.toLower) ∈ ["1", "true", "yes", "on"]

def readVariable (name text : String) : VariableKind → Except LoadFault Value
  | .integer => (Text.integer? text.toList).elim (.error (.notAnInteger name text)) (.ok ∘ .int)
  | .flag => .ok (.bool (saysYes text))
  | .text => .ok (.text text)

/-- The options in the environment. -/
def fromEnvironment (environment : List (String × String)) : Except LoadFault Options :=
  (optionVariables.filterMap fun (name, option, kind) =>
    (environment.lookup name).map fun text => (name, option, kind, text)).mapM
      fun (name, option, kind, text) => do return (option, ← readVariable name text kind)

/-- The configuration for a folder, with what the caller says above all. -/
def load (formats : FileFormats) (tree : FileTree) (start : Path)
    (environment : List (String × String)) (spoken : Options) : Except LoadFault Config := do
  let project ← fromProject formats tree start
  let file ← fromFile formats tree start
  let environment ← fromEnvironment environment
  (ofOptions (merged [project, file, environment, knownOptions spoken])).mapError .config

end Config

end FixLoop
