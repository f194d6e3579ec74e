import FixLoop.Formatting
import FixLoop.Rules.Builtin
import FixLoop.Rules.Compilers

/-!
Import paths, by which manifests name plugins: a module and a name in it, separated by a colon or
else by the last dot. The modules are those that provide the built-in plugins and what belongs to
them.
-/

namespace FixLoop

/-- What an import path can lead to. -/
inductive Imported (σ : Type) where
  | analyzer (analyzer : Analyzer σ)
  | fixer (fixer : Fixer σ)
  | compiler (compiler : Compiler σ)
  | formatter (formatter : Formatter σ)
  /-- A type that only stands for all compilers, or all formatters. -/
  | abstractCompiler (fullName : String)
  | abstractFormatter (fullName : String)
  /-- Any other type. -/
  | type (fullName : String)
  /-- Anything that is no type, by its kind. -/
  | value (kind : String)

inductive ImportFault where
  | badPath (path : String)
  /-- A module that is named relative to nothing. -/
  | relative
  /-- A missing module, and the module it would be a part of if that has no parts. -/
  | noModule (module missing : String) (undivided : Option String)
  | noName (module name : String)
  deriving Repr, DecidableEq

def ImportFault.message : ImportFault → String
  | badPath path => "Invalid import path '" ++ path ++ "' (expected 'module:Class')"
  | relative => "the 'package' argument is required to perform a relative import"
  | noModule module missing undivided =>
    "Cannot import module '" ++ module ++ "': No module named " ++ quoted missing ++
      undivided.elim "" fun other => "; " ++ quoted other ++ " is not a package"
  | noName module name => "Module '" ++ module ++ "' has no attribute '" ++ name ++ "'"

namespace Imported

/-- The modules and the types that each defines. -/
def definedTypes : List (String × List String) := [
  ("codefix.analyzers.base", ["BaseAnalyzer", "BaseCompiler"]),
  ("codefix.analyzers.compiler", ["PythonCompiler", "BracketBalanceCompiler", "DefaultCompiler"]),
  ("codefix.analyzers.formatting", [
    "EmbeddedStatementAnalyzer", "TrailingWhitespaceAnalyzer", "FinalNewlineAnalyzer",
    "TabIndentationAnalyzer"]),
  ("codefix.analyzers.runner", ["DiagnosticSource"]),
  ("codefix.cancellation", ["OperationCancelledError", "CancellationToken"]),
  ("codefix.fixers.actions", ["FixAction", "FixAllContext"]),
  ("codefix.fixers.applier", ["ApplyStatus", "BatchApplier"]),
  ("codefix.fixers.base", ["BaseFixProvider"]),
  ("codefix.fixers.formatting", [
    "BlankLineAfterEmbeddedStatementFixer", "TrailingWhitespaceFixer", "FinalNewlineFixer",
    "TabIndentationFixer"]),
  ("codefix.fixers.registry", ["FixerRegistry", "FixCatalog"]),
  ("codefix.fixers.resolver", ["ConflictResolver"]),
  ("codefix.formatter", ["BaseFormatter", "WhitespaceFormatter"]),
  ("codefix.config", ["CodeFixerConfig"]),
  ("codefix.manifest", ["Manifest"]),
  ("codefix.orchestrator", ["CodeFixer"]),
  ("codefix.results", [
    "UnitFixKind", "DiagnosticFixStatus", "DiagnosticOutcome", "SkippedDiagnostic", "UnitFixResult",
    "RunReport"]),
  ("codefix.diagnostics", [
    "Severity", "DiagnosticOrigin", "DiagnosticDescriptor", "Location", "Diagnostic"]),
  ("codefix.errors", [
    "CodeFixError", "ManifestError", "UnknownUnitError", "CyclicDependencyError",
    "AmbiguousFixError"]),
  ("codefix.workspace", ["Document", "TextEdit", "Unit", "Workspace"]),
  ("abc", ["ABC"]),
  ("collections", ["Counter"]),
  ("collections.abc", ["Iterable", "Iterator", "Mapping", "Sequence"]),
  ("enum", ["Enum", "IntEnum"]),
  ("pathlib", ["Path"]),
  ("typing", ["Any"])]

/-- The modules and the types of other modules that each provides too. -/
def providedTypes : List (String × List String) := [
  ("codefix", []),
  ("codefix.analyzers", [
    "BaseAnalyzer", "BaseCompiler", "BracketBalanceCompiler", "DefaultCompiler", "PythonCompiler",
    "EmbeddedStatementAnalyzer", "FinalNewlineAnalyzer", "TabIndentationAnalyzer",
    "TrailingWhitespaceAnalyzer", "DiagnosticSource"]),
  ("codefix.analyzers.base", ["ABC", "Diagnostic", "DiagnosticDescriptor", "Unit"]),
  ("codefix.analyzers.compiler", [
    "BaseCompiler", "Diagnostic", "DiagnosticDescriptor", "DiagnosticOrigin", "Location",
    "Severity", "Document", "Unit"]),
  ("codefix.analyzers.formatting", [
    "BaseAnalyzer", "Diagnostic", "DiagnosticDescriptor", "Location", "Severity", "Document",
    "Unit"]),
  ("codefix.fixers", [
    "FixAction", "FixAllContext", "ApplyStatus", "BatchApplier", "BaseFixProvider",
    "BlankLineAfterEmbeddedStatementFixer", "FinalNewlineFixer", "TabIndentationFixer",
    "TrailingWhitespaceFixer", "FixCatalog", "FixerRegistry", "ConflictResolver"]),
  ("codefix.fixers.base", [
    "ABC", "Iterator", "Diagnostic", "FixAction", "FixAllContext", "Unit"]),
  ("codefix.fixers.formatting", [
    "Iterator", "Diagnostic", "FixAction", "BaseFixProvider", "TextEdit", "Unit"]),
  ("codefix.formatter", ["ABC", "Document", "TextEdit", "Unit"]),
  ("codefix.banner", ["Sequence", "Document", "TextEdit", "Unit"]),
  ("codefix.config", ["Iterable", "Mapping", "Path", "Any", "Diagnostic", "Severity"]),
  ("codefix.diagnostics", ["Counter", "Iterable", "Sequence", "Enum", "IntEnum"]),
  ("codefix.workspace", [
    "Iterable", "Sequence", "Path", "CyclicDependencyError", "UnknownUnitError"])]

/-- What every module holds about itself, by its kind. -/
def ownValues : List (String × String) := [
  ("__name__", "str"), ("__doc__", "str"), ("__file__", "str"), ("__package__", "str"),
  ("__cached__", "str"), ("__builtins__", "dict"), ("__spec__", "ModuleSpec"),
  ("__loader__", "SourceFileLoader"), ("annotations", "_Feature")]

/-- The modules with what they provide that is no type, by its kind. -/
def providedValues : List (String × String × List String) := [
  ("codefix", "str", ["__version__"]),
  ("codefix", "list", ["__path__"]),
  ("codefix.analyzers", "list", ["__all__", "__path__"]),
  ("codefix.analyzers.base", "function", ["abstractmethod"]),
  ("codefix.analyzers.base", "_SpecialForm", ["ClassVar"]),
  ("codefix.analyzers.compiler", "DiagnosticDescriptor", ["SYNTAX_ERROR", "SYNTAX_WARNING"]),
  ("codefix.analyzers.compiler", "dict", ["_OPENERS", "_CLOSERS"]),
  ("codefix.analyzers.compiler", "function", ["location_from_line"]),
  ("codefix.analyzers.compiler", "module", ["warnings"]),
  ("codefix.analyzers.formatting", "DiagnosticDescriptor", [
    "ADD_BLANK_LINE_AFTER_EMBEDDED_STATEMENT", "REMOVE_TRAILING_WHITESPACE", "ADD_FINAL_NEWLINE",
    "USE_SPACES_FOR_INDENTATION"]),
  ("codefix.analyzers.formatting", "frozenset", ["BRACE_LANGUAGES"]),
  ("codefix.analyzers.formatting", "Pattern", [
    "_HEADER", "_TRAILING_WHITESPACE", "_LEADING_WHITESPACE"]),
  ("codefix.analyzers.formatting", "function", [
    "mask_literals", "line_indentation", "_matching_paren", "_statement_end",
    "_skip_whitespace"]),
  ("codefix.analyzers.formatting", "module", ["re"]),
  ("codefix.analyzers.runner", "function", ["sort_diagnostics"]),
  ("codefix.analyzers.runner", "Logger", ["logger"]),
  ("codefix.analyzers.runner", "module", ["concurrent", "logging"]),
  ("codefix.fixers", "function", ["batch_fix_all", "get_global_registry"]),
  ("codefix.fixers", "list", ["__all__", "__path__"]),
  ("codefix.fixers.actions", "function", ["dataclass", "field"]),
  ("codefix.fixers.actions", "bool", ["TYPE_CHECKING"]),
  ("codefix.fixers.applier", "function", ["batch_fix_all"]),
  ("codefix.fixers.applier", "bool", ["TYPE_CHECKING"]),
  ("codefix.fixers.applier", "Logger", ["logger"]),
  ("codefix.fixers.applier", "module", ["logging"]),
  ("codefix.fixers.base", "function", ["abstractmethod", "batch_fix_all"]),
  ("codefix.fixers.base", "_SpecialForm", ["ClassVar"]),
  ("codefix.fixers.formatting", "DiagnosticDescriptor", [
    "ADD_BLANK_LINE_AFTER_EMBEDDED_STATEMENT", "REMOVE_TRAILING_WHITESPACE", "ADD_FINAL_NEWLINE",
    "USE_SPACES_FOR_INDENTATION"]),
  ("codefix.fixers.formatting", "frozenset", ["BRACE_LANGUAGES"]),
  ("codefix.fixers.formatting", "function", ["line_indentation"]),
  ("codefix.fixers.formatting", "int", ["TAB_SIZE"]),
  ("codefix.fixers.registry", "function", [
    "dataclass", "field", "get_global_registry", "_create_default_registry"]),
  ("codefix.fixers.resolver", "Logger", ["logger"]),
  ("codefix.fixers.resolver", "module", ["logging"]),
  ("codefix.formatter", "function", ["abstractmethod", "is_generated", "format_edits"]),
  ("codefix.formatter", "_SpecialForm", ["ClassVar"]),
  ("codefix.banner", "function", [
    "comment_prefix", "is_generated", "render_banner", "banner_edits"]),
  ("codefix.banner", "frozenset", ["HASH_COMMENT_LANGUAGES"]),
  ("codefix.banner", "tuple", ["GENERATED_PATTERNS", "GENERATED_MARKERS"]),
  ("codefix.banner", "module", ["fnmatch"]),
  ("codefix.config", "function", [
    "dataclass", "field", "fields", "_as_list", "_as_mapping", "_get_config_field_names",
    "find_config_file", "_load_toml_file", "_normalize_keys", "_load_from_codefixrc",
    "_load_from_pyproject", "_load_from_env", "_merge_configs", "load_config"]),
  ("codefix.config", "int", ["DEFAULT_MAX_ITERATIONS"]),
  ("codefix.config", "dict", ["_ENV_MAPPING"]),
  ("codefix.config", "set", ["_INT_FIELDS", "_BOOL_FIELDS"]),
  ("codefix.config", "module", ["fnmatch", "os", "sys", "tomllib"]),
  ("codefix.diagnostics", "function", [
    "dataclass", "field", "sort_diagnostics", "same_diagnostics"]),
  ("codefix.workspace", "function", ["dataclass", "field", "replace", "apply_text_edits"]),
  ("codefix.workspace", "module", ["threading"])]

/-- What a module provides that is no type. -/
def valueKind? (module name : String) : Option String :=
  let provided := providedValues.find? fun (other, _, names) => other = module && name ∈ names
  (provided.map fun (_, kind, _) => kind) <|> ownValues.lookup name

def modules : List String := definedTypes.map (·.1) ++ providedTypes.map (·.1)

/-- Whether other modules are parts of a module. -/
def hasParts (module : String) : Bool :=
  modules.any fun other => (module ++ ".").toList.isPrefixOf other.toList

/-- The module that defines a type. -/
def homeOf? (type : String) : Option String :=
  (definedTypes.find? fun (_, types) => type ∈ types).map (·.1)

variable {σ : Type}

/-- An analyzer that reports nothing, which stands for all analyzers. -/
def abstractAnalyzer : Analyzer σ where
  type := "BaseAnalyzer"
  package := "codefix.analyzers.base"
  descriptors := []
  analyze _ := .answer []

/-- A fixer that fixes nothing, which stands for all fixers. -/
def abstractFixer : Fixer σ where
  type := "BaseFixProvider"
  package := "codefix.fixers.base"
  fixableIds := []
  offers _ _ := []
  fixAll _ := .answer none

/-- The compilers that can be imported; Python documents compile as given. -/
def compilers (outcomes : Compilers.Outcomes) : List (Compiler σ) :=
  [Compilers.python outcomes, Compilers.brackets, Compilers.byLanguage outcomes]

def analyzers : List (Analyzer σ) := Builtin.analyzers ++ [abstractAnalyzer]

def fixers : List (Fixer σ) := Builtin.fixers ++ [abstractFixer]

def formatters : List (Formatter σ) := [Formatting.whitespace]

/-- The plugin types, by their full names. -/
def pluginTypes (outcomes : Compilers.Outcomes) : List (String × Imported σ) :=
  (analyzers.map fun (a : Analyzer σ) => (a.fullName, analyzer a)) ++
    (fixers.map fun (f : Fixer σ) => (f.fullName, fixer f)) ++
    ((compilers outcomes).map fun (c : Compiler σ) => (c.fullName, compiler c)) ++
    (formatters.map fun (f : Formatter σ) => (f.fullName, formatter f)) ++ [
    ("codefix.analyzers.base.BaseCompiler",
      abstractCompiler "codefix.analyzers.base.BaseCompiler"),
    ("codefix.formatter.BaseFormatter", abstractFormatter "codefix.formatter.BaseFormatter")]

/-- What a name stands for in a module. -/
def find? (outcomes : Compilers.Outcomes) (module name : String) : Option (Imported σ) :=
  let types := (definedTypes.lookup module).getD [] ++ (providedTypes.lookup module).getD []
  if name ∈ types then
    (homeOf? name).map fun home =>
      let fullName := home ++ "." ++ name
      ((pluginTypes outcomes).lookup fullName).getD (type fullName)
  else if module ++ "." ++ name ∈ modules then some (value "module")
  else (valueKind? module name).map value

/-- The modules on the way to a module, the outermost first. -/
def enclosing (module : String) : List String :=
  let parts := (module.toList.splitOn '.').map String.ofList
  (List.range parts.length).map fun count => ".".intercalate (parts.take (count + 1))

/-- The fault of a module that is not there. -/
def missing? (module : String) : Option ImportFault :=
  let way := enclosing module
  (way.zip (none :: way.map some)).find? (·.1 ∉ modules) |>.map fun (missing, above) =>
    .noModule module missing (above.filter fun other => !hasParts other)

/-- The module and the name of an import path. -/
def splitPath (path : String) : Except ImportFault (String × String) :=
  let parts := match Text.cut ':' path.toList with
    | some parts => some parts
    | none => Text.cutLast '.' path.toList
  match parts with
  | none => .error (.badPath path)
  | some (module, name) =>
    if module.isEmpty || name.isEmpty then .error (.badPath path)
    else .ok (String.ofList module, String.ofList name)

/-- What an import path leads to. -/
def ofPath (outcomes : Compilers.Outcomes) (path : String) : Except ImportFault (Imported σ) := do
  let (module, name) ← splitPath path
  if module.toList.head? = some '.' then throw .relative
  match missing? module with
  | some fault => throw fault
  | none =>
    match find? outcomes module name with
    | some found => return found
    | none => throw (.noName module name)

/-- How an imported object is described: a type by its full name, anything else by its kind. -/
def text : Imported σ → String
  | analyzer a => a.fullName
  | fixer f => f.fullName
  | compiler c => c.fullName
  | formatter f => f.fullName
  | abstractCompiler fullName => fullName
  | abstractFormatter fullName => fullName
  | type fullName => fullName
  | value kind => "<" ++ kind ++ ">"

end Imported

end FixLoop
