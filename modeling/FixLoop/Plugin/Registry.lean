import FixLoop.Plugin.Catalog
import FixLoop.Rules.Builtin

/-!
Registries: the analyzers and fixers at hand, in the order of their registration, each under a name
of its own.
-/

namespace FixLoop

structure Registry (σ : Type) where
  analyzers : List (Analyzer σ) := []
  fixers : List (Fixer σ) := []

inductive RegistryFault where
  | noDiagnostics (type : String)
  | analyzerExists (name type : String)
  | noFixableIds (type : String)
  | fixerExists (name type : String)
  deriving Repr, DecidableEq

def RegistryFault.message : RegistryFault → String
  | noDiagnostics type => "Analyzer class " ++ type ++ " declares no diagnostics"
  | analyzerExists name type => "Analyzer '" ++ name ++ "' already registered: " ++ type
  | noFixableIds type => "Fixer class " ++ type ++ " has no fixable_ids defined"
  | fixerExists name type => "Fixer '" ++ name ++ "' already registered: " ++ type

namespace Registry

variable {σ : Type}

def addAnalyzer (registry : Registry σ) (analyzer : Analyzer σ) :
    Except RegistryFault (Registry σ) :=
  let name := analyzer.displayName
  if analyzer.descriptors.isEmpty then .error (.noDiagnostics analyzer.type)
  else
    match registry.analyzers.find? (·.displayName == name) with
    | some other => .error (.analyzerExists name other.type)
    | none => .ok { registry with analyzers := registry.analyzers ++ [analyzer] }

def addFixer (registry : Registry σ) (fixer : Fixer σ) : Except RegistryFault (Registry σ) :=
  let name := fixer.displayName
  if fixer.fixableIds.isEmpty then .error (.noFixableIds fixer.type)
  else
    match registry.fixers.find? (·.displayName == name) with
    | some other => .error (.fixerExists name other.type)
    | none => .ok { registry with fixers := registry.fixers ++ [fixer] }

/-- Every fixable identifier, in ascending order. -/
def fixableIds (registry : Registry σ) : List String :=
  idSet (registry.fixers.flatMap (·.fixableIds))

/-- The built-in plugins. -/
def builtin : Registry σ where
  analyzers := Builtin.analyzers
  fixers := Builtin.fixers

end Registry

end FixLoop
