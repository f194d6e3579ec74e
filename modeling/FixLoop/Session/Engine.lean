import FixLoop.Config
import FixLoop.Plugin.Catalog
import FixLoop.Session.Basic

/-!
Engines: the plugins and the configuration of a run, and how they compile and analyze a snapshot.
Analyzers may complete in any order; what they report is collected in registration order, and an
analyzer that fails has reported nothing.
-/

namespace FixLoop

structure Engine (σ : Type) where
  analyzers : List (Analyzer σ)
  fixers : List (Fixer σ)
  compiler : Compiler σ
  formatter : Formatter σ
  config : Config
  /-- How many passes over one identifier are made before a run is given up. -/
  passLimit : Nat

namespace Engine

open Run

variable {σ : Type}

/-- How many build errors are listed and reported. -/
def listedErrors : Nat := 10

/-- The diagnostics of the compiler for a snapshot, in report order. -/
def compile (engine : Engine σ) (unit : SourceUnit) : Run σ (List Diagnostic) := do
  note (.compiled unit)
  return Diagnostic.sorted (← call (engine.compiler.compile unit))

/-- What one analyzer reports. -/
def runAnalyzer (unit : SourceUnit) (analyzer : Analyzer σ) : Run σ (List Diagnostic) := do
  note (.analyzed analyzer.fullName unit)
  match ← attempt (analyzer.analyze unit) with
  | .ok diagnostics => return diagnostics
  | .error failure =>
    note (.analyzerFailed analyzer.fullName unit.displayName failure.message)
    return []

/-- What analyzers report together: the first report of every finding, in report order. -/
def collected (batches : List (List Diagnostic)) : List Diagnostic :=
  Diagnostic.sorted (Diagnostic.distinct batches.flatten)

/-- Runs analyzers one after another. -/
def analyze (unit : SourceUnit) (analyzers : List (Analyzer σ)) : Run σ (List Diagnostic) := do
  return collected (← analyzers.mapM (runAnalyzer unit))

/-- The reports of analyzers that run in the given order, each with its place in the registration
order. -/
def runCompleting (unit : SourceUnit) (analyzers : List (Analyzer σ)) :
    List Nat → Run σ (List (Nat × List Diagnostic))
  | [] => return []
  | place :: rest =>
    match analyzers[place]? with
    | none => runCompleting unit analyzers rest
    | some analyzer => do
      let diagnostics ← runAnalyzer unit analyzer
      return (place, diagnostics) :: (← runCompleting unit analyzers rest)

/-- Runs analyzers at once; `completion` lists their places in the order in which they complete. -/
def analyzeCompleting (unit : SourceUnit) (analyzers : List (Analyzer σ)) (completion : List Nat) :
    Run σ (List Diagnostic) := do
  let reports ← runCompleting unit analyzers completion
  return collected <|
    (List.range analyzers.length).map fun place => (reports.lookup place).getD []

/-- The errors among the diagnostics of the compiler that count. -/
def buildErrors (config : Config) (diagnostics : List Diagnostic) : List Diagnostic :=
  diagnostics.filter fun d => d.severity == .error && !config.ignoresCompilerId d.id

/-- The errors that keep a unit from being fixed. All are logged, also if none is to count. -/
def verifyBuild (engine : Engine σ) (diagnostics : List Diagnostic) :
    Run σ (List Diagnostic) := do
  let errors := buildErrors engine.config diagnostics
  let listed := errors.take listedErrors
  listed.forM fun diagnostic => note (.buildError diagnostic)
  if listedErrors < errors.length then
    note (.moreBuildErrors (errors.length - listedErrors))
  return if engine.config.ignoreCompilerErrors.isTruthy then [] else listed

/-- Whether a run acts on a diagnostic that analyzers reported. -/
def isFixable (config : Config) (catalog : Catalog σ) (diagnostic : Diagnostic) : Bool :=
  config.isSupported diagnostic && catalog.hasAnalyzer diagnostic.id &&
    catalog.hasFixer diagnostic.id

/-- Whether a run acts on a diagnostic of the compiler. -/
def isFixableWarning (config : Config) (catalog : Catalog σ) (diagnostic : Diagnostic) : Bool :=
  diagnostic.severity != .error && config.minimumSeverity ≤ diagnostic.severity &&
    !config.ignoresCompilerId diagnostic.id && catalog.hasFixer diagnostic.id

/-- What describes a diagnostic that no plugin declared. -/
def describe (diagnostic : Diagnostic) : Descriptor where
  id := diagnostic.id
  title := if diagnostic.title = "" then diagnostic.id else diagnostic.title
  severity := diagnostic.severity

/-- All diagnostics of a snapshot that a run acts on. -/
def fixable (engine : Engine σ) (unit : SourceUnit) (catalog : Catalog σ)
    (compilerDiagnostics : List Diagnostic) : Run σ (List Diagnostic) := do
  let reported ← analyze unit catalog.analyzers
  let diagnostics := reported.filter (isFixable engine.config catalog) ++
    compilerDiagnostics.filter (isFixableWarning engine.config catalog)
  (diagnostics.filter (·.isCompiler)).forM fun diagnostic => learn (describe diagnostic)
  return diagnostics

/-- The plugins for a unit. -/
def catalog (engine : Engine σ) (unit : SourceUnit) : Catalog σ :=
  Catalog.ofUnit unit engine.analyzers engine.fixers

/-- What a run would see in a unit: the errors that keep it from building or, if there are none,
the diagnostics to fix. -/
def diagnose (engine : Engine σ) (unitId : String) :
    Run σ (List Diagnostic × List Diagnostic) := do
  let unit ← snapshot unitId
  let compilerDiagnostics ← engine.compile unit
  let errors ← engine.verifyBuild compilerDiagnostics
  if errors.isEmpty then
    return ([], ← engine.fixable unit (engine.catalog unit) compilerDiagnostics)
  else return (errors, [])

end Engine

end FixLoop
