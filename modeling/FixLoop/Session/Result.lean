import FixLoop.Session.Outcome

/-!
Results of units and of whole runs.
-/

namespace FixLoop

/-- How the work on a unit ended, as reports name it. -/
inductive UnitKind where
  | success
  | noAnalyzers
  | noFixers
  | compilerError
  | oscillation
  | skipped
  deriving Repr, DecidableEq

namespace UnitKind

def all : List UnitKind := [success, noAnalyzers, noFixers, compilerError, oscillation, skipped]

def label : UnitKind → String
  | success => "success"
  | noAnalyzers => "no_analyzers"
  | noFixers => "no_fixers"
  | compilerError => "compiler_error"
  | oscillation => "oscillation"
  | skipped => "skipped"

end UnitKind

/-- An identifier that was left unfixed, and why. -/
structure Skipped where
  id : String
  reason : FixStatus
  detail : String := ""
  deriving Repr, DecidableEq

structure UnitResult where
  unitId : String
  unitName : String
  kind : UnitKind
  /-- The identifiers for which a fix was applied. -/
  fixedIds : List String := []
  skipped : List Skipped := []
  analyzers : List String := []
  fixers : List String := []
  /-- The rounds in which fixes were attempted. -/
  iterations : Nat := 0
  limitReached : Bool := false
  compilerErrors : List Diagnostic := []
  deriving Repr, DecidableEq

/-- What came of a run. -/
structure RunReport where
  results : List UnitResult := []
  fixedDiagnostics : List Descriptor := []
  cancelled : Bool := false
  /-- Whether a unit that does not build ended the run. -/
  aborted : Bool := false
  deriving Repr, DecidableEq

namespace RunReport

def isSuccess (report : RunReport) : Bool :=
  !report.cancelled &&
    report.results.all fun result => result.kind ≠ .compilerError && result.kind ≠ .oscillation

/-- The first result of a unit. -/
def result? (report : RunReport) (unitId : String) : Option UnitResult :=
  report.results.find? (·.unitId == unitId)

end RunReport

end FixLoop
