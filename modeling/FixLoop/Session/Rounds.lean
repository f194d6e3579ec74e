import FixLoop.Session.Passes
import FixLoop.Session.Result

/-!
Rounds over one unit. Each round compiles and analyzes the latest snapshot and fixes what it finds,
identifier by identifier in ascending order. They end when nothing is left to fix, when the unit
does not build, when the findings are those of one of the two rounds before, at the limit of rounds,
or on cancellation.
-/

namespace FixLoop

/-- What rounds over a unit carry from one to the next. -/
structure Progress where
  iterations : Nat := 0
  previous : List Diagnostic := []
  beforePrevious : List Diagnostic := []
  /-- The identifiers for which a fix was applied, in any order. -/
  fixedIds : List String := []
  skipped : List (String × Skipped) := []
  deriving Repr, DecidableEq

namespace Progress

/-- Takes in the outcome of an identifier. -/
def record (progress : Progress) (id : String) (outcome : FixOutcome) : Progress :=
  let status := outcome.ending.status
  { progress with
    fixedIds :=
      if outcome.batches = 0 ∨ id ∈ progress.fixedIds then progress.fixedIds
      else progress.fixedIds ++ [id]
    skipped :=
      if status.isSkipped then
        putField id ⟨id, status, outcome.ending.detail⟩ progress.skipped
      else progress.skipped.filter (·.1 ≠ id) }

end Progress

/-- How the rounds over a unit ended. -/
inductive UnitEnding where
  | converged
  | buildFailed (errors : List Diagnostic)
  | oscillated
  | limitReached
  | interrupted
  deriving Repr, DecidableEq

namespace UnitEnding

def kind : UnitEnding → UnitKind
  | buildFailed _ => .compilerError
  | oscillated => .oscillation
  | _ => .success

def errors : UnitEnding → List Diagnostic
  | buildFailed errors => errors
  | _ => []

end UnitEnding

/-- Whether a round is followed by another. -/
inductive RoundResult where
  | again (progress : Progress)
  | ended (progress : Progress) (ending : UnitEnding)
  deriving Repr, DecidableEq

namespace Engine

open Run

variable {σ : Type}

/-- Fixes the identifiers of a round one after another. -/
def fixIds (engine : Engine σ) (unitId : String) (catalog : Catalog σ) :
    List String → Progress → Run σ RoundResult
  | [], progress => return .again progress
  | id :: rest, progress => do
    if ← isCancelled then return .ended progress .interrupted
    match ← orCancelled (engine.fixDiagnostic unitId catalog id) with
    | none => return .ended progress .interrupted
    | some outcome =>
      let progress := progress.record id outcome
      match outcome.ending with
      | .buildFailed errors => return .ended progress (.buildFailed errors)
      | _ => engine.fixIds unitId catalog rest progress

/-- One round over a unit. -/
def round (engine : Engine σ) (unitId : String) (catalog : Catalog σ) (progress : Progress) :
    Run σ RoundResult := do
  if ← isCancelled then return .ended progress .interrupted
  let unit ← snapshot unitId
  note (.compiling unit.displayName progress.iterations)
  let compilerDiagnostics ← engine.compile unit
  let errors ← engine.verifyBuild compilerDiagnostics
  if !errors.isEmpty then return .ended progress (.buildFailed errors)
  note (.analyzing unit.displayName)
  let diagnostics ← engine.fixable unit catalog compilerDiagnostics
  if diagnostics.isEmpty then return .ended progress .converged
  if Diagnostic.sameFindings diagnostics progress.previous ||
      Diagnostic.sameFindings diagnostics progress.beforePrevious then
    note (.oscillating unit.displayName)
    diagnostics.forM fun diagnostic => note (.listed diagnostic)
    return .ended progress .oscillated
  let progress := { progress with iterations := progress.iterations + 1 }
  note (.found diagnostics.length unit.displayName)
  match ← engine.fixIds unitId catalog (idSet (diagnostics.map (·.id))) progress with
  | .ended progress ending => return .ended progress ending
  | .again progress =>
    return .again
      { progress with previous := diagnostics, beforePrevious := progress.previous }

/-- A round, and at most so many after it. -/
def rounds (engine : Engine σ) (unitId : String) (catalog : Catalog σ) :
    Nat → Progress → Run σ (Progress × UnitEnding)
  | 0, progress => do
    match ← engine.round unitId catalog progress with
    | .ended progress ending => return (progress, ending)
    | .again progress => return (progress, .limitReached)
  | more + 1, progress => do
    match ← engine.round unitId catalog progress with
    | .ended progress ending => return (progress, ending)
    | .again progress => engine.rounds unitId catalog more progress

/-- The result of rounds over a unit. -/
def unitResult (unit : SourceUnit) (catalog : Catalog σ) (progress : Progress)
    (ending : UnitEnding) : UnitResult where
  unitId := unit.id
  unitName := unit.displayName
  kind := ending.kind
  fixedIds := sortedIds progress.fixedIds
  skipped := (sortedIds (progress.skipped.map (·.1))).filterMap fun id => progress.skipped.lookup id
  analyzers := catalog.analyzers.map (·.displayName)
  fixers := catalog.fixers.map (·.displayName)
  iterations := progress.iterations
  limitReached := ending == .limitReached
  compilerErrors := ending.errors

/-- Logs how rounds ended where the rounds themselves did not. -/
def noteEnding (unit : SourceUnit) (progress : Progress) : UnitEnding → Run σ Unit
  | .limitReached => note (.limitReached progress.iterations unit.displayName)
  | .interrupted => note (.interrupted unit.displayName)
  | _ => return ()

/-- Fixes a unit, as far as it can be. -/
def fixUnit (engine : Engine σ) (unitId : String) : Run σ UnitResult := do
  let unit ← snapshot unitId
  let catalog := engine.catalog unit
  catalog.descriptors.forM learn
  if catalog.analyzers.isEmpty then
    note (.noAnalyzers unit.displayName)
    return { unitId := unit.id, unitName := unit.displayName, kind := .noAnalyzers }
  if catalog.fixers.isEmpty then
    note (.noFixers unit.displayName)
    return {
      unitId := unit.id, unitName := unit.displayName, kind := .noFixers
      analyzers := catalog.analyzers.map (·.displayName) }
  let (progress, ending) ← engine.rounds unitId catalog (engine.config.maxIterations - 1) {}
  noteEnding unit progress ending
  return unitResult unit catalog progress ending

end Engine

end FixLoop
