import FixLoop.Banner
import FixLoop.Formatting
import FixLoop.Rules.Compilers
import FixLoop.Session.Rounds

/-!
Whole runs. Units are fixed with their dependencies first; a unit that was fixed gets its banner and
is formatted. A unit that does not build, and cancellation, end the run.
-/

namespace FixLoop

/-- How a run went on after its units were fixed. -/
structure RunState where
  results : List UnitResult := []
  cancelled : Bool := false
  aborted : Bool := false
  deriving Repr, DecidableEq

namespace Engine

open Run

variable {σ : Type}

/-- Adds the banner to the documents of a unit. -/
def addBanner (engine : Engine σ) (unitId : String) : Run σ Unit := do
  let unit ← snapshot unitId
  let edits := Banner.edits unit engine.config.bannerLines
  if edits.isEmpty then return
  edits.forM fun edit => note (.bannerAdded edit.path)
  if !(← offer unit edits) then note (.bannerRejected unit.displayName)

/-- Formats the documents of a unit. -/
def formatUnit (engine : Engine σ) (unitId : String) : Run σ Unit := do
  let unit ← snapshot unitId
  note (.formatting unit.displayName engine.formatter.displayName)
  let edits ← call (Formatting.edits engine.formatter unit)
  if edits.isEmpty then return
  edits.forM fun edit => note (.formatted edit.path)
  if !(← offer unit edits) then note (.formattingRejected unit.displayName)

/-- What is done to a unit after it was fixed. -/
def finishUnit (engine : Engine σ) (unitId : String) : Run σ Unit := do
  if !engine.config.bannerLines.isEmpty then engine.addBanner unitId
  if engine.config.format.isTruthy then engine.formatUnit unitId

/-- Fixes units in order; `position` is that of the next, of `total`. -/
def fixUnits (engine : Engine σ) (total : Nat) :
    Nat → List String → RunState → Run σ RunState
  | _, [], state => return state
  | position, unitId :: rest, state => do
    if ← isCancelled then return { state with cancelled := true }
    let unit ← snapshot unitId
    if engine.config.admitsUnit unit.displayName then
      note (.unitStarted unit.displayName position total)
      let result ← engine.fixUnit unitId
      let state := { state with results := state.results ++ [result] }
      if ← isCancelled then return { state with cancelled := true }
      if result.kind = .compilerError then return { state with aborted := true }
      engine.finishUnit unitId
      note (.unitDone unit.displayName)
      engine.fixUnits total (position + 1) rest state
    else
      note (.unitSkipped unit.displayName position total)
      let result : UnitResult :=
        { unitId := unit.id, unitName := unit.displayName, kind := .skipped }
      engine.fixUnits total (position + 1) rest
        { state with results := state.results ++ [result] }

/-- What describes an identifier that was fixed. -/
def describeFixed (known : List (String × Descriptor)) (id : String) : Descriptor :=
  let own := [Compilers.syntaxError, Compilers.syntaxWarning]
  match known.lookup id with
  | some descriptor => descriptor
  | none => (own.find? (·.id == id)).getD { id, title := id }

/-- The units of a run, in order. -/
def unitOrder (requested : Option (List String)) : Run σ (List String) := fun session =>
  match session.workspace.order requested with
  | .ok ids => .ok ids session
  | .error fault => .error (.workspace fault) session

/-- Fixes the requested units, by default all. -/
def remediate (engine : Engine σ) (requested : Option (List String)) : Run σ RunReport := do
  let order ← unitOrder requested
  (idSet engine.config.ignoredIds).forM fun id => note (.ignoring id)
  (idSet engine.config.ignoredCompilerIds).forM fun id => note (.ignoringCompiler id)
  let state ← engine.fixUnits order.length 1 order {}
  note (.runDone state.results.length)
  let known := (← get).known
  return {
    results := state.results
    fixedDiagnostics := (idSet (state.results.flatMap (·.fixedIds))).map (describeFixed known)
    cancelled := state.cancelled
    aborted := state.aborted }

end Engine

end FixLoop
