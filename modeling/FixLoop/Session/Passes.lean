import FixLoop.Session.Engine
import FixLoop.Session.Outcome
import FixLoop.Session.Selection

/-!
Passes over one identifier. Each pass reads the latest snapshot again, fixes a batch by one action,
and offers its edits to the workspace. Without a batch size there is one pass; with one, passes go
on until it no longer binds. The first rejected edit set of all passes is computed again, the second
ends them.
-/

namespace FixLoop

/-- What became of an action that was offered to the workspace. -/
inductive ApplyStatus where
  | applied
  | noChanges
  | conflict
  deriving Repr, DecidableEq

def ApplyStatus.label : ApplyStatus → String
  | applied => "applied"
  | noChanges => "no_changes"
  | conflict => "conflict"

/-- What passes over an identifier carry from one to the next. -/
structure PassState where
  previous : List Diagnostic := []
  batches : Nat := 0
  retried : Bool := false
  deriving Repr, DecidableEq

/-- Whether a pass is followed by another. -/
inductive PassResult where
  | again (state : PassState)
  | done (outcome : FixOutcome)
  deriving Repr, DecidableEq

namespace Engine

open Run

variable {σ : Type}

/-- Offers the workspace the edits of an action, all of them or none. -/
def apply (unit : SourceUnit) (action : FixAction) : Run σ ApplyStatus := do
  if action.edits.isEmpty then return .noChanges
  if ← offer unit action.edits then
    note (.applied action.title action.edits.length unit.displayName)
    return .applied
  else
    note (.rejected action.title unit.displayName unit.version)
    return .conflict

/-- The diagnostics of one identifier that count, from its analyzers or else the compiler. -/
def occurrences (engine : Engine σ) (unit : SourceUnit) (catalog : Catalog σ) (id : String)
    (compilerDiagnostics : List Diagnostic) : Run σ (List Diagnostic) := do
  let analyzers := catalog.analyzersOf id
  let reported ← if analyzers.isEmpty then pure compilerDiagnostics else analyze unit analyzers
  return reported.filter fun d => d.id == id && engine.config.minimumSeverity ≤ d.severity

/-- Whether the batch size holds back some diagnostics. -/
def isLimited (batchSize : Nat) (diagnostics : List Diagnostic) : Bool :=
  0 < batchSize && batchSize < diagnostics.length

/-- The diagnostics that a pass fixes. -/
def batchOf (batchSize : Nat) (diagnostics : List Diagnostic) : List Diagnostic :=
  if isLimited batchSize diagnostics then diagnostics.take batchSize else diagnostics

/-- How a batch is described. -/
def batchTitle (batch : List Diagnostic) : String :=
  batch.head?.elim "" fun first => if first.title = "" then first.message else first.title

/-- Selects the action for a batch; an ambiguity is an answer too. -/
def selectFix (engine : Engine σ) (unit : SourceUnit) (catalog : Catalog σ) (id : String)
    (batch : List Diagnostic) : Run σ (Except Ambiguity (Option FixAction)) := fun session =>
  match Selection.select engine.config id batch (catalog.fixersOf id) unit session with
  | .ok action session => .ok (.ok action) session
  | .error (.ambiguous ambiguity) session => .ok (.error ambiguity) session
  | .error fault session => .error fault session

/-- Fixes the batch of a pass that has diagnostics to fix. -/
def fixBatch (engine : Engine σ) (unit : SourceUnit) (catalog : Catalog σ) (id : String)
    (diagnostics : List Diagnostic) (state : PassState) : Run σ PassResult := do
  let limited := isLimited engine.config.batchSize diagnostics
  let batch := batchOf engine.config.batchSize diagnostics
  note (.fixing batch.length id (batchTitle batch))
  batch.forM fun diagnostic => note (.listed diagnostic)
  match ← engine.selectFix unit catalog id batch with
  | .error ambiguity => return .done ⟨state.batches, .ambiguous ambiguity⟩
  | .ok none => return .done ⟨state.batches, .noAction⟩
  | .ok (some action) =>
    match ← apply unit action with
    | .noChanges => return .done ⟨state.batches, .emptyAction action.title⟩
    | .conflict =>
      if state.retried then return .done ⟨state.batches, .conflict⟩
      else return .again { previous := [], batches := state.batches, retried := true }
    | .applied =>
      note (.fixed id unit.id)
      let batches := state.batches + 1
      if limited then return .again { state with previous := diagnostics, batches }
      else return .done ⟨batches, .fixed⟩

/-- One pass over an identifier. -/
def pass (engine : Engine σ) (unitId : String) (catalog : Catalog σ) (id : String)
    (state : PassState) : Run σ PassResult := do
  checkCancelled
  let unit ← snapshot unitId
  let compilerDiagnostics ← engine.compile unit
  let errors ← engine.verifyBuild compilerDiagnostics
  if !errors.isEmpty then return .done ⟨state.batches, .buildFailed errors⟩
  let diagnostics ← engine.occurrences unit catalog id compilerDiagnostics
  if diagnostics.isEmpty then
    return .done ⟨state.batches, if state.batches = 0 then .nothingToFix else .fixed⟩
  if Diagnostic.sameFindings diagnostics state.previous then
    return .done ⟨state.batches, .stalled diagnostics.length⟩
  engine.fixBatch unit catalog id diagnostics state

/-- Passes over an identifier, at most so many. Before they are given up, cancellation is asked for
as it is before each pass. -/
def passes (engine : Engine σ) (unitId : String) (catalog : Catalog σ) (id : String) :
    Nat → PassState → Run σ FixOutcome
  | 0, _ => do
    checkCancelled
    throw .unfinished
  | limit + 1, state => do
    match ← engine.pass unitId catalog id state with
    | .done outcome => return outcome
    | .again state => engine.passes unitId catalog id limit state

/-- Fixes every occurrence of an identifier in a unit. -/
def fixDiagnostic (engine : Engine σ) (unitId : String) (catalog : Catalog σ) (id : String) :
    Run σ FixOutcome :=
  engine.passes unitId catalog id engine.passLimit {}

end Engine

end FixLoop
