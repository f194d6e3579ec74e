import FixLoop.Plugin.Callback

/-!
Sessions: a workspace and what a run over it needs and leaves behind. Steps of a run keep the
session when they fail, so that edits which landed stay landed.
-/

namespace FixLoop

/-- Why a run, or a part of one, ended early. -/
inductive Fault where
  | cancelled
  | plugin (failure : Failure)
  | ambiguous (ambiguity : Ambiguity)
  | workspace (fault : WorkspaceFault)
  /-- More passes were needed than the engine makes. -/
  | unfinished
  deriving Repr, DecidableEq

def Fault.message : Fault → String
  | cancelled => Cancellation.notice
  | plugin failure => failure.message
  | ambiguous ambiguity => ambiguity.message
  | workspace fault => fault.message
  | unfinished => "the passes over an identifier did not come to an end"

/-- `memory` belongs to the plugins, `known` holds what they declared, and `journal` holds what
happened, the newest event first. -/
structure Session (σ : Type) where
  workspace : Workspace
  cancellation : Cancellation := .pending
  memory : σ
  known : List (String × Descriptor) := []
  journal : List Event := []

/-- A step of a run. -/
abbrev Run (σ : Type) := EStateM Fault (Session σ)

namespace Callback

variable {σ α : Type}

/-- Carries a callback out: its answer, or its failure, and the session then. -/
def carryOut : Callback σ α → Session σ → Except Failure α × Session σ
  | answer value, session => (.ok value, session)
  | fail failure, session => (.error failure, session)
  | look ask, session => (ask session.workspace).carryOut session
  | retrieve ask, session => (ask session.memory).carryOut session
  | remember memory rest, session => rest.carryOut { session with memory }
  | edit unitId version edits ask, session =>
    match session.workspace.tryEdit unitId version edits with
    | .error _ => (.error (.unknownUnit unitId), session)
    | .ok (landed, workspace) =>
      (ask landed).carryOut { session with
        workspace
        journal := .edited .plugin unitId version edits landed :: session.journal }
  | cancel rest, session =>
    match session.cancellation.request? with
    | none => (.error .cannotCancel, session)
    | some cancellation =>
      rest.carryOut { session with
        cancellation
        journal := .cancelRequested :: session.journal }
  | defer count id rest, session =>
    rest.carryOut { session with journal := .deferred count id :: session.journal }

end Callback

namespace Run

variable {σ α : Type}

def note (event : Event) : Run σ Unit :=
  modify fun session => { session with journal := event :: session.journal }

/-- Calls a plugin, whose failure ends the run. -/
def call (callback : Callback σ α) : Run σ α := fun session =>
  match callback.carryOut session with
  | (.ok value, session) => .ok value session
  | (.error failure, session) => .error (.plugin failure) session

/-- Calls a plugin, whose failure is an answer too. -/
def attempt (callback : Callback σ α) : Run σ (Except Failure α) := fun session =>
  let (answer, session) := callback.carryOut session
  .ok answer session

def checkCancelled : Run σ Unit := fun session =>
  if session.cancellation.isRequested then .error .cancelled session else .ok () session

def isCancelled : Run σ Bool := fun session => .ok session.cancellation.isRequested session

/-- The latest snapshot of a unit. -/
def snapshot (unitId : String) : Run σ SourceUnit := fun session =>
  match session.workspace.snapshot unitId with
  | .ok unit => .ok unit session
  | .error fault => .error (.workspace fault) session

/-- Offers the workspace edits computed against a snapshot, and says whether they landed. -/
def offer (unit : SourceUnit) (edits : List TextEdit) : Run σ Bool := fun session =>
  match session.workspace.tryEdit unit.id unit.version edits with
  | .error fault => .error (.workspace fault) session
  | .ok (landed, workspace) =>
    .ok landed { session with
      workspace
      journal := .edited .session unit.id unit.version edits landed :: session.journal }

/-- Remembers a declared descriptor, unless one with its identifier is known. -/
def learn (descriptor : Descriptor) : Run σ Unit :=
  modify fun session =>
    if session.known.any (·.1 == descriptor.id) then session
    else { session with known := session.known ++ [(descriptor.id, descriptor)] }

/-- Turns cancellation into an answer. -/
def orCancelled (step : Run σ α) : Run σ (Option α) := fun session =>
  match step session with
  | .ok value session => .ok (some value) session
  | .error .cancelled session => .ok none session
  | .error fault session => .error fault session

end Run

end FixLoop
