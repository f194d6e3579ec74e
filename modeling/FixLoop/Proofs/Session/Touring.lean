import FixLoop.Proofs.Session.Steps
import FixLoop.Session.Remediation

/-!
The course of a whole run. Units are visited in order until one is left that does not build, or
cancellation is noticed; each stop of the tour is a unit that was worked on.
-/

namespace FixLoop

/-- A unit that a run worked on: what came of fixing it, and the sessions before and after. -/
structure Stop (σ : Type) where
  unitId : String
  result : UnitResult
  before : Session σ
  after : Session σ

/-- Takes in the result of a unit. -/
def RunState.add (state : RunState) (result : UnitResult) : RunState :=
  { state with results := state.results ++ [result] }

/-- What is reported of the units that were visited. -/
def RunState.report (state : RunState) (known : List (String × Descriptor)) : RunReport where
  results := state.results
  fixedDiagnostics :=
    (idSet (state.results.flatMap (·.fixedIds))).map (Engine.describeFixed known)
  cancelled := state.cancelled
  aborted := state.aborted

/-- A session in which work on a unit has started. -/
def Session.started {σ : Type} (session : Session σ) (unit : SourceUnit) (position total : Nat) :
    Session σ :=
  { session with journal := .unitStarted unit.displayName position total :: session.journal }

namespace Engine

open Run

variable {σ : Type}

/-- The session in which a run starts with its first unit. -/
def begun (engine : Engine σ) (session : Session σ) : Session σ :=
  { session with
    journal := ((idSet engine.config.ignoredCompilerIds).map .ignoringCompiler).reverse ++
      (((idSet engine.config.ignoredIds).map .ignoring).reverse ++ session.journal) }

/-- How fixing units in order can go. -/
inductive Tour (engine : Engine σ) (total : Nat) :
    Nat → List String → RunState → Session σ → List (Stop σ) → RunState → Session σ → Prop where
  | done {position : Nat} {state : RunState} {session : Session σ} :
    Tour engine total position [] state session [] state session
  | cancelled {position : Nat} {unitId : String} {rest : List String} {state : RunState}
      {session : Session σ} (requested : session.cancellation.isRequested = true) :
    Tour engine total position (unitId :: rest) state session []
      { state with cancelled := true } session
  | skipped {position : Nat} {unitId : String} {rest : List String} {state final : RunState}
      {session last : Session σ} {stops : List (Stop σ)} {unit : SourceUnit}
      (running : session.cancellation.isRequested = false)
      (found : session.workspace.snapshot? unitId = some unit)
      (refused : engine.config.admitsUnit unit.displayName = false)
      (later : Tour engine total (position + 1) rest
        (state.add { unitId := unit.id, unitName := unit.displayName, kind := .skipped })
        { session with
          journal := .unitSkipped unit.displayName position total :: session.journal }
        stops final last) :
    Tour engine total position (unitId :: rest) state session stops final last
  | interrupted {position : Nat} {unitId : String} {rest : List String} {state : RunState}
      {session after : Session σ} {unit : SourceUnit} {result : UnitResult}
      (running : session.cancellation.isRequested = false)
      (found : session.workspace.snapshot? unitId = some unit)
      (admitted : engine.config.admitsUnit unit.displayName = true)
      (fixed : engine.fixUnit unitId (session.started unit position total) = .ok result after)
      (requested : after.cancellation.isRequested = true) :
    Tour engine total position (unitId :: rest) state session
      [⟨unitId, result, session.started unit position total, after⟩]
      { state.add result with cancelled := true } after
  | aborted {position : Nat} {unitId : String} {rest : List String} {state : RunState}
      {session after : Session σ} {unit : SourceUnit} {result : UnitResult}
      (running : session.cancellation.isRequested = false)
      (found : session.workspace.snapshot? unitId = some unit)
      (admitted : engine.config.admitsUnit unit.displayName = true)
      (fixed : engine.fixUnit unitId (session.started unit position total) = .ok result after)
      (still : after.cancellation.isRequested = false)
      (broken : result.kind = .compilerError) :
    Tour engine total position (unitId :: rest) state session
      [⟨unitId, result, session.started unit position total, after⟩]
      { state.add result with aborted := true } after
  | next {position : Nat} {unitId : String} {rest : List String} {state final : RunState}
      {session after finished last : Session σ} {stops : List (Stop σ)} {unit : SourceUnit}
      {result : UnitResult}
      (running : session.cancellation.isRequested = false)
      (found : session.workspace.snapshot? unitId = some unit)
      (admitted : engine.config.admitsUnit unit.displayName = true)
      (fixed : engine.fixUnit unitId (session.started unit position total) = .ok result after)
      (still : after.cancellation.isRequested = false)
      (builds : result.kind ≠ .compilerError)
      (finishing : engine.finishUnit unitId after = .ok () finished)
      (later : Tour engine total (position + 1) rest (state.add result)
        { finished with journal := .unitDone unit.displayName :: finished.journal } stops final
          last) :
    Tour engine total position (unitId :: rest) state session
      (⟨unitId, result, session.started unit position total, after⟩ :: stops) final last

variable {engine : Engine σ} {total position : Nat} {order : List String}
  {state final : RunState} {session last : Session σ} {stops : List (Stop σ)}

theorem tour_of_ok
    (ran : engine.fixUnits total position order state session = .ok final last) :
    ∃ stops, engine.Tour total position order state session stops final last := by
  induction order generalizing position state session with
  | nil =>
    obtain ⟨rfl, rfl⟩ := pure_eq_ok.mp ran
    exact ⟨[], .done⟩
  | cons unitId rest ih =>
    obtain ⟨_, _, asked, ran⟩ := bind_eq_ok.mp ran
    cases asked
    split at ran
    · rename_i requested
      obtain ⟨rfl, rfl⟩ := pure_eq_ok.mp ran
      exact ⟨[], .cancelled requested⟩
    rename_i running
    have running : session.cancellation.isRequested = false := by simpa using running
    obtain ⟨unit, _, fetched, ran⟩ := bind_eq_ok.mp ran
    obtain ⟨found, rfl⟩ := snapshot_eq_ok.mp fetched
    split at ran
    · rename_i admitted
      obtain ⟨_, _, noted, ran⟩ := bind_eq_ok.mp ran
      cases noted
      obtain ⟨result, after, fixed, ran⟩ := bind_eq_ok.mp ran
      change engine.fixUnit unitId (session.started unit position total) = _ at fixed
      obtain ⟨_, _, asked, ran⟩ := bind_eq_ok.mp ran
      cases asked
      split at ran
      · rename_i requested
        obtain ⟨rfl, rfl⟩ := pure_eq_ok.mp ran
        exact ⟨_, .interrupted running found admitted fixed requested⟩
      rename_i still
      have still : after.cancellation.isRequested = false := by simpa using still
      split at ran
      · rename_i broken
        obtain ⟨rfl, rfl⟩ := pure_eq_ok.mp ran
        exact ⟨_, .aborted running found admitted fixed still broken⟩
      · rename_i builds
        obtain ⟨_, finished, finishing, ran⟩ := bind_eq_ok.mp ran
        obtain ⟨_, _, noted, ran⟩ := bind_eq_ok.mp ran
        cases noted
        obtain ⟨stops, later⟩ := ih ran
        exact ⟨_, .next running found admitted fixed still builds finishing later⟩
    · rename_i refused
      obtain ⟨_, _, noted, ran⟩ := bind_eq_ok.mp ran
      cases noted
      obtain ⟨stops, later⟩ := ih ran
      exact ⟨stops, .skipped running found (by simpa using refused) later⟩

/-- How a run goes on when its next unit was fixed. -/
theorem fixUnits_of_fixed {unitId : String} {rest : List String} {unit : SourceUnit}
    {result : UnitResult} {after : Session σ} (running : session.cancellation.isRequested = false)
    (found : session.workspace.snapshot? unitId = some unit)
    (admitted : engine.config.admitsUnit unit.displayName = true)
    (fixed : engine.fixUnit unitId (session.started unit position total) = .ok result after) :
    engine.fixUnits total position (unitId :: rest) state session =
      if after.cancellation.isRequested then .ok { state.add result with cancelled := true } after
      else if result.kind = .compilerError then
        .ok { state.add result with aborted := true } after
      else (do
        engine.finishUnit unitId
        note (.unitDone unit.displayName)
        engine.fixUnits total (position + 1) rest (state.add result)) after := by
  rw [fixUnits, bind_of_ok (isCancelled_apply session), running, if_neg Bool.false_ne_true,
    bind_of_ok (snapshot_eq_ok.mpr ⟨found, rfl⟩), if_pos admitted]
  refine (bind_of_ok (note_apply _ _)).trans ((bind_of_ok fixed).trans ?_)
  dsimp only
  rw [bind_of_ok (isCancelled_apply after)]
  split
  · rfl
  · split <;> rfl

/-- Whatever a tour says, the run does. -/
theorem Tour.fixUnits_eq (tour : engine.Tour total position order state session stops final last) :
    engine.fixUnits total position order state session = .ok final last := by
  induction tour with
  | done => rfl
  | cancelled requested =>
    rw [fixUnits, bind_of_ok (isCancelled_apply _), if_pos requested]
    rfl
  | skipped running found refused later ih =>
    rw [fixUnits, bind_of_ok (isCancelled_apply _), running, if_neg Bool.false_ne_true,
      bind_of_ok (snapshot_eq_ok.mpr ⟨found, rfl⟩), refused, if_neg Bool.false_ne_true]
    exact ih
  | interrupted running found admitted fixed requested =>
    rw [fixUnits_of_fixed running found admitted fixed, if_pos requested]
  | aborted running found admitted fixed still broken =>
    rw [fixUnits_of_fixed running found admitted fixed, still, if_neg Bool.false_ne_true,
      if_pos broken]
  | next running found admitted fixed still builds finishing later ih =>
    rw [fixUnits_of_fixed running found admitted fixed, still, if_neg Bool.false_ne_true,
      if_neg builds]
    exact (bind_of_ok finishing).trans ih

/-- Each stop is a unit that was fixed. -/
theorem Tour.fixed (tour : engine.Tour total position order state session stops final last) :
    ∀ stop ∈ stops, engine.fixUnit stop.unitId stop.before = .ok stop.result stop.after := by
  induction tour with
  | done => exact fun _ member => absurd member List.not_mem_nil
  | cancelled requested => exact fun _ member => absurd member List.not_mem_nil
  | skipped running found refused later ih => exact ih
  | interrupted running found admitted fixed requested =>
    intro stop member
    obtain rfl := List.mem_singleton.mp member
    exact fixed
  | aborted running found admitted fixed still broken =>
    intro stop member
    obtain rfl := List.mem_singleton.mp member
    exact fixed
  | next running found admitted fixed still builds finishing later ih =>
    intro stop member
    rcases List.mem_cons.mp member with rfl | member
    · exact fixed
    · exact ih stop member

/-- The first unit of a tour is a stop if it is admitted and nobody asked the run to stop. -/
theorem Tour.mem_first {unitId : String} {rest : List String} {unit : SourceUnit}
    {result : UnitResult} {after : Session σ}
    (tour : engine.Tour total position (unitId :: rest) state session stops final last)
    (running : session.cancellation.isRequested = false)
    (found : session.workspace.snapshot? unitId = some unit)
    (admitted : engine.config.admitsUnit unit.displayName = true)
    (fixed : engine.fixUnit unitId (session.started unit position total) = .ok result after) :
    ⟨unitId, result, session.started unit position total, after⟩ ∈ stops := by
  have same {other : SourceUnit} (there : session.workspace.snapshot? unitId = some other) :
      other = unit := Option.some.inj (there.symm.trans found)
  cases tour with
  | cancelled requested =>
    rw [running] at requested
    cases requested
  | skipped _ there refused =>
    rw [same there, admitted] at refused
    cases refused
  | interrupted _ there _ ran =>
    obtain rfl := same there
    cases fixed.symm.trans ran
    exact List.mem_singleton_self _
  | aborted _ there _ ran =>
    obtain rfl := same there
    cases fixed.symm.trans ran
    exact List.mem_singleton_self _
  | next _ there _ ran =>
    obtain rfl := same there
    cases fixed.symm.trans ran
    exact List.mem_cons_self

/-- A tour in which cancellation was requested while a unit was fixed ends there. -/
theorem Tour.of_requested (tour : engine.Tour total position order state session stops final last)
    {stop : Stop σ} (member : stop ∈ stops)
    (requested : stop.after.cancellation.isRequested = true) :
    last = stop.after ∧ final.cancelled = true ∧ final.aborted = state.aborted ∧
      final.results.getLast? = some stop.result := by
  induction tour with
  | done => cases member
  | cancelled asked => cases member
  | skipped running found refused later ih => exact ih member
  | interrupted running found admitted fixed asked =>
    obtain rfl := List.mem_singleton.mp member
    exact ⟨rfl, rfl, rfl, by simp [RunState.add]⟩
  | aborted running found admitted fixed still broken =>
    obtain rfl := List.mem_singleton.mp member
    rw [still] at requested
    cases requested
  | next running found admitted fixed still builds finishing later ih =>
    rcases List.mem_cons.mp member with rfl | member
    · rw [still] at requested
      cases requested
    · exact ih member

/-- A whole run is a tour over the units in their order. -/
theorem remediate_of_ok {requested : Option (List String)} {report : RunReport}
    (ran : engine.remediate requested session = .ok report last) :
    ∃ order stops final finished, session.workspace.order requested = .ok order ∧
      engine.Tour order.length 1 order {} (engine.begun session) stops final finished ∧
      report.results = final.results ∧ report.cancelled = final.cancelled ∧
      report.aborted = final.aborted ∧ last = { finished with
        journal := .runDone final.results.length :: finished.journal } := by
  obtain ⟨order, _, ordered, ran⟩ := bind_eq_ok.mp ran
  obtain ⟨_, _, noted, ran⟩ := bind_eq_ok.mp ran
  cases (forM_note ..).symm.trans noted
  obtain ⟨_, _, noted, ran⟩ := bind_eq_ok.mp ran
  cases (forM_note ..).symm.trans noted
  obtain ⟨final, finished, fixed, ran⟩ := bind_eq_ok.mp ran
  obtain ⟨_, _, noted, ran⟩ := bind_eq_ok.mp ran
  cases noted
  obtain ⟨_, _, read, ran⟩ := bind_eq_ok.mp ran
  cases read
  obtain ⟨rfl, rfl⟩ := pure_eq_ok.mp ran
  obtain ⟨stops, tour⟩ := tour_of_ok fixed
  unfold unitOrder at ordered
  split at ordered
  · rename_i ids found
    cases ordered
    exact ⟨order, stops, final, finished, found, tour, rfl, rfl, rfl, rfl⟩
  · cases ordered

theorem remediate_of_tour {requested : Option (List String)}
    (ordered : session.workspace.order requested = .ok order)
    (tour : engine.Tour order.length 1 order {} (engine.begun session) stops final last) :
    engine.remediate requested session =
      .ok (final.report last.known) { last with
        journal := .runDone final.results.length :: last.journal } := by
  have placed : unitOrder requested session = .ok order session := by rw [unitOrder, ordered]
  refine (bind_of_ok placed).trans ((bind_of_ok (forM_note ..)).trans ?_)
  exact (bind_of_ok (forM_note ..)).trans ((bind_of_ok tour.fixUnits_eq).trans rfl)

end Engine

end FixLoop
