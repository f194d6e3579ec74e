import FixLoop.Proofs.Session.Course

/-!
The calls of a run that fix identifiers. A round calls for some of the identifiers that its survey
found, in ascending order: for all of them, or up to the one that ended the round. This is so
however the calls go, also when they fail.
-/

namespace FixLoop

/-- A round: the diagnostics that its survey found to fix, and the identifiers for which fixing was
called. -/
structure CallLog where
  diagnostics : List Diagnostic := []
  called : List String := []

/-- Whether what a survey found leaves nothing to call for. -/
def Progress.Settles (progress : Progress) (survey : Survey) : Prop :=
  survey.errors ≠ [] ∨ survey.diagnostics = [] ∨ progress.repeats survey.diagnostics = true

namespace Engine

open Run

variable {σ : Type}

/-- The calls that fix identifiers in turn, and the session in which they end. -/
inductive Calls (engine : Engine σ) (unitId : String) (catalog : Catalog σ) :
    List String → Session σ → List String → Session σ → Prop where
  | done {session : Session σ} : Calls engine unitId catalog [] session [] session
  | stopped {ids : List String} {session : Session σ}
      (requested : session.cancellation.isRequested = true) :
    Calls engine unitId catalog ids session [] session
  | last {id : String} {rest : List String} {session : Session σ}
      (running : session.cancellation.isRequested = false)
      (ends : ∀ outcome middle,
        engine.fixDiagnostic unitId catalog id session = .ok outcome middle →
          outcome.ending.status = .compilerError) :
    Calls engine unitId catalog (id :: rest) session [id]
      (final (engine.fixDiagnostic unitId catalog id session))
  | next {id : String} {rest called : List String} {session middle last : Session σ}
      {outcome : FixOutcome} (running : session.cancellation.isRequested = false)
      (fixed : engine.fixDiagnostic unitId catalog id session = .ok outcome middle)
      (builds : outcome.ending.status ≠ .compilerError)
      (later : Calls engine unitId catalog rest middle called last) :
    Calls engine unitId catalog (id :: rest) session (id :: called) last

/-- The calls of a round, and the session in which it ends. Only a survey that finds diagnostics,
and not those of one of the two rounds before, leads to any. -/
inductive RoundCalls (engine : Engine σ) (unitId : String) (catalog : Catalog σ)
    (progress : Progress) (session : Session σ) : CallLog → Session σ → Prop where
  | interrupted (requested : session.cancellation.isRequested = true) :
    RoundCalls engine unitId catalog progress session {} session
  | failed {fault : Fault} {last : Session σ}
      (running : session.cancellation.isRequested = false)
      (surveyed : engine.survey unitId catalog progress.iterations session = .error fault last) :
    RoundCalls engine unitId catalog progress session {} last
  | settled {survey : Survey} {middle : Session σ} {ending : UnitEnding} {last : Session σ}
      (running : session.cancellation.isRequested = false)
      (surveyed : engine.survey unitId catalog progress.iterations session = .ok survey middle)
      (settles : progress.Settles survey)
      (ended : engine.act unitId catalog progress survey middle =
        .ok (.ended progress ending) last) :
    RoundCalls engine unitId catalog progress session { diagnostics := survey.diagnostics } last
  | acted {survey : Survey} {middle last : Session σ} {called : List String}
      (running : session.cancellation.isRequested = false)
      (surveyed : engine.survey unitId catalog progress.iterations session = .ok survey middle)
      (unsettled : ¬progress.Settles survey)
      (calls : Calls engine unitId catalog (idSet (survey.diagnostics.map (·.id)))
        { middle with
          journal := .found survey.diagnostics.length survey.unit.displayName :: middle.journal }
        called last) :
    RoundCalls engine unitId catalog progress session
      { diagnostics := survey.diagnostics, called } last

/-- The calls of a round and of at most so many more, one after another. The last of them is the one
that ends the unit, or the last that there may be. -/
inductive RoundsCalls (engine : Engine σ) (unitId : String) (catalog : Catalog σ) :
    Nat → Progress → Session σ → List CallLog → Session σ → Prop where
  | last {more : Nat} {progress : Progress} {session last : Session σ} {log : CallLog}
      (calls : RoundCalls engine unitId catalog progress session log last)
      (ends : more = 0 ∨ ∀ next middle,
        engine.round unitId catalog progress session ≠ .ok (.again next) middle) :
    RoundsCalls engine unitId catalog more progress session [log] last
  | again {more : Nat} {progress next : Progress} {session middle last : Session σ} {log : CallLog}
      {logs : List CallLog}
      (ran : engine.round unitId catalog progress session = .ok (.again next) middle)
      (calls : RoundCalls engine unitId catalog progress session log middle)
      (later : RoundsCalls engine unitId catalog more next middle logs last) :
    RoundsCalls engine unitId catalog (more + 1) progress session (log :: logs) last

/-- The calls of fixing a unit, round by round, and the session in which it ends. There are none for
a unit that is missing, or for which there is nothing to ask. -/
inductive UnitCalls (engine : Engine σ) (unitId : String) (session : Session σ) :
    List CallLog → Session σ → Prop where
  | missing (absent : session.workspace.snapshot? unitId = none) :
    UnitCalls engine unitId session [] session
  | idle {unit : SourceUnit} {event : Event} {last : Session σ}
      (found : session.workspace.snapshot? unitId = some unit)
      (none : (engine.catalog unit).analyzers = [] ∨ (engine.catalog unit).fixers = [])
      (idle : engine.Idle unit session event last) :
    UnitCalls engine unitId session [] last
  | toured {unit : SourceUnit} {begun rounded last : Session σ} {logs : List CallLog}
      (found : session.workspace.snapshot? unitId = some unit)
      (learnt : (engine.catalog unit).descriptors.forM learn session = .ok () begun)
      (calls : RoundsCalls engine unitId (engine.catalog unit) (engine.config.maxIterations - 1) {}
        begun logs rounded)
      (closing : last = rounded ∨ ∃ progress ending,
        noteEnding unit progress ending rounded = .ok () last) :
    UnitCalls engine unitId session logs last

variable {engine : Engine σ} {unitId : String} {catalog : Catalog σ} {ids called : List String}
  {session last : Session σ} {progress : Progress} {more : Nat} {log : CallLog}
  {logs : List CallLog}

/-- No identifier is passed over. -/
theorem Calls.isPrefix (calls : engine.Calls unitId catalog ids session called last) :
    called <+: ids := by
  induction calls with
  | done => exact List.prefix_refl _
  | stopped requested => exact List.nil_prefix
  | last running ends => exact ⟨_, rfl⟩
  | next running fixed builds later ih => exact List.cons_prefix_cons.mpr ⟨rfl, ih⟩

/-- What a round calls for is what its survey found, in ascending order and each once. -/
theorem RoundCalls.ascending
    (calls : engine.RoundCalls unitId catalog progress session log last) :
    log.called.Pairwise (· < ·) ∧ ∀ id ∈ log.called, id ∈ log.diagnostics.map (·.id) := by
  cases calls with
  | acted running surveyed unsettled calls =>
    have first := calls.isPrefix
    exact ⟨(pairwise_idSet _).sublist first.sublist,
      fun id member => mem_idSet.mp (first.subset member)⟩
  | _ => exact ⟨.nil, nofun⟩

theorem RoundsCalls.ascending
    (calls : engine.RoundsCalls unitId catalog more progress session logs last) :
    ∀ log ∈ logs,
      log.called.Pairwise (· < ·) ∧ ∀ id ∈ log.called, id ∈ log.diagnostics.map (·.id) := by
  induction calls with
  | last calls ends => exact List.forall_mem_singleton.mpr calls.ascending
  | again ran calls later ih => exact List.forall_mem_cons.mpr ⟨calls.ascending, ih⟩

theorem RoundsCalls.length_le
    (calls : engine.RoundsCalls unitId catalog more progress session logs last) :
    logs.length ≤ more + 1 := by
  induction calls with
  | last calls ends => simp
  | again ran calls later ih => simpa using ih

theorem UnitCalls.ascending (calls : engine.UnitCalls unitId session logs last) :
    ∀ log ∈ logs,
      log.called.Pairwise (· < ·) ∧ ∀ id ∈ log.called, id ∈ log.diagnostics.map (·.id) := by
  cases calls with
  | toured found learnt calls closing => exact calls.ascending
  | _ => exact nofun

/-- Rounds over a unit are no more than the limit, however they end. -/
theorem UnitCalls.length_le (calls : engine.UnitCalls unitId session logs last) :
    logs.length ≤ engine.config.maxIterations := by
  cases calls with
  | toured found learnt calls closing =>
    have positive := engine.config.maxIterations_pos
    have bounded := calls.length_le
    omega
  | _ => exact Nat.zero_le _

/-- The session in which a step ends is not changed by what is made of its answer. -/
theorem final_bind_pure {α β : Type} (step : Run σ α) (change : α → β) (session : Session σ) :
    final ((step >>= fun answer => pure (change answer)) session) = final (step session) := by
  cases ran : step session with
  | ok answer last => rw [bind_of_ok ran]; rfl
  | error fault last => rw [bind_of_error ran]; rfl

theorem fixIds_calls (engine : Engine σ) (unitId : String) (catalog : Catalog σ)
    (ids : List String) (progress : Progress) (session : Session σ) :
    ∃ called, engine.Calls unitId catalog ids session called
      (final (engine.fixIds unitId catalog ids progress session)) := by
  induction ids generalizing progress session with
  | nil => exact ⟨[], .done⟩
  | cons id rest ih =>
    rw [fixIds, bind_of_ok (isCancelled_apply session)]
    by_cases requested : session.cancellation.isRequested = true
    · rw [if_pos requested]
      exact ⟨[], .stopped requested⟩
    rw [if_neg requested]
    have running := Bool.eq_false_iff.mpr requested
    cases fixed : engine.fixDiagnostic unitId catalog id session with
    | error fault after =>
      have ended : engine.Calls unitId catalog (id :: rest) session [id] after := by
        have call : engine.Calls unitId catalog (id :: rest) session [id] _ :=
          .last running fun outcome middle ended => by
            rw [fixed] at ended
            cases ended
        rwa [fixed] at call
      refine ⟨[id], final_bind (fun _ _ failed => ?_) fun _ _ answered => ?_⟩
      · rw [orCancelled, fixed] at failed
        cases fault <;> cases failed <;> exact ended
      · rw [orCancelled, fixed] at answered
        cases fault <;> cases answered
        exact ended
    | ok outcome middle =>
      have answered : orCancelled (engine.fixDiagnostic unitId catalog id) session =
        .ok (some outcome) middle := by rw [orCancelled, fixed]
      rw [bind_of_ok answered]
      dsimp only
      cases ending : outcome.ending with
      | buildFailed errors =>
        have call : engine.Calls unitId catalog (id :: rest) session [id] _ :=
          .last running fun other after ended => by
            rw [fixed] at ended
            cases ended
            rw [ending, FixEnding.status]
        rw [fixed, final_ok] at call
        exact ⟨[id], call⟩
      | _ =>
        obtain ⟨called, later⟩ := ih (progress.record id outcome) middle
        exact ⟨id :: called, .next running fixed (by simp [ending, FixEnding.status]) later⟩

/-- What a round does about a survey that calls for nothing is known at once. -/
theorem act_of_settles {survey : Survey} (settles : progress.Settles survey) :
    ∃ ending last, engine.act unitId catalog progress survey session =
      .ok (.ended progress ending) last := by
  unfold act
  split
  · exact ⟨_, _, rfl⟩
  · next builds =>
    split
    · exact ⟨_, _, rfl⟩
    · next found =>
      have repeated : progress.repeats survey.diagnostics = true := by
        rcases settles with blocked | empty | repeated
        · exact absurd (by simpa using builds) blocked
        · exact absurd (by simp [empty]) found
        · exact repeated
      rw [if_pos repeated, bind_of_ok (note_apply _ _), bind_of_ok (forM_note ..)]
      exact ⟨_, _, rfl⟩

theorem round_calls (engine : Engine σ) (unitId : String) (catalog : Catalog σ)
    (progress : Progress) (session : Session σ) :
    ∃ log, engine.RoundCalls unitId catalog progress session log
      (final (engine.round unitId catalog progress session)) := by
  rw [round_eq, bind_of_ok (isCancelled_apply session)]
  by_cases requested : session.cancellation.isRequested = true
  · rw [if_pos requested]
    exact ⟨_, .interrupted requested⟩
  rw [if_neg requested]
  have running := Bool.eq_false_iff.mpr requested
  cases surveyed : engine.survey unitId catalog progress.iterations session with
  | error fault last =>
    rw [bind_of_error surveyed]
    exact ⟨_, .failed running surveyed⟩
  | ok survey middle =>
    rw [bind_of_ok surveyed]
    by_cases settles : progress.Settles survey
    · obtain ⟨ending, last, ended⟩ := act_of_settles settles
      rw [ended]
      exact ⟨_, .settled running surveyed settles ended⟩
    · have calls := fixIds_calls engine unitId catalog (idSet (survey.diagnostics.map (·.id)))
        { progress with iterations := progress.iterations + 1 }
        { middle with
          journal := .found survey.diagnostics.length survey.unit.displayName :: middle.journal }
      obtain ⟨called, calls⟩ := calls
      have unsettled := settles
      rw [Progress.Settles, not_or, not_or, not_not] at unsettled
      obtain ⟨builds, found, fresh⟩ := unsettled
      rw [act, if_neg (by simpa using builds), if_neg (by simpa using found), if_neg fresh,
        bind_of_ok (note_apply _ _), final_bind_pure]
      exact ⟨_, .acted running surveyed settles calls⟩

theorem rounds_calls (engine : Engine σ) (unitId : String) (catalog : Catalog σ) (more : Nat)
    (progress : Progress) (session : Session σ) :
    ∃ logs, engine.RoundsCalls unitId catalog more progress session logs
      (final (engine.rounds unitId catalog more progress session)) := by
  induction more generalizing progress session with
  | zero =>
    obtain ⟨log, calls⟩ := engine.round_calls unitId catalog progress session
    refine ⟨[log], .last ?_ (.inl rfl)⟩
    refine final_bind (fun _ _ failed => ?_) fun result _ ran => ?_
    · rwa [failed] at calls
    · rw [ran] at calls
      cases result <;> exact calls
  | succ more ih =>
    obtain ⟨log, calls⟩ := engine.round_calls unitId catalog progress session
    rw [rounds]
    cases ran : engine.round unitId catalog progress session with
    | error fault last =>
      rw [ran] at calls
      rw [bind_of_error ran]
      exact ⟨[log], .last calls (.inr fun _ _ again => nomatch ran.symm.trans again)⟩
    | ok result middle =>
      rw [ran] at calls
      rw [bind_of_ok ran]
      cases result with
      | ended final ending =>
        exact ⟨[log], .last calls (.inr fun _ _ again => nomatch ran.symm.trans again)⟩
      | again next =>
        obtain ⟨logs, later⟩ := ih next middle
        exact ⟨log :: logs, .again ran calls later⟩

theorem fixUnit_calls (engine : Engine σ) (unitId : String) (session : Session σ) :
    ∃ logs, engine.UnitCalls unitId session logs (final (engine.fixUnit unitId session)) := by
  rw [fixUnit_eq]
  cases fetched : snapshot unitId session with
  | error fault last =>
    obtain rfl := snapshot_eq_error fetched
    rw [bind_of_error fetched]
    refine ⟨[], .missing (Option.eq_none_iff_forall_ne_some.mpr fun unit found => ?_)⟩
    cases (snapshot_eq_ok.mpr ⟨found, rfl⟩).symm.trans fetched
  | ok unit after =>
    obtain ⟨found, rfl⟩ := snapshot_eq_ok.mp fetched
    obtain ⟨begun, learnt⟩ := exists_learnt (engine.catalog unit).descriptors session
    rw [bind_of_ok fetched, fixFound, bind_of_ok learnt]
    split
    · next none =>
      have empty : (engine.catalog unit).analyzers = [] := by simpa using none
      exact ⟨[], .idle found (.inl empty) ⟨begun, learnt, rfl⟩⟩
    split
    · next none =>
      have empty : (engine.catalog unit).fixers = [] := by simpa using none
      exact ⟨[], .idle found (.inr empty) ⟨begun, learnt, rfl⟩⟩
    obtain ⟨logs, calls⟩ := engine.rounds_calls unitId (engine.catalog unit)
      (engine.config.maxIterations - 1) {} begun
    refine ⟨logs, final_bind (fun _ _ failed => ?_) fun (progress, ending) rounded ran => ?_⟩
    · rw [failed] at calls
      exact .toured found learnt calls (.inl rfl)
    · rw [ran] at calls
      obtain ⟨last, noted⟩ : ∃ last, noteEnding unit progress ending rounded = .ok () last := by
        cases ending <;> exact ⟨_, rfl⟩
      rw [final_bind_pure, noted]
      exact .toured found learnt calls (.inr ⟨progress, ending, noted⟩)

end Engine

end FixLoop
