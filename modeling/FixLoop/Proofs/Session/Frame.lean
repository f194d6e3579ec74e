import FixLoop.Proofs.Session.Asking
import FixLoop.Session.Rounds

/-!
What the engine keeps. An invariant that the few elementary steps keep is kept by everything that is
made of them, from one pass over an identifier to all rounds over a unit. What holds of one part of
the work is concluded from what holds of the parts that it is made of, so that an invariant for
which one part needs an argument of its own still has the rest for nothing.
-/

namespace FixLoop

/-- Whether an event only remarks on the passes and rounds themselves. -/
def Event.isRemark : Event → Bool
  | fixing .. | listed _ | applied .. | rejected .. => true
  | compiling .. | analyzing _ | oscillating _ | found .. => true
  | limitReached .. | interrupted _ | noAnalyzers _ | noFixers _ => true
  | _ => false

namespace Engine

open Run

variable {σ : Type} {engine : Engine σ} {unitId : String} {inv : Session σ → Prop}
  {allowed : Fault → Session σ → Prop} {catalog : Catalog σ}

/-- Fails as allowed, or because cancellation was requested. -/
def orInterrupted (allowed : Fault → Session σ → Prop) (fault : Fault) (session : Session σ) :
    Prop :=
  allowed fault session ∨ fault = .cancelled ∧ session.cancellation.isRequested = true

/-- Fails as allowed, or for an ambiguity. -/
def orAmbiguous (allowed : Fault → Session σ → Prop) (fault : Fault) (session : Session σ) : Prop :=
  allowed fault session ∨ ∃ ambiguity, fault = .ambiguous ambiguity

/-- Whether the work of a unit, apart from what is done with the plugins, keeps an invariant. -/
structure Moves (unitId : String) (inv : Session σ → Prop) (allowed : Fault → Session σ → Prop) :
    Prop where
  remark : ∀ event : Event, event.isRemark = true → ∀ session, inv session →
    inv { session with journal := event :: session.journal }
  snapshot : (snapshot unitId : Run σ SourceUnit).Keeps inv allowed
  unfinished : ∀ session, inv session → session.cancellation.isRequested = false →
    allowed .unfinished session

/-- Whether all work on a unit keeps an invariant, step by step. -/
structure Fixes (engine : Engine σ) (unitId : String) (inv : Session σ → Prop)
    (allowed : Fault → Session σ → Prop) : Prop extends Moves unitId inv allowed where
  reads : ∀ unit, engine.Reads unit fun _ step => step.Keeps inv allowed
  selects : ∀ unit id batch,
    engine.Selects unit id batch fun _ step => step.Keeps inv (orAmbiguous (orInterrupted allowed))
  offer : ∀ unit edits, unit.id = unitId → (offer unit edits).Keeps inv allowed
  fixed : ∀ id session, inv session →
    inv { session with journal := .fixed id unitId :: session.journal }

/-- What fixing a unit does with the snapshot that it starts from. -/
def fixFound (engine : Engine σ) (unitId : String) (unit : SourceUnit) : Run σ UnitResult := do
  let catalog := engine.catalog unit
  catalog.descriptors.forM Run.learn
  if catalog.analyzers.isEmpty then
    note (.noAnalyzers unit.displayName)
    return { unitId := unit.id, unitName := unit.displayName, kind := .noAnalyzers }
  if catalog.fixers.isEmpty then
    note (.noFixers unit.displayName)
    return {
      unitId := unit.id, unitName := unit.displayName, kind := .noFixers
      analyzers := catalog.analyzers.map (·.displayName) }
  let (progress, ending) ← engine.rounds unitId catalog (engine.config.maxIterations - 1) {}
  noteEnding unit progress ending
  return unitResult unit catalog progress ending

theorem fixUnit_eq (engine : Engine σ) (unitId : String) :
    engine.fixUnit unitId = snapshot unitId >>= engine.fixFound unitId := rfl

theorem analyzers_catalog (engine : Engine σ) (unit : SourceUnit) :
    (engine.catalog unit).analyzers ⊆ engine.analyzers :=
  fun _ member => (List.mem_filter.mp member).1

theorem fixers_catalog (engine : Engine σ) (unit : SourceUnit) :
    (engine.catalog unit).fixers ⊆ engine.fixers :=
  fun _ member => (List.mem_filter.mp member).1

theorem orInterrupted_of_allowed {fault : Fault} {session : Session σ} (_ : inv session)
    (permitted : allowed fault session) : orInterrupted allowed fault session := .inl permitted

theorem checkCancelled_keeps :
    (checkCancelled : Run σ Unit).Keeps inv (orInterrupted allowed) := by
  intro session holds
  unfold checkCancelled
  by_cases requested : session.cancellation.isRequested = true
  · simpa only [if_pos requested] using ⟨holds, .inr ⟨rfl, requested⟩⟩
  · simpa only [if_neg requested] using holds

/-- Ambiguity is a fault of the selection but an answer of this step. -/
theorem selectFix_keeps {unit : SourceUnit} {id : String} {batch : List Diagnostic}
    (selects : engine.Selects unit id batch fun _ step => step.Keeps inv (orAmbiguous allowed))
    (members : catalog.fixers ⊆ engine.fixers) :
    (engine.selectFix unit catalog id batch).Keeps inv allowed := by
  have able : catalog.fixersOf id ⊆ engine.fixers :=
    fun _ member => members (List.mem_filter.mp member).1
  intro session holds
  have kept := Selection.select_good selects able session holds
  unfold selectFix
  cases ran : Selection.select engine.config id batch (catalog.fixersOf id) unit session with
  | ok action last => simpa only [ran] using kept
  | error fault last =>
    rw [ran] at kept
    obtain ⟨still, permitted | ⟨ambiguity, rfl⟩⟩ := kept
    · cases fault with
      | ambiguous ambiguity => exact still
      | _ => exact ⟨still, permitted⟩
    · exact still

/-- When no pass is left it is only asked whether to stop. -/
theorem passes_zero (engine : Engine σ) (unitId : String) (catalog : Catalog σ) (id : String)
    (state : PassState) (session : Session σ) :
    engine.passes unitId catalog id 0 state session =
      .error (if session.cancellation.isRequested then .cancelled else .unfinished) session := by
  by_cases requested : session.cancellation.isRequested = true
  · rw [if_pos requested]
    exact bind_of_error (checkCancelled_of_requested requested)
  · rw [if_neg requested]
    exact bind_of_ok (checkCancelled_eq_ok.mpr ⟨Bool.eq_false_iff.mpr requested, rfl⟩)

namespace Moves

theorem remark_keeps {event : Event} (moves : Moves unitId inv allowed)
    (remark : event.isRemark = true) : (note event : Run σ Unit).Keeps inv allowed :=
  .note (moves.remark event remark)

theorem passes_keeps {id : String} (moves : Moves unitId inv allowed)
    (pass : ∀ state, (engine.pass unitId catalog id state).Keeps inv (orInterrupted allowed))
    (limit : Nat) :
    ∀ state, (engine.passes unitId catalog id limit state).Keeps inv (orInterrupted allowed) := by
  induction limit with
  | zero =>
    intro state session holds
    rw [passes_zero]
    by_cases requested : session.cancellation.isRequested = true
    · rw [if_pos requested]
      exact ⟨holds, .inr ⟨rfl, requested⟩⟩
    · rw [if_neg requested]
      have running := Bool.eq_false_iff.mpr requested
      exact ⟨holds, .inl (moves.unfinished session holds running)⟩
  | succ limit ih =>
    intro state
    refine (pass state).bind fun result => ?_
    cases result with
    | done outcome => exact .pure _
    | again state => exact ih state

theorem fixIds_keeps {ids : List String}
    (each : ∀ id ∈ ids,
      (engine.fixDiagnostic unitId catalog id).Keeps inv (orInterrupted allowed)) :
    ∀ progress, (engine.fixIds unitId catalog ids progress).Keeps inv allowed := by
  induction ids with
  | nil => exact fun progress => .pure _
  | cons id rest ih =>
    intro progress
    refine Keeps.isCancelled.bind fun cancelled => ?_
    split
    · exact .pure _
    · have fixed : (orCancelled (engine.fixDiagnostic unitId catalog id)).Keeps inv allowed := by
        refine (each id (by simp)).orCancelled.mono ?_
        intro fault session _ ⟨notCancelled, permitted⟩
        rcases permitted with permitted | ⟨cancelled, -⟩
        · exact permitted
        · exact absurd cancelled notCancelled
      refine fixed.bind fun outcome => ?_
      cases outcome with
      | none => exact .pure _
      | some outcome =>
        dsimp only
        split
        · exact .pure _
        · exact ih (fun other member => each other (by simp [member])) _

theorem round_keeps (moves : Moves unitId inv allowed)
    (reads : ∀ unit, engine.Reads unit fun _ step => step.Keeps inv allowed)
    (members : catalog.analyzers ⊆ engine.analyzers)
    (ids : ∀ ids progress, (engine.fixIds unitId catalog ids progress).Keeps inv allowed)
    (progress : Progress) : (engine.round unitId catalog progress).Keeps inv allowed := by
  refine Keeps.isCancelled.bind fun cancelled => ?_
  split
  · exact .pure _
  · refine moves.snapshot.bind fun unit => ?_
    refine (moves.remark_keeps rfl).bind fun _ => ?_
    refine (reads unit).compile_good.bind fun compilerDiagnostics => ?_
    refine ((reads unit).verifyBuild_good compilerDiagnostics).bind fun errors => ?_
    split
    · exact .pure _
    · refine (moves.remark_keeps rfl).bind fun _ => ?_
      refine ((reads unit).fixable_good members _).bind fun diagnostics => ?_
      split
      · exact .pure _
      · split
        · refine (moves.remark_keeps rfl).bind fun _ => ?_
          exact (Keeps.forM fun _ _ => moves.remark_keeps rfl).bind fun _ => .pure _
        · refine (moves.remark_keeps rfl).bind fun _ => ?_
          refine (ids _ _).bind fun result => ?_
          cases result <;> exact .pure _

theorem rounds_keeps
    (round : ∀ progress, (engine.round unitId catalog progress).Keeps inv allowed) (more : Nat) :
    ∀ progress, (engine.rounds unitId catalog more progress).Keeps inv allowed := by
  induction more with
  | zero =>
    intro progress
    refine (round progress).bind fun result => ?_
    cases result <;> exact .pure _
  | succ more ih =>
    intro progress
    refine (round progress).bind fun result => ?_
    cases result with
    | ended progress ending => exact .pure _
    | again progress => exact ih progress

theorem noteEnding_keeps (moves : Moves unitId inv allowed) (unit : SourceUnit)
    (progress : Progress) (ending : UnitEnding) :
    (noteEnding unit progress ending : Run σ Unit).Keeps inv allowed := by
  cases ending with
  | limitReached => exact moves.remark_keeps rfl
  | interrupted => exact moves.remark_keeps rfl
  | _ => exact .pure _

theorem fixFound_keeps (moves : Moves unitId inv allowed) {unit : SourceUnit}
    (learn : ∀ descriptor, (Run.learn descriptor : Run σ Unit).Keeps inv allowed)
    (rounds : ∀ more progress,
      (engine.rounds unitId (engine.catalog unit) more progress).Keeps inv allowed) :
    (engine.fixFound unitId unit).Keeps inv allowed := by
  refine (Keeps.forM fun _ _ => learn _).bind fun _ => ?_
  split
  · exact (moves.remark_keeps rfl).bind fun _ => .pure _
  · split
    · exact (moves.remark_keeps rfl).bind fun _ => .pure _
    · refine (rounds _ _).bind fun (progress, ending) => ?_
      exact (moves.noteEnding_keeps unit progress ending).bind fun _ => .pure _

theorem fixUnit_keeps (moves : Moves unitId inv allowed)
    (learn : ∀ descriptor, (Run.learn descriptor : Run σ Unit).Keeps inv allowed)
    (rounds : ∀ unit more progress,
      (engine.rounds unitId (engine.catalog unit) more progress).Keeps inv allowed) :
    (engine.fixUnit unitId).Keeps inv allowed :=
  moves.snapshot.bind fun unit => moves.fixFound_keeps learn (rounds unit)

/-- All work on a unit keeps what reading snapshots and each pass keep. -/
theorem fixUnit_keeps_of_pass (moves : Moves unitId inv allowed)
    (reads : ∀ unit, engine.Reads unit fun _ step => step.Keeps inv allowed)
    (pass : ∀ unit id state,
      (engine.pass unitId (engine.catalog unit) id state).Keeps inv (orInterrupted allowed)) :
    (engine.fixUnit unitId).Keeps inv allowed := by
  refine moves.fixUnit_keeps (reads default).learn fun unit more => ?_
  refine rounds_keeps (moves.round_keeps reads (engine.analyzers_catalog unit) fun ids => ?_) more
  exact fixIds_keeps fun id _ => moves.passes_keeps (pass unit id) _ _

end Moves

namespace Fixes

theorem apply_keeps (fixes : engine.Fixes unitId inv allowed) {unit : SourceUnit}
    (own : unit.id = unitId) (action : FixAction) :
    (Engine.apply unit action).Keeps inv allowed := by
  unfold Engine.apply
  split
  · exact .pure _
  · refine (fixes.offer unit action.edits own).bind fun landed => ?_
    split
    · exact (fixes.remark_keeps rfl).bind fun _ => .pure _
    · exact (fixes.remark_keeps rfl).bind fun _ => .pure _

theorem fixBatch_keeps (fixes : engine.Fixes unitId inv allowed)
    (members : catalog.fixers ⊆ engine.fixers) {unit : SourceUnit} (own : unit.id = unitId)
    (id : String) (diagnostics : List Diagnostic) (state : PassState) :
    (engine.fixBatch unit catalog id diagnostics state).Keeps inv (orInterrupted allowed) := by
  have remarked {event : Event} (remark : event.isRemark = true) :
      (note event : Run σ Unit).Keeps inv (orInterrupted allowed) :=
    .note (fixes.remark event remark)
  refine (remarked rfl).bind fun _ => ?_
  refine (Keeps.forM fun _ _ => remarked rfl).bind fun _ => ?_
  refine (selectFix_keeps (fixes.selects unit id _) members).bind fun selected => ?_
  match selected with
  | .error ambiguity => exact .pure _
  | .ok none => exact .pure _
  | .ok (some action) =>
    refine ((fixes.apply_keeps own action).mono fun _ _ => orInterrupted_of_allowed).bind
      fun status => ?_
    cases status with
    | noChanges => exact .pure _
    | conflict =>
      dsimp only
      split <;> exact .pure _
    | applied =>
      refine (Keeps.note (own ▸ fixes.fixed id)).bind fun _ => ?_
      dsimp only
      split <;> exact .pure _

theorem pass_keeps (fixes : engine.Fixes unitId inv allowed)
    (analyzers : catalog.analyzers ⊆ engine.analyzers) (fixers : catalog.fixers ⊆ engine.fixers)
    (id : String) (state : PassState) :
    (engine.pass unitId catalog id state).Keeps inv (orInterrupted allowed) := by
  have widen {α : Type} {step : Run σ α} (keeps : step.Keeps inv allowed) :
      step.Keeps inv (orInterrupted allowed) := keeps.mono fun _ _ => orInterrupted_of_allowed
  refine checkCancelled_keeps.bind fun _ => ?_
  refine (widen fixes.snapshot).bind_of fun unit before after found => ?_
  have own := Workspace.id_of_snapshot? (snapshot_eq_ok.mp found).1
  have reads := fixes.reads unit
  refine (widen reads.compile_good).bind fun compilerDiagnostics => ?_
  refine (widen (reads.verifyBuild_good compilerDiagnostics)).bind fun errors => ?_
  split
  · exact .pure _
  · refine (widen (reads.occurrences_good analyzers id _)).bind fun diagnostics => ?_
    split
    · exact .pure _
    · split
      · exact .pure _
      · exact fixes.fixBatch_keeps fixers own id diagnostics state

theorem fixDiagnostic_keeps (fixes : engine.Fixes unitId inv allowed)
    (analyzers : catalog.analyzers ⊆ engine.analyzers) (fixers : catalog.fixers ⊆ engine.fixers)
    (id : String) :
    (engine.fixDiagnostic unitId catalog id).Keeps inv (orInterrupted allowed) :=
  fixes.passes_keeps (fixes.pass_keeps analyzers fixers id) _ _

theorem fixUnit_keeps (fixes : engine.Fixes unitId inv allowed) :
    (engine.fixUnit unitId).Keeps inv allowed :=
  fixes.toMoves.fixUnit_keeps_of_pass fixes.reads fun unit =>
    fixes.pass_keeps (engine.analyzers_catalog unit) (engine.fixers_catalog unit)

end Fixes

/-- A stable invariant is kept by all work, and plugins and workspaces do not claim to be
cancelled. -/
theorem Fixes.of_stable (stable : Session.Stable inv) :
    engine.Fixes unitId inv fun fault _ => fault ≠ .cancelled where
  remark event _ := stable.note event
  snapshot := Session.Stable.snapshot fun _ _ _ _ => nofun
  unfinished _ _ _ := nofun
  reads _ := {
    Keeps.closed (fun event _ => stable.note event) stable.learn with
    compile := stable.call _ fun _ _ _ _ _ => nofun
    analyze := fun _ _ => stable.attempt _ }
  selects _ _ _ := {
    Keeps.closed (fun event _ => stable.note event) stable.learn with
    checked := checkCancelled_keeps.mono fun _ _ _ permitted => .inl permitted
    ambiguous := fun ambiguity => .throw fun _ _ => .inr ⟨ambiguity, rfl⟩
    offers := fun _ _ _ _ _ => stable.call _ fun _ _ _ _ _ => .inl (.inl nofun)
    fixAll := fun _ _ _ _ => stable.call _ fun _ _ _ _ _ => .inl (.inl nofun) }
  offer _ _ _ := stable.offer _ _ fun _ _ _ _ => nofun
  fixed id := stable.note (.fixed id unitId)

end Engine

end FixLoop
