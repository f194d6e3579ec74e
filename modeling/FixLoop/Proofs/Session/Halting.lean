import FixLoop.Proofs.Session.Finishing
import FixLoop.Proofs.Session.Passing

/-!
Passes without a limit, and runs that do not depend on one. If passes over an identifier come to an
end at all, then any limit that is not below their number leads there; and if two limits make no
difference to any identifier, then they make none to a whole run. A run is given up for a limit only
if passes are.
-/

namespace FixLoop

variable {σ α β : Type}

namespace Run

/-- Whether a step is never given up because passes do not come to an end. -/
def Finishes (step : Run σ α) : Prop := ∀ session last, step session ≠ .error .unfinished last

namespace Finishes

variable {step : Run σ α} {next : α → Run σ β}

theorem closed {noted : Event → Prop} : Closed noted fun _ (step : Run σ _) => step.Finishes where
  pure _ _ _ := nofun
  bind_of first rest session last failed := by
    rcases bind_eq_error.mp failed with failed | ⟨value, middle, ran, failed⟩
    · exact first session last failed
    · exact rest value session middle ran middle last failed
  note _ _ _ _ := nofun
  learn _ _ _ := nofun

theorem bind (first : step.Finishes) (rest : ∀ value, (next value).Finishes) :
    (step >>= next).Finishes :=
  (@closed σ fun _ => True).bind first rest

theorem pure (value : α) : (Pure.pure value : Run σ α).Finishes := fun _ _ => nofun

theorem note (event : Event) : (note event : Run σ Unit).Finishes := fun _ _ => nofun

theorem forM {items : List β} {act : β → Run σ PUnit} (each : ∀ item ∈ items, (act item).Finishes) :
    (items.forM act).Finishes :=
  (@closed σ fun _ => True).forM each

theorem isCancelled : (isCancelled : Run σ Bool).Finishes := fun _ _ => nofun

theorem checkCancelled : (checkCancelled : Run σ Unit).Finishes := by
  intro session last failed
  unfold Run.checkCancelled at failed
  split at failed <;> cases failed

theorem snapshot (unitId : String) : (snapshot unitId : Run σ SourceUnit).Finishes := by
  intro session last failed
  unfold Run.snapshot at failed
  split at failed <;> cases failed

theorem offer (unit : SourceUnit) (edits : List TextEdit) :
    (offer unit edits : Run σ Bool).Finishes := by
  intro session last failed
  unfold Run.offer at failed
  split at failed <;> cases failed

theorem call (callback : Callback σ α) : (call callback).Finishes := by
  intro session last failed
  unfold Run.call at failed
  split at failed <;> cases failed

theorem attempt (callback : Callback σ α) : (attempt callback).Finishes := fun _ _ => nofun

theorem orCancelled (finishes : step.Finishes) : (orCancelled step).Finishes := by
  intro session last failed
  unfold Run.orCancelled at failed
  cases ran : step session with
  | ok value after =>
    rw [ran] at failed
    cases failed
  | error fault after =>
    rw [ran] at failed
    cases fault <;> cases failed
    exact finishes session last ran

end Finishes

end Run

namespace Engine

open Run

/-- Passes over an identifier, as many as it takes, and what they come to. -/
inductive Passes (engine : Engine σ) (unitId : String) (catalog : Catalog σ) (id : String) :
    Nat → PassState → Session σ → EStateM.Result Fault (Session σ) FixOutcome → Prop where
  | failed {state : PassState} {session last : Session σ} {fault : Fault}
      (ran : engine.pass unitId catalog id state session = .error fault last) :
    Passes engine unitId catalog id 1 state session (.error fault last)
  | done {state : PassState} {session last : Session σ} {outcome : FixOutcome}
      (ran : engine.pass unitId catalog id state session = .ok (.done outcome) last) :
    Passes engine unitId catalog id 1 state session (.ok outcome last)
  | again {count : Nat} {state next : PassState} {session middle : Session σ}
      {result : EStateM.Result Fault (Session σ) FixOutcome}
      (ran : engine.pass unitId catalog id state session = .ok (.again next) middle)
      (later : Passes engine unitId catalog id count next middle result) :
    Passes engine unitId catalog id (count + 1) state session result

/-- The engine that has the plugins of a catalog, and no others. -/
def withPlugins (engine : Engine σ) (catalog : Catalog σ) : Engine σ :=
  { engine with analyzers := catalog.analyzers, fixers := catalog.fixers }

variable {engine : Engine σ} {unitId id : String} {catalog : Catalog σ} {state : PassState}
  {session : Session σ} {count limit : Nat} {unit : SourceUnit}
  {result : EStateM.Result Fault (Session σ) FixOutcome}

/-- A limit that is not reached makes no difference. -/
theorem Passes.passes_eq (passes : engine.Passes unitId catalog id count state session result)
    (enough : count ≤ limit) : engine.passes unitId catalog id limit state session = result := by
  induction passes generalizing limit with
  | failed ran =>
    obtain ⟨limit, rfl⟩ := Nat.exists_eq_add_of_le' enough
    exact bind_of_error ran
  | done ran =>
    obtain ⟨limit, rfl⟩ := Nat.exists_eq_add_of_le' enough
    exact bind_of_ok ran
  | again ran later ih =>
    obtain ⟨limit, rfl⟩ := Nat.exists_eq_add_of_le' (Nat.le_of_add_left_le enough)
    exact (bind_of_ok ran).trans (ih (Nat.le_of_add_le_add_right enough))

/-! ### What is not given up -/

theorem reads_finish (engine : Engine σ) (unit : SourceUnit) :
    engine.Reads unit fun _ step => step.Finishes where
  toClosed := Finishes.closed
  compile := .call _
  analyze _ _ := .attempt _

theorem selects_finish (engine : Engine σ) (unit : SourceUnit) (id : String)
    (batch : List Diagnostic) : engine.Selects unit id batch fun _ step => step.Finishes where
  toClosed := Finishes.closed
  checked := .checkCancelled
  ambiguous _ _ _ := nofun
  offers _ _ _ _ _ := .call _
  fixAll _ _ _ _ := .call _

theorem selectFix_finishes {batch : List Diagnostic} :
    (engine.selectFix unit catalog id batch).Finishes := by
  intro session last failed
  have selects := Selection.select_good ((engine.withPlugins catalog).selects_finish unit id batch)
    (show catalog.fixersOf id ⊆ catalog.fixers from fun _ member => (List.mem_filter.mp member).1)
  unfold selectFix at failed
  cases ran : Selection.select engine.config id batch (catalog.fixersOf id) unit session with
  | ok action after =>
    rw [ran] at failed
    cases failed
  | error fault after =>
    rw [ran] at failed
    cases fault <;> cases failed
    exact selects session last ran

theorem fixBatch_finishes (diagnostics : List Diagnostic) (state : PassState) :
    (engine.fixBatch unit catalog id diagnostics state).Finishes := by
  refine (Finishes.note _).bind fun _ => (Finishes.forM fun _ _ => .note _).bind fun _ => ?_
  refine selectFix_finishes.bind fun answer => ?_
  match answer with
  | .error ambiguity => exact .pure _
  | .ok none => exact .pure _
  | .ok (some action) =>
    refine Finishes.bind ?_ fun status => ?_
    · unfold Engine.apply
      split
      · exact .pure _
      · refine (Finishes.offer _ _).bind fun landed => ?_
        split <;> exact (Finishes.note _).bind fun _ => .pure _
    · cases status with
      | noChanges => exact .pure _
      | conflict =>
        dsimp only
        split <;> exact .pure _
      | applied =>
        refine (Finishes.note _).bind fun _ => ?_
        dsimp only
        split <;> exact .pure _

/-- A single pass comes to an end. -/
theorem pass_finishes (engine : Engine σ) (unitId : String) (catalog : Catalog σ) (id : String)
    (state : PassState) : (engine.pass unitId catalog id state).Finishes := by
  refine Finishes.checkCancelled.bind fun _ => (Finishes.snapshot _).bind fun unit => ?_
  have reads := (engine.withPlugins catalog).reads_finish unit
  refine Finishes.bind reads.compile_good fun compilerDiagnostics => ?_
  refine Finishes.bind (reads.verifyBuild_good compilerDiagnostics) fun errors => ?_
  split
  · exact .pure _
  refine Finishes.bind (reads.occurrences_good (List.Subset.refl _) id _) fun diagnostics => ?_
  split
  · exact .pure _
  split
  · exact .pure _
  · exact fixBatch_finishes diagnostics state

theorem Passes.finish (passes : engine.Passes unitId catalog id count state session result)
    (last : Session σ) : result ≠ .error .unfinished last := by
  induction passes with
  | failed ran =>
    intro same
    cases same
    exact engine.pass_finishes unitId catalog id _ _ _ ran
  | done ran => exact nofun
  | again ran later ih => exact ih

section

/-! Runs in which passes over all identifiers come to an end. -/

variable (finish : ∀ unitId catalog id, (engine.fixDiagnostic unitId catalog id).Finishes)

include finish

theorem fixIds_finishes (ids : List String) (progress : Progress) :
    (engine.fixIds unitId catalog ids progress).Finishes := by
  induction ids generalizing progress with
  | nil => exact .pure _
  | cons id rest ih =>
    refine Finishes.isCancelled.bind fun cancelled => ?_
    split
    · exact .pure _
    refine (finish unitId catalog id).orCancelled.bind fun outcome => ?_
    cases outcome with
    | none => exact .pure _
    | some outcome =>
      dsimp only
      split
      · exact .pure _
      · exact ih _

theorem round_finishes (progress : Progress) :
    (engine.round unitId catalog progress).Finishes := by
  refine Finishes.isCancelled.bind fun cancelled => ?_
  split
  · exact .pure _
  refine (Finishes.snapshot _).bind fun unit => (Finishes.note _).bind fun _ => ?_
  have reads := (engine.withPlugins catalog).reads_finish unit
  refine Finishes.bind reads.compile_good fun compilerDiagnostics => ?_
  refine Finishes.bind (reads.verifyBuild_good compilerDiagnostics) fun errors => ?_
  split
  · exact .pure _
  refine (Finishes.note _).bind fun _ => ?_
  refine Finishes.bind (reads.fixable_good (List.Subset.refl _) _) fun diagnostics => ?_
  split
  · exact .pure _
  split
  · exact (Finishes.note _).bind fun _ => (Finishes.forM fun _ _ => .note _).bind fun _ => .pure _
  · refine (Finishes.note _).bind fun _ => (fixIds_finishes finish _ _).bind fun result => ?_
    cases result <;> exact .pure _

theorem rounds_finish (more : Nat) (progress : Progress) :
    (engine.rounds unitId catalog more progress).Finishes := by
  induction more generalizing progress with
  | zero =>
    refine (round_finishes finish progress).bind fun result => ?_
    cases result <;> exact .pure _
  | succ more ih =>
    refine (round_finishes finish progress).bind fun result => ?_
    cases result with
    | ended final ending => exact .pure _
    | again next => exact ih next

theorem fixUnit_finishes (unitId : String) : (engine.fixUnit unitId).Finishes := by
  refine (Finishes.snapshot _).bind fun unit => ?_
  refine Finishes.bind (Finishes.forM fun _ _ _ _ => nofun) fun _ => ?_
  split
  · exact (Finishes.note _).bind fun _ => .pure _
  split
  · exact (Finishes.note _).bind fun _ => .pure _
  refine (rounds_finish finish _ _).bind fun (progress, ending) => ?_
  refine Finishes.bind ?_ fun _ => .pure _
  cases ending <;> exact fun _ _ => nofun

omit finish in
theorem offerEach_finishes (unit : SourceUnit) (edits : List TextEdit) (each : TextEdit → Event)
    (refused : Event) : (offerEach unit edits each refused : Run σ Unit).Finishes := by
  unfold offerEach
  split
  · exact .pure _
  refine (Finishes.forM fun _ _ => .note _).bind fun _ => (Finishes.offer _ _).bind fun landed => ?_
  split
  · exact .note _
  · exact .pure _

omit finish in
theorem finishUnit_finishes (unitId : String) : (engine.finishUnit unitId).Finishes := by
  rw [finishUnit_eq]
  refine Finishes.bind ?_ fun _ => ?_
  · split
    · exact .pure _
    · exact (Finishes.snapshot _).bind fun unit =>
        show (engine.addBannerFound unit).Finishes from offerEach_finishes _ _ _ _
  · split
    · refine (Finishes.snapshot _).bind fun unit => ?_
      show (engine.formatFound unit).Finishes
      refine (Finishes.note _).bind fun _ => (Finishes.call _).bind fun edits => ?_
      exact offerEach_finishes _ _ _ _
    · exact .pure _

theorem fixUnits_finish (total : Nat) (order : List String) (position : Nat) (state : RunState) :
    (engine.fixUnits total position order state).Finishes := by
  induction order generalizing position state with
  | nil => exact .pure _
  | cons unitId rest ih =>
    refine Finishes.isCancelled.bind fun cancelled => ?_
    split
    · exact .pure _
    refine (Finishes.snapshot _).bind fun unit => ?_
    split
    · refine (Finishes.note _).bind fun _ => (fixUnit_finishes finish unitId).bind fun result => ?_
      refine Finishes.isCancelled.bind fun cancelled => ?_
      split
      · exact .pure _
      split
      · exact .pure _
      · exact (finishUnit_finishes unitId).bind fun _ => (Finishes.note _).bind fun _ => ih _ _
    · exact (Finishes.note _).bind fun _ => ih _ _

theorem remediate_finishes (requested : Option (List String)) :
    (engine.remediate requested).Finishes := by
  refine Finishes.bind ?_ fun order => ?_
  · intro session last failed
    unfold unitOrder at failed
    split at failed <;> cases failed
  refine (Finishes.forM fun _ _ => .note _).bind fun _ => ?_
  refine (Finishes.forM fun _ _ => .note _).bind fun _ => ?_
  refine (fixUnits_finish finish _ _ _ _).bind fun state => (Finishes.note _).bind fun _ => ?_
  exact Finishes.bind (fun _ _ => nofun) fun _ => .pure _

end

/-! ### What does not depend on the limit -/

section

variable {other : Nat} (same : ∀ unitId catalog id,
  (engine.withLimit limit).fixDiagnostic unitId catalog id =
    (engine.withLimit other).fixDiagnostic unitId catalog id)

include same

theorem fixIds_congr (unitId : String) (catalog : Catalog σ) (ids : List String) :
    (engine.withLimit limit).fixIds unitId catalog ids =
      (engine.withLimit other).fixIds unitId catalog ids := by
  induction ids with
  | nil => rfl
  | cons id rest ih =>
    funext progress
    simp only [fixIds, same, ih]

theorem rounds_congr (unitId : String) (catalog : Catalog σ) (more : Nat) :
    (engine.withLimit limit).rounds unitId catalog more =
      (engine.withLimit other).rounds unitId catalog more := by
  have round : (engine.withLimit limit).round unitId catalog =
      (engine.withLimit other).round unitId catalog := by
    funext progress
    simp only [round, fixIds_congr same]
    rfl
  induction more with
  | zero =>
    funext progress
    simp only [rounds, round]
  | succ more ih =>
    funext progress
    simp only [rounds, round, ih]

theorem fixUnits_congr (total : Nat) (order : List String) (position : Nat) (state : RunState) :
    (engine.withLimit limit).fixUnits total position order state =
      (engine.withLimit other).fixUnits total position order state := by
  have fixUnit : (engine.withLimit limit).fixUnit = (engine.withLimit other).fixUnit := by
    funext unitId
    simp only [fixUnit, rounds_congr same]
    rfl
  induction order generalizing position state with
  | nil => rfl
  | cons unitId rest ih =>
    simp only [fixUnits, fixUnit, ih]
    rfl

/-- If two limits make no difference to any identifier, they make none to a run. -/
theorem remediate_congr (requested : Option (List String)) :
    (engine.withLimit limit).remediate requested =
      (engine.withLimit other).remediate requested := by
  simp only [remediate, fixUnits_congr same]
  rfl

end

end Engine

end FixLoop
