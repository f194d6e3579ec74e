import FixLoop.Proofs.Workspace.Editing
import FixLoop.Session.Basic

/-!
Steps of a run, opened: when a sequence of steps succeeds, and what a step keeps. A step keeps an
invariant if the invariant still holds however the step ends; it may fail only as is allowed. What
plugins can do to a session is a handful of changes, so an invariant that each of them keeps is kept
by every callback.
-/

namespace FixLoop

namespace Run

variable {σ α β : Type} {session last : Session σ}

theorem bind_eq_ok {step : Run σ α} {next : α → Run σ β} {b : β} :
    (step >>= next) session = .ok b last ↔
      ∃ a middle, step session = .ok a middle ∧ next a middle = .ok b last := by
  change EStateM.bind step next session = .ok b last ↔ _
  unfold EStateM.bind
  cases ran : step session <;> simp [and_assoc]

theorem bind_of_ok {step : Run σ α} {next : α → Run σ β} {a : α} {middle : Session σ}
    (ran : step session = .ok a middle) : (step >>= next) session = next a middle := by
  change EStateM.bind step next session = _
  unfold EStateM.bind
  rw [ran]

theorem bind_eq_error {step : Run σ α} {next : α → Run σ β} {fault : Fault} :
    (step >>= next) session = .error fault last ↔
      step session = .error fault last ∨
        ∃ a middle, step session = .ok a middle ∧ next a middle = .error fault last := by
  change EStateM.bind step next session = .error fault last ↔ _
  unfold EStateM.bind
  cases ran : step session <;> simp [and_assoc]

theorem bind_of_error {step : Run σ α} {next : α → Run σ β} {fault : Fault}
    (failed : step session = .error fault last) : (step >>= next) session = .error fault last := by
  change EStateM.bind step next session = _
  unfold EStateM.bind
  rw [failed]

@[simp] theorem pure_eq_ok {a b : α} :
    (pure a : Run σ α) session = .ok b last ↔ a = b ∧ session = last := by
  change EStateM.Result.ok a session = .ok b last ↔ _
  simp

@[simp] theorem note_apply (event : Event) (session : Session σ) :
    note event session = .ok () { session with journal := event :: session.journal } := rfl

theorem forM_note (event : α → Event) (items : List α) (session : Session σ) :
    (items.forM fun item => (note (event item) : Run σ Unit)) session =
      .ok () { session with journal := (items.map event).reverse ++ session.journal } := by
  induction items generalizing session with
  | nil => rfl
  | cons item rest ih =>
    refine (bind_of_ok (note_apply _ _)).trans ((ih _).trans ?_)
    simp

@[simp] theorem isCancelled_apply (session : Session σ) :
    isCancelled session = .ok session.cancellation.isRequested session := rfl

theorem checkCancelled_eq_ok :
    checkCancelled session = .ok () last ↔
      session.cancellation.isRequested = false ∧ session = last := by
  unfold checkCancelled
  cases session.cancellation.isRequested <;> simp

theorem checkCancelled_of_requested (requested : session.cancellation.isRequested = true) :
    checkCancelled session = .error .cancelled session := by
  rw [checkCancelled, if_pos requested]

theorem snapshot_eq_ok {unitId : String} {unit : SourceUnit} :
    snapshot unitId session = .ok unit last ↔
      session.workspace.snapshot? unitId = some unit ∧ session = last := by
  unfold snapshot
  rw [← Workspace.snapshot_eq_ok]
  cases found : session.workspace.snapshot unitId <;> simp

theorem snapshot_eq_error {unitId : String} {fault : Fault}
    (failed : snapshot unitId session = .error fault last) : last = session := by
  unfold snapshot at failed
  split at failed <;> cases failed
  rfl

theorem offer_eq_ok {unit : SourceUnit} {edits : List TextEdit} {landed : Bool} :
    offer unit edits session = .ok landed last ↔
      ∃ workspace, session.workspace.tryEdit unit.id unit.version edits = .ok (landed, workspace) ∧
        last = { session with
          workspace
          journal := .edited .session unit.id unit.version edits landed :: session.journal } := by
  unfold offer
  cases tried : session.workspace.tryEdit unit.id unit.version edits with
  | error fault => simp
  | ok answer =>
    obtain ⟨given, workspace⟩ := answer
    constructor
    · intro offered
      cases offered
      exact ⟨workspace, rfl, rfl⟩
    · rintro ⟨after, same, rfl⟩
      cases same
      rfl

theorem offer_eq_error {unit : SourceUnit} {edits : List TextEdit} {fault : Fault}
    (failed : offer unit edits session = .error fault last) : last = session := by
  unfold offer at failed
  split at failed <;> cases failed
  rfl

theorem call_eq_ok {callback : Callback σ α} {value : α} :
    call callback session = .ok value last ↔ callback.carryOut session = (.ok value, last) := by
  unfold call
  cases callback.carryOut session with
  | mk answer after => cases answer <;> simp

/-- The session in which a step ended, however it did. -/
def final : EStateM.Result Fault (Session σ) α → Session σ
  | .ok _ last => last
  | .error _ last => last

@[simp] theorem final_ok (value : α) (last : Session σ) : final (.ok value last) = last := rfl

@[simp] theorem final_error (fault : Fault) (last : Session σ) :
    final (.error fault last : EStateM.Result Fault (Session σ) α) = last := rfl

theorem final_call (callback : Callback σ α) (session : Session σ) :
    final (call callback session) = (callback.carryOut session).2 := by
  unfold call
  cases callback.carryOut session with
  | mk answer last => cases answer <;> rfl

/-- What holds wherever a sequence of steps can end. -/
theorem final_bind {step : Run σ α} {next : α → Run σ β} {goal : Session σ → Prop}
    (failed : ∀ fault last, step session = .error fault last → goal last)
    (goes : ∀ a middle, step session = .ok a middle → goal (final (next a middle))) :
    goal (final ((step >>= next) session)) := by
  cases ran : step session with
  | ok a middle =>
    rw [bind_of_ok ran]
    exact goes a middle ran
  | error fault last =>
    rw [bind_of_error ran]
    exact failed fault last ran

/-- Something to see in the answer of a step and the session then, if it succeeded. -/
def peek? (look : α → Session σ → β) : EStateM.Result Fault (Session σ) α → Option β
  | .ok value last => some (look value last)
  | .error _ _ => none

theorem peek?_eq_some {look : α → Session σ → β} {result : EStateM.Result Fault (Session σ) α}
    {seen : β} :
    peek? look result = some seen ↔
      ∃ value last, result = .ok value last ∧ look value last = seen := by
  cases result <;> simp [peek?, and_assoc]

/-- Whether a step keeps an invariant, however it ends, and fails only as allowed. -/
def Keeps (inv : Session σ → Prop) (allowed : Fault → Session σ → Prop) (step : Run σ α) : Prop :=
  ∀ session, inv session →
    match step session with
    | .ok _ last => inv last
    | .error fault last => inv last ∧ allowed fault last

namespace Keeps

variable {inv : Session σ → Prop} {allowed weaker : Fault → Session σ → Prop} {step : Run σ α}
  {next : α → Run σ β}

theorem of_ok (keeps : step.Keeps inv allowed) (holds : inv session) {a : α}
    (ran : step session = .ok a last) : inv last := by
  have kept := keeps session holds
  rwa [ran] at kept

theorem of_error (keeps : step.Keeps inv allowed) (holds : inv session) {fault : Fault}
    (failed : step session = .error fault last) : inv last ∧ allowed fault last := by
  have kept := keeps session holds
  rwa [failed] at kept

/-- A step succeeds if no failure is allowed. -/
theorem exists_ok (keeps : step.Keeps inv fun _ _ => False) (holds : inv session) :
    ∃ a last, step session = .ok a last ∧ inv last := by
  have kept := keeps session holds
  cases ran : step session with
  | ok a last =>
    rw [ran] at kept
    exact ⟨a, last, rfl, kept⟩
  | error fault last =>
    rw [ran] at kept
    exact kept.2.elim

theorem final (keeps : step.Keeps inv allowed) (holds : inv session) :
    inv (final (step session)) := by
  have kept := keeps session holds
  cases ran : step session with
  | ok a last => rwa [ran] at kept
  | error fault last =>
    rw [ran] at kept
    exact kept.1

/-- If any failure is allowed, only the session then counts. -/
theorem of_final (kept : ∀ session, inv session → inv (Run.final (step session)))
    (any : ∀ fault session, allowed fault session) : step.Keeps inv allowed := by
  intro session holds
  have kept := kept session holds
  cases ran : step session with
  | ok a last => rwa [ran] at kept
  | error fault last =>
    rw [ran] at kept
    exact ⟨kept, any fault last⟩

theorem mono (keeps : step.Keeps inv allowed)
    (weaken : ∀ fault session, inv session → allowed fault session → weaker fault session) :
    step.Keeps inv weaker := by
  intro session holds
  have kept := keeps session holds
  cases ran : step session with
  | ok a last => rwa [ran] at kept
  | error fault last =>
    rw [ran] at kept
    exact ⟨kept.1, weaken fault last kept.1 kept.2⟩

theorem pure (a : α) : (Pure.pure a : Run σ α).Keeps inv allowed :=
  fun _ holds => holds

/-- The rest of a sequence may use that its first step can answer as it did. -/
theorem bind_of (first : step.Keeps inv allowed)
    (rest : ∀ a before after, step before = .ok a after → (next a).Keeps inv allowed) :
    (step >>= next).Keeps inv allowed := by
  intro session holds
  have kept := first session holds
  change match EStateM.bind step next session with
    | .ok _ last => inv last
    | .error fault last => inv last ∧ allowed fault last
  unfold EStateM.bind
  cases ran : step session with
  | ok a middle =>
    rw [ran] at kept
    exact rest a session middle ran middle kept
  | error fault middle =>
    rw [ran] at kept
    exact kept

theorem bind (first : step.Keeps inv allowed) (rest : ∀ a, (next a).Keeps inv allowed) :
    (step >>= next).Keeps inv allowed :=
  first.bind_of fun a _ _ _ => rest a

theorem forM {items : List α} {act : α → Run σ PUnit}
    (each : ∀ item ∈ items, (act item).Keeps inv allowed) :
    (items.forM act).Keeps inv allowed := by
  induction items with
  | nil => exact .pure _
  | cons item rest ih =>
    exact (each item (by simp)).bind fun _ => ih fun other member => each other (by simp [member])

theorem isCancelled : (isCancelled : Run σ Bool).Keeps inv allowed :=
  fun _ holds => holds

theorem get : (get : Run σ (Session σ)).Keeps inv allowed :=
  fun _ holds => holds

theorem note {event : Event}
    (pushed : ∀ session, inv session → inv { session with journal := event :: session.journal }) :
    (note event : Run σ Unit).Keeps inv allowed :=
  fun session holds => pushed session holds

theorem learn (learnt : ∀ known session, inv session → inv { session with known })
    (descriptor : Descriptor) : (learn descriptor : Run σ Unit).Keeps inv allowed := by
  intro session holds
  change inv (if _ then session else _)
  split
  · exact holds
  · exact learnt _ session holds

theorem snapshot {unitId : String} (any : ∀ fault session, allowed fault session) :
    (snapshot unitId : Run σ SourceUnit).Keeps inv allowed := by
  intro session holds
  unfold Run.snapshot
  cases session.workspace.snapshot unitId with
  | ok unit => exact holds
  | error fault => exact ⟨holds, any _ _⟩

/-- A step that turns cancellation into an answer fails as the step does otherwise. -/
theorem orCancelled (keeps : step.Keeps inv allowed) :
    (orCancelled step).Keeps inv fun fault session =>
      fault ≠ .cancelled ∧ allowed fault session := by
  intro session holds
  have kept := keeps session holds
  unfold Run.orCancelled
  cases ran : step session with
  | ok a last => simpa only [ran] using kept
  | error fault last =>
    rw [ran] at kept
    cases fault <;> simp_all

theorem throw {fault : Fault} (permitted : ∀ session, inv session → allowed fault session) :
    (throw fault : Run σ α).Keeps inv allowed :=
  fun session holds => ⟨holds, permitted session holds⟩

end Keeps

/-- Whether a class of steps is closed under sequences, and has the notes of some events. The rest
of a sequence may use that its first step can answer as it did. -/
structure Closed (noted : Event → Prop) (good : (α : Type) → Run σ α → Prop) : Prop where
  pure : ∀ {α : Type} (value : α), good α (Pure.pure value)
  bind_of : ∀ {α β : Type} {step : Run σ α} {next : α → Run σ β}, good α step →
    (∀ value before after, step before = .ok value after → good β (next value)) →
    good β (step >>= next)
  note : ∀ event, noted event → good Unit (note event)
  learn : ∀ descriptor, good Unit (learn descriptor)

namespace Closed

variable {noted : Event → Prop} {good : (α : Type) → Run σ α → Prop} {step : Run σ α}
  {next : α → Run σ β}

theorem bind (closed : Closed noted good) (first : good _ step)
    (rest : ∀ value, good _ (next value)) : good _ (step >>= next) :=
  closed.bind_of first fun value _ _ _ => rest value

theorem forM (closed : Closed noted good) {items : List α} {act : α → Run σ PUnit}
    (each : ∀ item ∈ items, good _ (act item)) : good _ (items.forM act) := by
  induction items with
  | nil => exact closed.pure _
  | cons item rest ih =>
    refine closed.bind (each item (by simp)) fun _ => ?_
    exact ih fun other member => each other (by simp [member])

theorem mapM (closed : Closed noted good) {items : List α} {act : α → Run σ β}
    (each : ∀ item ∈ items, good _ (act item)) : good _ (items.mapM act) := by
  induction items with
  | nil => exact closed.pure _
  | cons item rest ih =>
    rw [List.mapM_cons]
    refine closed.bind (each item (by simp)) fun _ => ?_
    refine closed.bind (ih fun other member => each other (by simp [member])) fun _ => ?_
    exact closed.pure _

end Closed

/-- The steps that keep an invariant are such a class if it survives the notes. -/
theorem Keeps.closed {noted : Event → Prop} {inv : Session σ → Prop}
    {allowed : Fault → Session σ → Prop}
    (pushed : ∀ event, noted event → ∀ session, inv session →
      inv { session with journal := event :: session.journal })
    (learnt : ∀ known session, inv session → inv { session with known }) :
    Closed noted fun _ step => step.Keeps inv allowed where
  pure value := .pure value
  bind_of first rest := first.bind_of rest
  note event allowed := .note (pushed event allowed)
  learn descriptor := .learn learnt descriptor

end Run

/-- Whether a session is not asked to stop, and what its workspace is. -/
structure Session.Stands {σ : Type} (workspace : Workspace) (now : Session σ) : Prop where
  running : now.cancellation.isRequested = false
  workspace : now.workspace = workspace

/-- Whether an invariant survives whatever plugins and the engine do to a session. -/
structure Session.Stable {σ : Type} (inv : Session σ → Prop) : Prop where
  note : ∀ event session, inv session → inv { session with journal := event :: session.journal }
  learn : ∀ known session, inv session → inv { session with known }
  remember : ∀ memory session, inv session → inv { session with memory }
  edit : ∀ session id version edits landed workspace, inv session →
    session.workspace.tryEdit id version edits = .ok (landed, workspace) →
    inv { session with workspace }
  cancel : ∀ session cancellation, inv session →
    session.cancellation.request? = some cancellation → inv { session with cancellation }

variable {σ α : Type} {inv : Session σ → Prop}

theorem Session.stable_true : Session.Stable fun _ : Session σ => True where
  note _ _ _ := trivial
  learn _ _ _ := trivial
  remember _ _ _ := trivial
  edit _ _ _ _ _ _ _ _ := trivial
  cancel _ _ _ _ := trivial

theorem Callback.carryOut_stable (stable : Session.Stable inv) (callback : Callback σ α) :
    ∀ session, inv session → inv (callback.carryOut session).2 := by
  induction callback with
  | answer value => exact fun _ holds => holds
  | fail failure => exact fun _ holds => holds
  | look ask ih => exact fun session holds => ih _ session holds
  | retrieve ask ih => exact fun session holds => ih _ session holds
  | remember memory rest ih => exact fun session holds => ih _ (stable.remember _ session holds)
  | edit unitId version edits ask ih =>
    intro session holds
    unfold carryOut
    split
    · exact holds
    · rename_i landed workspace edited
      exact ih _ _ (stable.note _ _ (stable.edit session _ _ _ _ _ holds edited))
  | cancel rest ih =>
    intro session holds
    unfold carryOut
    split
    · exact holds
    · rename_i cancellation requested
      exact ih _ (stable.note _ _ (stable.cancel session _ holds requested))
  | defer count id rest ih => exact fun session holds => ih _ (stable.note _ session holds)

namespace Session.Stable

open Run

variable {allowed : Fault → Session σ → Prop}

/-- A call keeps a stable invariant, and fails as allowed if the plugin does. -/
theorem call (stable : Session.Stable inv) (callback : Callback σ α)
    (permitted : ∀ session failure last, inv session →
      callback.carryOut session = (.error failure, last) → allowed (.plugin failure) last) :
    (call callback).Keeps inv allowed := by
  intro session holds
  have kept := callback.carryOut_stable stable session holds
  unfold Run.call
  cases ran : callback.carryOut session with
  | mk answer last =>
    rw [ran] at kept
    cases answer with
    | ok value => exact kept
    | error failure => exact ⟨kept, permitted session failure last holds ran⟩

theorem attempt (stable : Session.Stable inv) (callback : Callback σ α) :
    (attempt callback).Keeps inv allowed :=
  fun session holds => callback.carryOut_stable stable session holds

theorem snapshot {unitId : String}
    (permitted : ∀ session fault, inv session → session.workspace.snapshot unitId = .error fault →
      allowed (.workspace fault) session) :
    (snapshot unitId : Run σ SourceUnit).Keeps inv allowed := by
  intro session holds
  unfold Run.snapshot
  cases found : session.workspace.snapshot unitId with
  | ok unit => exact holds
  | error fault => exact ⟨holds, permitted session fault holds found⟩

theorem offer (stable : Session.Stable inv) (unit : SourceUnit) (edits : List TextEdit)
    (permitted : ∀ session fault, inv session →
      session.workspace.tryEdit unit.id unit.version edits = .error fault →
      allowed (.workspace fault) session) :
    (offer unit edits).Keeps inv allowed := by
  intro session holds
  unfold Run.offer
  cases tried : session.workspace.tryEdit unit.id unit.version edits with
  | ok answer => exact stable.note _ _ (stable.edit session _ _ _ _ _ holds tried)
  | error fault => exact ⟨holds, permitted session fault holds tried⟩

end Session.Stable

end FixLoop
