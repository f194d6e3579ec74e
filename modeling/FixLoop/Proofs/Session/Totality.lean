import FixLoop.Proofs.Plugin.Combining
import FixLoop.Proofs.Session.Finishing
import FixLoop.Proofs.Workspace.Ordering

/-!
Runs that come to a result. If no plugin but an analyzer ever gives up, work on a unit of the
workspace can fail in one way only: that passes over an identifier do not come to an end. What a
plugin may rely on is that the units stay those of the start, and that a session can be cancelled if
it could be then.
-/

namespace FixLoop

variable {σ α : Type}

/-- Whether a session has the units of another and can be cancelled exactly if that one can. -/
structure Session.Alike (start now : Session σ) : Prop where
  ids : now.workspace.ids = start.workspace.ids
  never : now.cancellation = .never ↔ start.cancellation = .never

theorem Session.Alike.refl (start : Session σ) : start.Alike start := ⟨rfl, Iff.rfl⟩

theorem Session.Alike.stable (start : Session σ) : Session.Stable start.Alike where
  note _ _ alike := ⟨alike.ids, alike.never⟩
  learn _ _ alike := ⟨alike.ids, alike.never⟩
  remember _ _ alike := ⟨alike.ids, alike.never⟩
  edit _ _ _ _ _ _ alike edited := ⟨(Workspace.ids_tryEdit edited).trans alike.ids, alike.never⟩
  cancel session cancellation alike requested := by
    refine ⟨alike.ids, ?_⟩
    rw [← alike.never]
    cases before : session.cancellation <;> rw [before] at requested <;> cases requested <;> simp

/-- Whether a callback never gives up in sessions like the given one. -/
def Callback.Answers (start : Session σ) (callback : Callback σ α) : Prop :=
  ∀ session, start.Alike session → ∃ value, (callback.carryOut session).1 = .ok value

theorem Callback.Answers.closed (start : Session σ) :
    Callback.Closed fun _ callback => callback.Answers start where
  answer _ value _ _ := ⟨value, rfl⟩
  andThen _ _ callback next first rest := by
    intro session alike
    have after := callback.carryOut_stable (Session.Alike.stable start) session alike
    obtain ⟨value, answered⟩ := first session alike
    rw [carryOut_andThen]
    cases ran : callback.carryOut session with
    | mk answer middle =>
      rw [ran] at answered after
      cases answered
      exact rest value middle after
  defer _ _ _ _ rest session alike := rest _ ⟨alike.ids, alike.never⟩

/-- Requesting cancellation is possible if it is so at the start. -/
theorem Callback.Answers.cancel {start : Session σ} {rest : Callback σ α}
    (answers : rest.Answers start) (possible : start.cancellation ≠ .never) :
    (Callback.cancel rest).Answers start := by
  intro session alike
  have given : session.cancellation.request? = some .requested := by
    cases standing : session.cancellation with
    | never => exact absurd (alike.never.mp standing) possible
    | _ => rfl
  unfold carryOut
  rw [given]
  exact answers _ ⟨alike.ids, iff_of_false Cancellation.noConfusion possible⟩

/-- A call that never gives up does not fail. -/
theorem Callback.Answers.call_keeps {start : Session σ} {callback : Callback σ α}
    {allowed : Fault → Session σ → Prop} (answers : callback.Answers start) :
    (Run.call callback).Keeps start.Alike allowed := by
  refine (Session.Alike.stable start).call callback fun session failure last alike failed => ?_
  obtain ⟨value, answered⟩ := answers session alike
  rw [failed] at answered
  cases answered

namespace Engine

open Run

/-- Fails because passes do not come to an end, in a run that was not cancelled. -/
def unended (fault : Fault) (session : Session σ) : Prop :=
  fault = .unfinished ∧ session.cancellation.isRequested = false

/-- Whether only analyzers ever give up in sessions like the given one. -/
structure OnlyAnalyzersFail (engine : Engine σ) (start : Session σ) : Prop where
  compiler : ∀ unit, (engine.compiler.compile unit).Answers start
  offers : ∀ fixer ∈ engine.fixers, ∀ diagnostic unit,
    ∀ candidate ∈ fixer.offers diagnostic unit, candidate.Answers start
  fixAll : ∀ fixer ∈ engine.fixers, ∀ context, (fixer.fixAll context).Answers start

variable {engine : Engine σ} {unitId : String} {start : Session σ}

theorem Fixes.of_onlyAnalyzersFail (steady : engine.OnlyAnalyzersFail start)
    (known : unitId ∈ start.workspace.ids) :
    engine.Fixes unitId start.Alike unended := by
  have stable := Session.Alike.stable start
  have present {session : Session σ} (alike : start.Alike session) :
      session.workspace.snapshot? unitId ≠ none := by
    rw [Ne, Workspace.snapshot?_eq_none_iff, alike.ids]
    exact not_not_intro known
  exact {
    remark := fun event _ => stable.note event
    snapshot := Session.Stable.snapshot fun session fault alike missing => by
      unfold Workspace.snapshot at missing
      cases found : session.workspace.snapshot? unitId with
      | none => exact absurd found (present alike)
      | some unit => simp [found] at missing
    unfinished := fun _ _ running => ⟨rfl, running⟩
    reads := fun unit => {
      Run.Keeps.closed (fun event _ => stable.note event) stable.learn with
      compile := (steady.compiler unit).call_keeps
      analyze := fun _ _ => stable.attempt _ }
    selects := fun unit id batch => {
      Run.Keeps.closed (fun event _ => stable.note event) stable.learn with
      checked := checkCancelled_keeps.mono fun _ _ _ permitted => .inl permitted
      ambiguous := fun ambiguity => .throw fun _ _ => .inr ⟨ambiguity, rfl⟩
      offers := fun fixer able diagnostic candidate offered =>
        (steady.offers fixer able diagnostic unit candidate offered).call_keeps
      fixAll := fun fixer able context _ => (steady.fixAll fixer able context).call_keeps }
    offer := fun unit edits own => stable.offer unit edits fun session fault alike failed => by
      rw [own] at failed
      exact absurd (Workspace.tryEdit_eq_error.mp failed).1 (present alike)
    fixed := fun id => stable.note (.fixed id unitId) }

/-- Fixing a unit of the workspace comes to a result, unless passes do not come to an end. -/
theorem fixUnit_answers (steady : engine.OnlyAnalyzersFail start)
    (known : unitId ∈ start.workspace.ids) :
    (∃ last, engine.fixUnit unitId start = .error .unfinished last) ∨
      ∃ result last, engine.fixUnit unitId start = .ok result last := by
  have keeps := (Fixes.of_onlyAnalyzersFail steady known).fixUnit_keeps
  cases ran : engine.fixUnit unitId start with
  | ok result last => exact .inr ⟨result, last, rfl⟩
  | error fault last =>
    obtain ⟨-, rfl, -⟩ := keeps.of_error (Session.Alike.refl start) ran
    exact .inl ⟨last, rfl⟩

section

/-! Whole runs, if the formatter does not give up either. -/

variable {requested : Option (List String)} {order : List String}

/-- A run over units that can be ordered comes to a report, unless passes do not come to an end
in a run that was not cancelled. -/
theorem remediate_answers (steady : engine.OnlyAnalyzersFail start)
    (format : ∀ unit document, (engine.formatter.format unit document).Answers start)
    (ordered : start.workspace.order requested = .ok order) :
    (∃ last, engine.remediate requested start = .error .unfinished last ∧
        last.cancellation.isRequested = false) ∨
      ∃ report last, engine.remediate requested start = .ok report last := by
  have noted (event : Event) (_ : event.isEffect = false) := (Session.Alike.stable start).note event
  have fixes (unitId : String) (member : unitId ∈ order) :=
    Fixes.of_onlyAnalyzersFail steady (Workspace.mem_ids_of_order ordered member)
  have format (unit : SourceUnit) :
      (call (Formatting.edits engine.formatter unit)).Keeps start.Alike unended :=
    ((Callback.Answers.closed start).formats format unit).call_keeps
  have fixed := fixUnits_keeps noted (fun unitId member => (fixes unitId member).snapshot)
    (fun unitId member => (fixes unitId member).fixUnit_keeps)
    (fun unitId member => finishUnit_keeps noted (fixes unitId member).snapshot
      (fixes unitId member).offer format) order.length 1 {}
  obtain ⟨rest, keeps, same⟩ := remediate_keeps noted ordered fixed
  cases ran : engine.remediate requested start with
  | ok report last => exact .inr ⟨report, last, rfl⟩
  | error fault last =>
    obtain ⟨-, rfl, running⟩ := keeps.of_error (.refl start) (same.symm.trans ran)
    exact .inl ⟨last, rfl, running⟩

end

end Engine

end FixLoop
