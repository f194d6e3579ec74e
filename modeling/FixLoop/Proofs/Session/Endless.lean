import FixLoop.Formatting
import FixLoop.Proofs.Findings
import FixLoop.Proofs.Plugin.Letters
import FixLoop.Proofs.Session.Passing
import FixLoop.Proofs.Session.Stateless
import Mathlib

/-!
Whether passes over an identifier come to an end. If plugins are functions of what they are given, a
pass is followed by another for one of two reasons. Its edits were rejected, which the next pass
repeats and which then ends the passes; or it landed a limited batch. So passes go on for ever
exactly if limited batches land for ever, each report other than the one before it. They can, since
no pass looks further back.
-/

namespace FixLoop

variable {σ α : Type}

/-- Whether a callback answers the same in every session, and changes neither the workspace nor the
signal. -/
def Callback.IsFunction (callback : Callback σ α) : Prop :=
  ∃ value, ∀ session : Session σ, (callback.carryOut session).1 = .ok value ∧
    (callback.carryOut session).2.workspace = session.workspace ∧
    (callback.carryOut session).2.cancellation = session.cancellation

namespace Callback.IsFunction

theorem closed : Callback.Closed fun _ (callback : Callback σ _) => callback.IsFunction where
  answer _ value := ⟨value, fun _ => ⟨rfl, rfl, rfl⟩⟩
  andThen _ _ callback next first rest := by
    obtain ⟨value, answers⟩ := first
    obtain ⟨final, finally_⟩ := rest value
    refine ⟨final, fun session => ?_⟩
    obtain ⟨answered, same, standing⟩ := answers session
    rw [carryOut_andThen]
    cases ran : callback.carryOut session with
    | mk answer middle =>
      rw [ran] at answered same standing
      cases answered
      obtain ⟨last, kept, still⟩ := finally_ middle
      exact ⟨last, kept.trans same, still.trans standing⟩
  defer _ _ _ _ rest := by
    obtain ⟨value, answers⟩ := rest
    exact ⟨value, fun session => answers _⟩

variable {callback : Callback σ α} {workspace : Workspace} {allowed : Fault → Session σ → Prop}

theorem carryOut_stands (function : callback.IsFunction) {session : Session σ}
    (stands : session.Stands workspace) :
    ∃ value, (callback.carryOut session).1 = .ok value ∧
      (callback.carryOut session).2.Stands workspace := by
  obtain ⟨value, answers⟩ := function
  obtain ⟨answered, same, standing⟩ := answers session
  exact ⟨value, answered, standing ▸ stands.running, same.trans stands.workspace⟩

theorem call_keeps (function : callback.IsFunction) :
    (Run.call callback).Keeps (Session.Stands workspace) allowed := by
  intro session stands
  obtain ⟨value, answered, still⟩ := function.carryOut_stands stands
  unfold Run.call
  cases ran : callback.carryOut session with
  | mk answer last =>
    rw [ran] at answered still
    cases answered
    exact still

theorem attempt_keeps (function : callback.IsFunction) :
    (Run.attempt callback).Keeps (Session.Stands workspace) allowed :=
  fun _ stands => (function.carryOut_stands stands).choose_spec.2

theorem call_determined (function : callback.IsFunction) :
    (Run.call callback).DeterminedIn fun signal => signal.isRequested = false := by
  obtain ⟨value, answers⟩ := function
  exact .call fun session running => ⟨(answers session).1, (answers session).2.1,
    (answers session).2.2 ▸ running⟩

theorem attempt_determined (function : callback.IsFunction) :
    (Run.attempt callback).DeterminedIn fun signal => signal.isRequested = false := by
  obtain ⟨value, answers⟩ := function
  exact .attempt fun session running => ⟨(answers session).1, (answers session).2.1,
    (answers session).2.2 ▸ running⟩

end Callback.IsFunction

namespace Engine

open Run

/-- Whether all that plugins do while a unit is fixed is a function of what they are given. -/
structure FunctionalPlugins (engine : Engine σ) : Prop where
  compiler : ∀ unit, (engine.compiler.compile unit).IsFunction
  analyzers : ∀ analyzer ∈ engine.analyzers, ∀ unit, (analyzer.analyze unit).IsFunction
  offers : ∀ fixer ∈ engine.fixers, ∀ diagnostic unit,
    ∀ candidate ∈ fixer.offers diagnostic unit, candidate.IsFunction
  fixAll : ∀ fixer ∈ engine.fixers, ∀ context, (fixer.fixAll context).IsFunction

/-! ### What a snapshot determines -/

/-- Whether a pass finds diagnostics in a snapshot that builds. -/
def Sees (engine : Engine σ) (catalog : Catalog σ) (id : String) (unit : SourceUnit)
    (diagnostics : List Diagnostic) : Prop :=
  ∃ before after : Session σ, ∃ survey, before.cancellation.isRequested = false ∧
    engine.examine unit (engine.occurrences unit catalog id) before = .ok survey after ∧
    survey.errors = [] ∧ survey.diagnostics = diagnostics

/-- Whether an action is chosen for a batch of a snapshot. -/
def Chooses (engine : Engine σ) (catalog : Catalog σ) (id : String) (unit : SourceUnit)
    (batch : List Diagnostic) (action : FixAction) : Prop :=
  ∃ before after : Session σ, before.cancellation.isRequested = false ∧
    engine.choice unit catalog id batch before = .ok (.ok (some action)) after

/-- Whether a pass lands a limited batch. A snapshot goes with the report of the pass before it, the
next one with the report of this pass. -/
structure Continues (engine : Engine σ) (catalog : Catalog σ) (id : String)
    (before after : SourceUnit × List Diagnostic) : Prop where
  sees : engine.Sees catalog id before.1 after.2
  fresh : Diagnostic.sameFindings after.2 before.2 = false
  limited : isLimited engine.config.batchSize after.2 = true
  lands : ∃ action,
    engine.Chooses catalog id before.1 (batchOf engine.config.batchSize after.2) action ∧
      action.edits ≠ [] ∧ before.1.withEdits action.edits = .ok after.1

/-- Whether a pass has its edits rejected, by a unit that did not change meanwhile. -/
structure Rejects (engine : Engine σ) (catalog : Catalog σ) (id : String) (unit : SourceUnit)
    (previous diagnostics : List Diagnostic) : Prop where
  sees : engine.Sees catalog id unit diagnostics
  found : diagnostics ≠ []
  fresh : Diagnostic.sameFindings diagnostics previous = false
  misfits : ∃ action fault,
    engine.Chooses catalog id unit (batchOf engine.config.batchSize diagnostics) action ∧
      action.edits ≠ [] ∧ unit.withEdits action.edits = .error fault

variable {engine : Engine σ} {catalog : Catalog σ} {unitId id : String} {unit next : SourceUnit}
  {diagnostics batch : List Diagnostic} {action : FixAction} {state : PassState}
  {session : Session σ} {workspace : Workspace} {allowed : Fault → Session σ → Prop}

/-- Selecting is determined in the sessions that are not asked to stop if its calls are. -/
theorem selects_of_determined
    (offers : ∀ fixer ∈ engine.fixers, ∀ diagnostic, ∀ candidate ∈ fixer.offers diagnostic unit,
      (call candidate).DeterminedIn fun signal => signal.isRequested = false)
    (fixAll : ∀ fixer ∈ engine.fixers, ∀ context,
      (call (fixer.fixAll context)).DeterminedIn fun signal => signal.isRequested = false) :
    engine.Selects unit id batch fun _ step =>
      step.DeterminedIn fun signal => signal.isRequested = false where
  toClosed := DeterminedIn.closed _ _
  checked := ⟨.ok (), fun session running => by
    rw [checkCancelled_eq_ok.mpr ⟨running, rfl⟩]
    exact ⟨rfl, running⟩⟩
  ambiguous ambiguity := ⟨.error (.ambiguous ambiguity), fun _ running => ⟨rfl, running⟩⟩
  offers := offers
  fixAll fixer able context _ := fixAll fixer able context

namespace FunctionalPlugins

theorem reads_determined (plugins : engine.FunctionalPlugins) (unit : SourceUnit) :
    engine.Reads unit fun _ step => step.DeterminedIn fun signal => signal.isRequested = false where
  toClosed := DeterminedIn.closed _ _
  compile := (plugins.compiler unit).call_determined
  analyze analyzer member := (plugins.analyzers analyzer member unit).attempt_determined

theorem reads_keeps (plugins : engine.FunctionalPlugins) (unit : SourceUnit) :
    engine.Reads unit fun _ step => step.Keeps (Session.Stands workspace) allowed where
  toClosed := Keeps.closed (fun _ _ _ stands => ⟨stands.running, stands.workspace⟩)
    fun _ _ stands => ⟨stands.running, stands.workspace⟩
  compile := (plugins.compiler unit).call_keeps
  analyze analyzer member := (plugins.analyzers analyzer member unit).attempt_keeps

theorem selects_determined (plugins : engine.FunctionalPlugins) (unit : SourceUnit) (id : String)
    (batch : List Diagnostic) :
    engine.Selects unit id batch fun _ step =>
      step.DeterminedIn fun signal => signal.isRequested = false :=
  selects_of_determined
    (fun fixer able diagnostic candidate offered =>
      (plugins.offers fixer able diagnostic unit candidate offered).call_determined)
    fun fixer able context => (plugins.fixAll fixer able context).call_determined

theorem selects_keeps (plugins : engine.FunctionalPlugins) (unit : SourceUnit) (id : String)
    (batch : List Diagnostic) :
    engine.Selects unit id batch fun _ step =>
      step.Keeps (Session.Stands workspace) (orAmbiguous allowed) where
  toClosed := Keeps.closed (fun _ _ _ stands => ⟨stands.running, stands.workspace⟩)
    fun _ _ stands => ⟨stands.running, stands.workspace⟩
  checked session stands := by
    rw [checkCancelled_eq_ok.mpr ⟨stands.running, rfl⟩]
    exact stands
  ambiguous ambiguity := .throw fun _ _ => .inr ⟨ambiguity, rfl⟩
  offers fixer able diagnostic candidate offered :=
    (plugins.offers fixer able diagnostic unit candidate offered).call_keeps
  fixAll fixer able context _ := (plugins.fixAll fixer able context).call_keeps

end FunctionalPlugins

/-- What the selection of a fix comes to, given that of an action. -/
def fixSelected : Except Fault (Option FixAction) →
    Except Fault (Except Ambiguity (Option FixAction))
  | .ok action => .ok (.ok action)
  | .error (.ambiguous ambiguity) => .ok (.error ambiguity)
  | .error fault => .error fault

/-- Ambiguity is an answer as determined as others. -/
theorem selectFix_determined {kind : Cancellation → Prop}
    (selected : (Selection.select engine.config id batch (catalog.fixersOf id) unit).DeterminedIn
      kind) : (engine.selectFix unit catalog id batch).DeterminedIn kind := by
  obtain ⟨answer, answers⟩ := selected
  refine ⟨fixSelected answer, fun session stands => ?_⟩
  obtain ⟨here, still⟩ := answers session stands
  unfold selectFix
  cases ran : Selection.select engine.config id batch (catalog.fixersOf id) unit session with
  | ok action last =>
    rw [ran] at here still
    obtain ⟨rfl, same⟩ := Prod.mk.inj here
    exact ⟨Prod.ext rfl same, still⟩
  | error fault last =>
    rw [ran] at here still
    obtain ⟨rfl, same⟩ := Prod.mk.inj here
    cases fault <;> exact ⟨Prod.ext rfl same, still⟩

section

variable (plugins : engine.FunctionalPlugins) (analyzers : catalog.analyzers ⊆ engine.analyzers)
  (fixers : catalog.fixers ⊆ engine.fixers) (running : session.cancellation.isRequested = false)

include plugins

include analyzers in
theorem examine_determined (unit : SourceUnit) (id : String) :
    (engine.examine unit (engine.occurrences unit catalog id)).DeterminedIn
      fun signal => signal.isRequested = false :=
  (plugins.reads_determined unit).examine_good
    ((plugins.reads_determined unit).occurrences_good analyzers id)

include fixers in
theorem choice_determined (unit : SourceUnit) (id : String) (batch : List Diagnostic) :
    (engine.choice unit catalog id batch).DeterminedIn
      fun signal => signal.isRequested = false := by
  have able : catalog.fixersOf id ⊆ engine.fixers :=
    fun _ member => fixers (List.mem_filter.mp member).1
  refine .bind_of (.note _) fun _ _ _ _ => ?_
  refine .bind_of ((DeterminedIn.closed _ fun _ => True).forM fun _ _ => .note _) fun _ _ _ _ => ?_
  exact selectFix_determined (Selection.select_good (plugins.selects_determined unit id batch) able)

include running

include analyzers in
/-- What a pass finds in a snapshot, it finds in any session. -/
theorem examine_of_sees (sees : engine.Sees catalog id unit diagnostics) :
    ∃ survey after, engine.examine unit (engine.occurrences unit catalog id) session =
        .ok survey after ∧ survey.errors = [] ∧ survey.diagnostics = diagnostics ∧
      after.Stands session.workspace := by
  obtain ⟨before, _, survey, stood, examined, builds, found⟩ := sees
  obtain ⟨-, -, again⟩ := (examine_determined plugins analyzers unit id).of_ok stood examined
  obtain ⟨after, examined, same, still⟩ := again session running
  exact ⟨survey, after, examined, builds, found, still, same⟩

include analyzers in
theorem exists_examine (unit : SourceUnit) (id : String) :
    ∃ survey after, engine.examine unit (engine.occurrences unit catalog id) session =
      .ok survey after ∧ after.Stands session.workspace := by
  have reads : engine.Reads unit fun _ step =>
      step.Keeps (Session.Stands session.workspace) fun _ _ => False := plugins.reads_keeps unit
  exact (reads.examine_good (reads.occurrences_good analyzers id)).exists_ok ⟨running, rfl⟩

include fixers in
/-- What is chosen for a batch, is chosen in any session. -/
theorem choice_of_chooses (chooses : engine.Chooses catalog id unit batch action) :
    ∃ after, engine.choice unit catalog id batch session = .ok (.ok (some action)) after ∧
      after.Stands session.workspace := by
  obtain ⟨before, _, stood, chose⟩ := chooses
  obtain ⟨-, -, again⟩ := (choice_determined plugins fixers unit id batch).of_ok stood chose
  obtain ⟨after, chose, same, still⟩ := again session running
  exact ⟨after, chose, still, same⟩

include fixers in
theorem exists_choice (unit : SourceUnit) (id : String) (batch : List Diagnostic) :
    ∃ answer after, engine.choice unit catalog id batch session = .ok answer after ∧
      after.Stands session.workspace := by
  have kept : (engine.choice unit catalog id batch).Keeps (Session.Stands session.workspace)
      fun _ _ => False :=
    choice_keeps (fun _ _ _ stands => ⟨stands.running, stands.workspace⟩)
      (plugins.selects_keeps unit id batch) fixers
  exact kept.exists_ok ⟨running, rfl⟩

end

/-! ### What a pass comes to -/

theorem ne_nil_of_isLimited {batchSize : Nat} (limited : isLimited batchSize diagnostics = true) :
    diagnostics ≠ [] := by
  rintro rfl
  simp [isLimited] at limited

section

variable (plugins : engine.FunctionalPlugins) (analyzers : catalog.analyzers ⊆ engine.analyzers)
  (fixers : catalog.fixers ⊆ engine.fixers) (running : session.cancellation.isRequested = false)
  (present : session.workspace.snapshot? unitId = some unit)

include plugins analyzers fixers running present

/-- A pass that finds something and chooses an action with edits comes to what the workspace says to
them. -/
theorem pass_of_chooses (sees : engine.Sees catalog id unit diagnostics) (found : diagnostics ≠ [])
    (fresh : Diagnostic.sameFindings diagnostics state.previous = false)
    (chooses : engine.Chooses catalog id unit (batchOf engine.config.batchSize diagnostics) action)
    (edits : action.edits ≠ []) :
    ∃ prepared, prepared.Stands session.workspace ∧ ∀ landed after,
      offer unit action.edits prepared = .ok landed after →
      ∃ journal, engine.pass unitId catalog id state session = .ok
        (if landed then
          afterLanding (isLimited engine.config.batchSize diagnostics) diagnostics state
        else afterConflict state) { after with journal } := by
  obtain ⟨survey, middle, examined, builds, same, stands⟩ :=
    examine_of_sees plugins analyzers running sees
  obtain rfl := (examine_eq_ok.mp examined).1
  subst same
  have inspected := inspect_eq_ok.mpr ⟨running, present, examined⟩
  obtain ⟨prepared, chose, still⟩ := choice_of_chooses plugins fixers stands.running chooses
  rw [stands.workspace] at still
  refine ⟨prepared, still, fun landed after offered => ?_⟩
  rw [pass_eq, bind_of_ok inspected, settle, if_neg (by simpa using builds),
    if_neg (by simpa using found), if_neg (by simpa using fresh), fixBatch_eq, bind_of_ok chose]
  exact commit_of_offer edits offered

theorem pass_of_fits (sees : engine.Sees catalog id unit diagnostics) (found : diagnostics ≠ [])
    (fresh : Diagnostic.sameFindings diagnostics state.previous = false)
    (chooses : engine.Chooses catalog id unit (batchOf engine.config.batchSize diagnostics) action)
    (edits : action.edits ≠ []) (fits : unit.withEdits action.edits = .ok next) :
    ∃ last, engine.pass unitId catalog id state session =
        .ok (afterLanding (isLimited engine.config.batchSize diagnostics) diagnostics state) last ∧
      last.cancellation.isRequested = false ∧
      last.workspace.snapshot? unitId = some next := by
  obtain ⟨prepared, stands, comes⟩ :=
    pass_of_chooses plugins analyzers fixers running present sees found fresh chooses edits
  obtain rfl := Workspace.id_of_snapshot? present
  obtain ⟨after, offered, signal, landed⟩ := offer_of_fits (stands.workspace ▸ present) fits
  obtain ⟨journal, passed⟩ := comes true after offered
  exact ⟨_, passed, signal ▸ stands.running, landed⟩

theorem pass_of_continues
    (continues : engine.Continues catalog id (unit, state.previous) (next, diagnostics)) :
    ∃ last, engine.pass unitId catalog id state session =
        .ok (.again { state with previous := diagnostics, batches := state.batches + 1 }) last ∧
      last.cancellation.isRequested = false ∧
      last.workspace.snapshot? unitId = some next := by
  obtain ⟨sees, fresh, limited, action, chooses, edits, fits⟩ := continues
  obtain ⟨last, passed, stands⟩ := pass_of_fits plugins analyzers fixers running present sees
    (ne_nil_of_isLimited limited) fresh chooses edits fits
  refine ⟨last, ?_, stands⟩
  rw [passed, afterLanding, if_pos limited]

theorem pass_of_rejects (rejects : engine.Rejects catalog id unit state.previous diagnostics) :
    ∃ last, engine.pass unitId catalog id state session = .ok (afterConflict state) last ∧
      last.Stands session.workspace := by
  obtain ⟨sees, found, fresh, action, fault, chooses, edits, misfits⟩ := rejects
  obtain ⟨prepared, stands, comes⟩ :=
    pass_of_chooses plugins analyzers fixers running present sees found fresh chooses edits
  obtain rfl := Workspace.id_of_snapshot? present
  obtain ⟨after, offered, signal, same⟩ := offer_of_misfits (stands.workspace ▸ present) misfits
  obtain ⟨journal, passed⟩ := comes false after offered
  exact ⟨_, passed, signal ▸ stands.running, same.trans stands.workspace⟩

/-- A pass ends the passes, lands a limited batch, or has its edits rejected. -/
theorem pass_cases (state : PassState) :
    (∃ outcome last, engine.pass unitId catalog id state session = .ok (.done outcome) last) ∨
      (∃ next diagnostics,
        engine.Continues catalog id (unit, state.previous) (next, diagnostics)) ∨
      ∃ diagnostics, engine.Rejects catalog id unit state.previous diagnostics := by
  obtain ⟨survey, middle, examined, stands⟩ :=
    exists_examine plugins analyzers running unit id
  obtain rfl := (examine_eq_ok.mp examined).1
  have inspected := inspect_eq_ok.mpr ⟨running, present, examined⟩
  rw [pass_eq, bind_of_ok inspected, settle]
  split
  · exact .inl ⟨_, _, rfl⟩
  rename_i builds
  have builds : survey.errors = [] := by simpa using builds
  split
  · exact .inl ⟨_, _, rfl⟩
  rename_i nonempty
  have found : survey.diagnostics ≠ [] := by simpa using nonempty
  split
  · exact .inl ⟨_, _, rfl⟩
  rename_i new
  have fresh : Diagnostic.sameFindings survey.diagnostics state.previous = false := by
    simpa using new
  have sees : engine.Sees catalog id survey.unit survey.diagnostics :=
    ⟨session, middle, survey, running, examined, builds, rfl⟩
  obtain ⟨answer, prepared, chose, still⟩ := exists_choice plugins fixers stands.running
    survey.unit id (batchOf engine.config.batchSize survey.diagnostics)
  rw [fixBatch_eq, bind_of_ok chose]
  rcases answer with ambiguity | _ | action
  · exact .inl ⟨_, _, rfl⟩
  · exact .inl ⟨_, _, rfl⟩
  · have chooses : engine.Chooses catalog id survey.unit _ action :=
      ⟨middle, prepared, stands.running, chose⟩
    by_cases edits : action.edits = []
    · exact .inl ⟨_, _, commit_of_empty edits⟩
    cases edited : survey.unit.withEdits action.edits with
    | error fault =>
      exact .inr (.inr ⟨_, sees, found, fresh, action, fault, chooses, edits, edited⟩)
    | ok next =>
      -- Edits that land end the passes, unless there was more to fix than they were made for.
      by_cases limited : isLimited engine.config.batchSize survey.diagnostics = true
      · exact .inr (.inl ⟨next, _, sees, fresh, limited, action, chooses, edits, edited⟩)
      obtain rfl := Workspace.id_of_snapshot? present
      rw [← stands.workspace, ← still.workspace] at present
      obtain ⟨after, offered, -⟩ := offer_of_fits present edited
      obtain ⟨journal, committed⟩ := commit_of_offer edits offered
      rw [if_pos rfl, afterLanding, if_neg limited] at committed
      exact .inl ⟨_, _, committed⟩

end

/-- The report of a rejected pass is forgotten, so the next pass is rejected again. -/
theorem Rejects.again {previous : List Diagnostic}
    (rejects : engine.Rejects catalog id unit previous diagnostics) :
    engine.Rejects catalog id unit [] diagnostics :=
  { rejects with fresh := Diagnostic.not_sameFindings_nil rejects.found }

section

variable (plugins : engine.FunctionalPlugins) (analyzers : catalog.analyzers ⊆ engine.analyzers)
  (fixers : catalog.fixers ⊆ engine.fixers)

include plugins analyzers fixers

/-- Passes end after a rejection. -/
theorem passes_of_rejects (running : session.cancellation.isRequested = false)
    (present : session.workspace.snapshot? unitId = some unit)
    (rejects : engine.Rejects catalog id unit state.previous diagnostics) :
    ∃ limit outcome last,
      engine.passes unitId catalog id limit state session = .ok outcome last := by
  obtain ⟨middle, passed, stands⟩ :=
    pass_of_rejects plugins analyzers fixers running present rejects
  rw [← stands.workspace] at present
  unfold afterConflict at passed
  split at passed
  · exact ⟨1, _, middle, bind_of_ok passed⟩
  · let retrying : PassState := { previous := [], batches := state.batches, retried := true }
    have again : engine.Rejects catalog id unit retrying.previous diagnostics := rejects.again
    obtain ⟨last, ended, -⟩ :=
      pass_of_rejects plugins analyzers fixers stands.running present again
    exact ⟨2, _, last, (bind_of_ok passed).trans (bind_of_ok ended)⟩

/-- Passes end if there is no way for limited batches to land for ever. -/
theorem passes_end {pending : SourceUnit × List Diagnostic}
    (accessible : Acc (fun later earlier => engine.Continues catalog id earlier later) pending) :
    ∀ (state : PassState) (session : Session σ), session.cancellation.isRequested = false →
      session.workspace.snapshot? unitId = some pending.1 → state.previous = pending.2 →
      ∃ limit outcome last,
        engine.passes unitId catalog id limit state session = .ok outcome last := by
  induction accessible with
  | intro pending _ ih =>
    intro state session running present same
    rcases pass_cases plugins analyzers fixers running present state with
      ⟨outcome, last, ended⟩ | ⟨next, diagnostics, continues⟩ | ⟨diagnostics, rejects⟩
    · exact ⟨1, outcome, last, bind_of_ok ended⟩
    · obtain ⟨middle, passed, still, landed⟩ :=
        pass_of_continues plugins analyzers fixers running present continues
      rw [same] at continues
      obtain ⟨limit, outcome, last, ended⟩ := ih (next, diagnostics) continues
        { state with previous := diagnostics, batches := state.batches + 1 } middle still landed rfl
      exact ⟨limit + 1, outcome, last, (bind_of_ok passed).trans ended⟩
    · exact passes_of_rejects plugins analyzers fixers running present rejects

/-- Passes are not finished, however many are made, if limited batches land for ever. -/
theorem passes_unfinished {history : Nat → SourceUnit × List Diagnostic}
    (continues : ∀ n, engine.Continues catalog id (history n) (history (n + 1))) (limit : Nat) :
    ∀ (n : Nat) (state : PassState) (session : Session σ),
      session.cancellation.isRequested = false →
      session.workspace.snapshot? unitId = some (history n).1 → state.previous = (history n).2 →
      ∃ last, engine.passes unitId catalog id limit state session = .error .unfinished last := by
  induction limit with
  | zero =>
    intro n state session running present same
    rw [passes_zero, running]
    exact ⟨session, rfl⟩
  | succ limit ih =>
    intro n state session running present same
    have step := continues n
    rw [← Prod.eta (history n), ← same] at step
    obtain ⟨middle, passed, still, landed⟩ :=
      pass_of_continues plugins analyzers fixers running present step
    obtain ⟨last, unfinished⟩ := ih (n + 1)
      { state with previous := (history (n + 1)).2, batches := state.batches + 1 } middle still
      landed rfl
    exact ⟨last, (bind_of_ok passed).trans unfinished⟩

theorem fixDiagnostic_unfinished {history : Nat → SourceUnit × List Diagnostic}
    (continues : ∀ n, engine.Continues catalog id (history n) (history (n + 1)))
    (first : history 0 = (unit, [])) (running : session.cancellation.isRequested = false)
    (present : session.workspace.snapshot? unitId = some unit) (limit : Nat) :
    ∃ last, (engine.withLimit limit).fixDiagnostic unitId catalog id session =
      .error .unfinished last := by
  rw [fixDiagnostic_withLimit]
  exact passes_unfinished plugins analyzers fixers continues limit 0 _ _ running
    (by rw [first, present]) (by rw [first])

/-- If plugins are functions of what they are given, fixing an identifier ends in an uncancelled
session, after some number of passes, exactly if limited batches cannot land for ever, each report
with other findings than the one before it. -/
theorem fixDiagnostic_ends_iff (running : session.cancellation.isRequested = false)
    (present : session.workspace.snapshot? unitId = some unit) :
    (∃ limit outcome last,
        (engine.withLimit limit).fixDiagnostic unitId catalog id session = .ok outcome last) ↔
      ¬ ∃ history : Nat → SourceUnit × List Diagnostic, history 0 = (unit, []) ∧
        ∀ n, engine.Continues catalog id (history n) (history (n + 1)) := by
  constructor
  · rintro ⟨limit, outcome, last, ended⟩ ⟨history, first, continues⟩
    obtain ⟨_, unfinished⟩ := fixDiagnostic_unfinished plugins analyzers fixers continues first
      running present limit
    cases ended.symm.trans unfinished
  · intro bounded
    have accessible : Acc (fun later earlier => engine.Continues catalog id earlier later)
        (unit, []) := by
      by_contra endless
      exact bounded (not_acc_iff_exists_descending_chain.mp endless)
    simp only [fixDiagnostic_withLimit]
    exact passes_end plugins analyzers fixers accessible _ _ running present rfl

end

end Engine

namespace Swaying

/-! Two findings sway: the fix for the first of them moves both one place on, and then back. -/

def offers : Offers Unit := fun diagnostic _ =>
  if diagnostic.location.start = 0 then Letters.offer diagnostic 0 0 [' ']
  else Letters.offer diagnostic 0 1 []

def engine : Engine Unit where
  analyzers := [Letters.analyzer 'p']
  fixers := [Letters.fixer offers]
  compiler := { type := "Silent", package := "plugins", compile := fun _ => .answer [] }
  formatter := Formatting.whitespace
  config := { (default : Config) with batchSize := 1 }
  passLimit := 4

def catalog : Catalog Unit := engine.catalog (Letters.source [])

theorem functionalPlugins : engine.FunctionalPlugins := by
  have offered (diagnostic : Diagnostic) (unit : SourceUnit) :
      ∀ candidate ∈ offers diagnostic unit, candidate.IsFunction := by
    unfold offers
    intro candidate member
    split at member <;> obtain rfl := List.mem_singleton.mp member <;>
      exact ⟨_, fun _ => ⟨rfl, rfl, rfl⟩⟩
  exact {
    compiler := fun _ => ⟨_, fun _ => ⟨rfl, rfl, rfl⟩⟩
    analyzers := fun analyzer member unit => by
      obtain rfl := List.mem_singleton.mp member
      exact ⟨_, fun _ => ⟨rfl, rfl, rfl⟩⟩
    offers := fun fixer able diagnostic unit => by
      obtain rfl := List.mem_singleton.mp able
      exact offered diagnostic unit
    fixAll := fun fixer able context => by
      obtain rfl := List.mem_singleton.mp able
      exact Callback.IsFunction.closed.fixAll fun diagnostic => offered diagnostic _ }

/-- With a single finding there is no limited batch, and passes end. -/
theorem fixDiagnostic_ends_single :
    (∃ limit outcome last, (engine.withLimit limit).fixDiagnostic "a" catalog "X1"
        (Letters.session ['p']) = .ok outcome last) ∧
      ¬ ∃ history : Nat → SourceUnit × List Diagnostic,
        history 0 = (Letters.source ['p'], []) ∧
          ∀ n, engine.Continues catalog "X1" (history n) (history (n + 1)) := by
  have evaluated : Run.peek? (fun _ _ => ()) ((engine.withLimit 1).fixDiagnostic "a" catalog "X1"
      (Letters.session ['p'])) = some () := by cbv
  obtain ⟨outcome, last, ran, -⟩ := Run.peek?_eq_some.mp evaluated
  have running : (Letters.session ['p']).cancellation.isRequested = false := rfl
  have present : (Letters.session ['p']).workspace.snapshot? "a" = some (Letters.source ['p']) :=
    rfl
  exact ⟨⟨1, outcome, last, ran⟩, (Engine.fixDiagnostic_ends_iff functionalPlugins
    (engine.analyzers_catalog _) (engine.fixers_catalog _) running present).mp
      ⟨1, outcome, last, ran⟩⟩

def text (moved : Bool) : Text := if moved then [' ', 'p', 'p'] else ['p', 'p']

def unit (moved : Bool) (version : Int) : SourceUnit := { Letters.source (text moved) with version }

def seen (moved : Bool) : List Diagnostic :=
  Letters.diagnostics Letters.descriptor .analyzer 'p' (Letters.source (text moved))

def action (moved : Bool) : FixAction where
  title := "Fix all 'X1'"
  key := "X1"
  edits := if moved then [⟨"a", 0, 1, []⟩] else [⟨"a", 0, 0, [' ']⟩]

theorem sees (moved : Bool) (version : Int) :
    engine.Sees catalog "X1" (unit moved version) (seen moved) := by
  have evaluated : Run.peek? (fun survey _ => (survey.errors, survey.diagnostics))
      (engine.examine (unit moved version) (engine.occurrences (unit moved version) catalog "X1")
        (Letters.session [])) = some ([], seen moved) := by
    cases moved <;> cbv
  obtain ⟨survey, after, examined, found⟩ := Run.peek?_eq_some.mp evaluated
  obtain ⟨builds, found⟩ := Prod.mk.inj found
  exact ⟨_, after, survey, rfl, examined, builds, found⟩

theorem chooses (moved : Bool) (version : Int) :
    engine.Chooses catalog "X1" (unit moved version) (Engine.batchOf 1 (seen moved))
      (action moved) := by
  have evaluated : Run.peek? (fun answer _ => answer) (engine.choice (unit moved version) catalog
      "X1" (Engine.batchOf 1 (seen moved)) (Letters.session [])) =
      some (.ok (some (action moved))) := by
    cases moved <;> cbv
  obtain ⟨answer, after, chose, rfl⟩ := Run.peek?_eq_some.mp evaluated
  exact ⟨_, after, rfl, chose⟩

theorem withEdits_unit (moved : Bool) (version : Int) :
    (unit moved version).withEdits (action moved).edits = .ok (unit (!moved) (version + 1)) := by
  cases moved <;> cbv

/-- Whether the findings stand one place on after so many passes. -/
def isMoved : Nat → Bool
  | 0 => false
  | n + 1 => !isMoved n

/-- The snapshots, each with the report of the pass before it. -/
def history : Nat → SourceUnit × List Diagnostic
  | 0 => (unit false 0, [])
  | n + 1 => (unit (isMoved (n + 1)) (n + 1), seen (isMoved n))

theorem history_continues (n : Nat) :
    engine.Continues catalog "X1" (history n) (history (n + 1)) := by
  have current : (history n).1 = unit (isMoved n) n := by cases n <;> rfl
  constructor
  case sees => exact current ▸ sees (isMoved n) n
  case fresh =>
    cases n with
    | zero => exact Diagnostic.not_sameFindings_nil (by decide)
    | succ n =>
      change Diagnostic.sameFindings (seen (!isMoved n)) (seen (isMoved n)) = false
      cases isMoved n <;> decide
  case limited =>
    change Engine.isLimited 1 (seen (isMoved n)) = true
    cases isMoved n <;> decide
  case lands =>
    rw [current]
    refine ⟨action (isMoved n), chooses (isMoved n) n, ?_, withEdits_unit (isMoved n) n⟩
    cases isMoved n <;> decide

/-- However many passes are made, they do not come to an end. -/
theorem fixDiagnostic_never_ends :
    engine.FunctionalPlugins ∧ 0 < engine.config.batchSize ∧
      (Letters.session ['p', 'p']).cancellation.isRequested = false ∧
      ∀ limit, ∃ last, (engine.withLimit limit).fixDiagnostic "a" catalog "X1"
        (Letters.session ['p', 'p']) = .error .unfinished last :=
  ⟨functionalPlugins, by decide, rfl,
    Engine.fixDiagnostic_unfinished functionalPlugins (engine.analyzers_catalog _)
      (engine.fixers_catalog _) history_continues rfl rfl rfl⟩

end Swaying

end FixLoop
