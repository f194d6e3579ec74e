import FixLoop.Proofs.Session.Survey

/-!
The course of passes over one identifier. A pass first inspects the unit and then, unless nothing is
left to do, fixes a batch by one action. Passes that end are some that ask for another and one that
does not.
-/

namespace FixLoop

namespace Engine

open Run

variable {σ : Type}

section

variable {batchSize : Nat} {diagnostics : List Diagnostic}

theorem batchOf_sublist :
    (batchOf batchSize diagnostics).Sublist diagnostics := by
  unfold batchOf
  split
  · exact List.take_sublist _ _
  · exact .refl _

theorem batchOf_ne_nil (found : diagnostics ≠ []) :
    batchOf batchSize diagnostics ≠ [] := by
  unfold batchOf isLimited
  split
  · rename_i limited
    simp only [Bool.and_eq_true, decide_eq_true_eq] at limited
    simpa [Nat.ne_of_gt limited.1] using found
  · exact found

end

/-- The selection of the action for a batch, from the notes about the batch on. -/
def choice (engine : Engine σ) (unit : SourceUnit) (catalog : Catalog σ) (id : String)
    (batch : List Diagnostic) : Run σ (Except Ambiguity (Option FixAction)) := do
  note (.fixing batch.length id (batchTitle batch))
  batch.forM fun diagnostic => note (.listed diagnostic)
  engine.selectFix unit catalog id batch

/-- What a pass comes to when its edits were rejected. -/
def afterConflict (state : PassState) : PassResult :=
  if state.retried then .done ⟨state.batches, .conflict⟩
  else .again { previous := [], batches := state.batches, retried := true }

/-- What a pass comes to when its edits landed; a limited batch leaves some for another pass. -/
def afterLanding (limited : Bool) (diagnostics : List Diagnostic) (state : PassState) :
    PassResult :=
  if limited then .again { state with previous := diagnostics, batches := state.batches + 1 }
  else .done ⟨state.batches + 1, .fixed⟩

/-- What is done with the action that was chosen for a batch. -/
def commit (unit : SourceUnit) (id : String) (limited : Bool) (diagnostics : List Diagnostic)
    (state : PassState) : Except Ambiguity (Option FixAction) → Run σ PassResult
  | .error ambiguity => return .done ⟨state.batches, .ambiguous ambiguity⟩
  | .ok none => return .done ⟨state.batches, .noAction⟩
  | .ok (some action) => do
    match ← apply unit action with
    | .noChanges => return .done ⟨state.batches, .emptyAction action.title⟩
    | .conflict => return afterConflict state
    | .applied =>
      note (.fixed id unit.id)
      return afterLanding limited diagnostics state

/-- What a pass does about what it found. -/
def settle (engine : Engine σ) (catalog : Catalog σ) (id : String) (state : PassState)
    (survey : Survey) : Run σ PassResult := do
  if !survey.errors.isEmpty then return .done ⟨state.batches, .buildFailed survey.errors⟩
  if survey.diagnostics.isEmpty then
    return .done ⟨state.batches, if state.batches = 0 then .nothingToFix else .fixed⟩
  if Diagnostic.sameFindings survey.diagnostics state.previous then
    return .done ⟨state.batches, .stalled survey.diagnostics.length⟩
  engine.fixBatch survey.unit catalog id survey.diagnostics state

/-- How fixing the batch of a pass can go. -/
inductive BatchStep (engine : Engine σ) (unit : SourceUnit) (catalog : Catalog σ) (id : String)
    (diagnostics : List Diagnostic) (state : PassState) (session : Session σ) :
    PassResult → Session σ → Prop where
  | ambiguous {ambiguity : Ambiguity} {after : Session σ}
      (chose : engine.choice unit catalog id (batchOf engine.config.batchSize diagnostics) session =
        .ok (.error ambiguity) after) :
    BatchStep engine unit catalog id diagnostics state session
      (.done ⟨state.batches, .ambiguous ambiguity⟩) after
  | noAction {after : Session σ}
      (chose : engine.choice unit catalog id (batchOf engine.config.batchSize diagnostics) session =
        .ok (.ok none) after) :
    BatchStep engine unit catalog id diagnostics state session (.done ⟨state.batches, .noAction⟩)
      after
  | emptyAction {action : FixAction} {after : Session σ}
      (chose : engine.choice unit catalog id (batchOf engine.config.batchSize diagnostics) session =
        .ok (.ok (some action)) after)
      (empty : action.edits = []) :
    BatchStep engine unit catalog id diagnostics state session
      (.done ⟨state.batches, .emptyAction action.title⟩) after
  | rejected {action : FixAction} {middle after : Session σ}
      (chose : engine.choice unit catalog id (batchOf engine.config.batchSize diagnostics) session =
        .ok (.ok (some action)) middle)
      (edits : action.edits ≠ [])
      (offered : offer unit action.edits middle = .ok false after) :
    BatchStep engine unit catalog id diagnostics state session (afterConflict state)
      { after with
        journal := .rejected action.title unit.displayName unit.version :: after.journal }
  | landed {action : FixAction} {middle after : Session σ}
      (chose : engine.choice unit catalog id (batchOf engine.config.batchSize diagnostics) session =
        .ok (.ok (some action)) middle)
      (edits : action.edits ≠ [])
      (offered : offer unit action.edits middle = .ok true after) :
    BatchStep engine unit catalog id diagnostics state session
      (afterLanding (isLimited engine.config.batchSize diagnostics) diagnostics state)
      { after with
        journal := .fixed id unit.id ::
          .applied action.title action.edits.length unit.displayName :: after.journal }

/-- How one pass can go. -/
inductive PassStep (engine : Engine σ) (unitId : String) (catalog : Catalog σ) (id : String)
    (state : PassState) (session : Session σ) : PassResult → Session σ → Prop where
  | broken {survey : Survey} {after : Session σ}
      (inspected : engine.inspect unitId catalog id session = .ok survey after)
      (blocked : survey.errors ≠ []) :
    PassStep engine unitId catalog id state session
      (.done ⟨state.batches, .buildFailed survey.errors⟩) after
  | cleared {survey : Survey} {after : Session σ}
      (inspected : engine.inspect unitId catalog id session = .ok survey after)
      (builds : survey.errors = []) (empty : survey.diagnostics = []) :
    PassStep engine unitId catalog id state session
      (.done ⟨state.batches, if state.batches = 0 then .nothingToFix else .fixed⟩) after
  | stalled {survey : Survey} {after : Session σ}
      (inspected : engine.inspect unitId catalog id session = .ok survey after)
      (builds : survey.errors = []) (found : survey.diagnostics ≠ [])
      (repeated : Diagnostic.sameFindings survey.diagnostics state.previous = true) :
    PassStep engine unitId catalog id state session
      (.done ⟨state.batches, .stalled survey.diagnostics.length⟩) after
  | acted {survey : Survey} {middle after : Session σ} {result : PassResult}
      (inspected : engine.inspect unitId catalog id session = .ok survey middle)
      (builds : survey.errors = []) (found : survey.diagnostics ≠ [])
      (fresh : Diagnostic.sameFindings survey.diagnostics state.previous = false)
      (fixed : engine.BatchStep survey.unit catalog id survey.diagnostics state middle result
        after) :
    PassStep engine unitId catalog id state session result after

/-- Passes over an identifier that come to an end. -/
inductive Passing (engine : Engine σ) (unitId : String) (catalog : Catalog σ) (id : String) :
    PassState → Session σ → FixOutcome → Session σ → Prop where
  | done {state : PassState} {session last : Session σ} {outcome : FixOutcome}
      (step : PassStep engine unitId catalog id state session (.done outcome) last) :
    Passing engine unitId catalog id state session outcome last
  | again {state next : PassState} {session middle last : Session σ} {outcome : FixOutcome}
      (step : PassStep engine unitId catalog id state session (.again next) middle)
      (later : Passing engine unitId catalog id next middle outcome last) :
    Passing engine unitId catalog id state session outcome last

variable {engine : Engine σ} {unitId id : String} {catalog : Catalog σ} {unit : SourceUnit}
  {diagnostics : List Diagnostic} {state : PassState} {session last : Session σ}
  {result : PassResult} {outcome : FixOutcome}

theorem fixBatch_eq :
    engine.fixBatch unit catalog id diagnostics state =
      engine.choice unit catalog id (batchOf engine.config.batchSize diagnostics) >>=
        commit unit id (isLimited engine.config.batchSize diagnostics) diagnostics state := by
  simp only [fixBatch, choice, bind_assoc]
  congr 1
  funext _
  congr 1
  funext _
  congr 1
  funext answer
  match answer with
  | .error ambiguity => rfl
  | .ok none => rfl
  | .ok (some action) =>
    simp only [commit]
    congr 1
    funext status
    cases status with
    | noChanges => rfl
    | conflict =>
      unfold afterConflict
      dsimp only
      split <;> rfl
    | applied =>
      unfold afterLanding
      dsimp only
      congr 1
      funext _
      split <;> rfl

theorem pass_eq :
    engine.pass unitId catalog id state =
      engine.inspect unitId catalog id >>= engine.settle catalog id state := by
  simp only [pass, inspect, examine, bind_assoc]
  congr 1
  funext _
  congr 1
  funext unit
  congr 1
  funext compilerDiagnostics
  congr 1
  funext errors
  split
  · rename_i blocked
    simp only [pure_bind, settle, if_pos blocked]
  · simp only [bind_assoc, pure_bind]
    rfl

theorem batch_of_ok
    (ran : engine.fixBatch unit catalog id diagnostics state session = .ok result last) :
    engine.BatchStep unit catalog id diagnostics state session result last := by
  rw [fixBatch_eq] at ran
  obtain ⟨answer, middle, chose, ran⟩ := bind_eq_ok.mp ran
  match answer, chose, ran with
  | .error ambiguity, chose, ran =>
    obtain ⟨rfl, rfl⟩ := pure_eq_ok.mp ran
    exact .ambiguous chose
  | .ok none, chose, ran =>
    obtain ⟨rfl, rfl⟩ := pure_eq_ok.mp ran
    exact .noAction chose
  | .ok (some action), chose, ran =>
    obtain ⟨status, applied, tried, ran⟩ := bind_eq_ok.mp ran
    unfold Engine.apply at tried
    split at tried
    · rename_i empty
      obtain ⟨rfl, rfl⟩ := pure_eq_ok.mp tried
      obtain ⟨rfl, rfl⟩ := pure_eq_ok.mp ran
      exact .emptyAction chose (by simpa using empty)
    rename_i nonempty
    have edits : action.edits ≠ [] := by simpa using nonempty
    obtain ⟨landed, offered, offering, tried⟩ := bind_eq_ok.mp tried
    cases landed with
    | true =>
      obtain ⟨_, _, noted, tried⟩ := bind_eq_ok.mp tried
      cases noted
      obtain ⟨rfl, rfl⟩ := pure_eq_ok.mp tried
      obtain ⟨_, _, noted, ran⟩ := bind_eq_ok.mp ran
      cases noted
      obtain ⟨rfl, rfl⟩ := pure_eq_ok.mp ran
      exact .landed chose edits offering
    | false =>
      obtain ⟨_, _, noted, tried⟩ := bind_eq_ok.mp tried
      cases noted
      obtain ⟨rfl, rfl⟩ := pure_eq_ok.mp tried
      obtain ⟨rfl, rfl⟩ := pure_eq_ok.mp ran
      exact .rejected chose edits offering

theorem pass_of_ok (ran : engine.pass unitId catalog id state session = .ok result last) :
    engine.PassStep unitId catalog id state session result last := by
  rw [pass_eq] at ran
  obtain ⟨survey, middle, inspected, ran⟩ := bind_eq_ok.mp ran
  unfold settle at ran
  split at ran
  · rename_i blocked
    obtain ⟨rfl, rfl⟩ := pure_eq_ok.mp ran
    exact .broken inspected (by simpa using blocked)
  rename_i builds
  have builds : survey.errors = [] := by simpa using builds
  split at ran
  · rename_i empty
    obtain ⟨rfl, rfl⟩ := pure_eq_ok.mp ran
    exact .cleared inspected builds (by simpa using empty)
  rename_i nonempty
  have found : survey.diagnostics ≠ [] := by simpa using nonempty
  split at ran
  · rename_i repeated
    obtain ⟨rfl, rfl⟩ := pure_eq_ok.mp ran
    exact .stalled inspected builds found repeated
  · rename_i fresh
    exact .acted inspected builds found (by simpa using fresh) (batch_of_ok ran)

/-- A pass that fails has gone no further than to the choice of an action. -/
theorem pass_of_error {fault : Fault}
    (failed : engine.pass unitId catalog id state session = .error fault last) :
    engine.inspect unitId catalog id session = .error fault last ∨
      ∃ survey middle, engine.inspect unitId catalog id session = .ok survey middle ∧
        survey.errors = [] ∧ last = final (engine.choice survey.unit catalog id
          (batchOf engine.config.batchSize survey.diagnostics) middle) := by
  rw [pass_eq] at failed
  rcases bind_eq_error.mp failed with failed | ⟨survey, middle, inspected, failed⟩
  · exact .inl failed
  right
  unfold settle at failed
  split at failed
  · cases failed
  rename_i builds
  refine ⟨survey, middle, inspected, by simpa using builds, ?_⟩
  split at failed
  · cases failed
  split at failed
  · cases failed
  rw [fixBatch_eq] at failed
  rcases bind_eq_error.mp failed with failed | ⟨answer, chosen, chose, failed⟩
  · rw [failed]
    rfl
  rw [chose]
  match answer, failed with
  | .ok (some action), failed =>
    rcases bind_eq_error.mp failed with failed | ⟨status, _, -, failed⟩
    · unfold Engine.apply at failed
      split at failed
      · cases failed
      rcases bind_eq_error.mp failed with failed | ⟨landed, _, -, failed⟩
      · exact offer_eq_error failed
      · cases landed <;> cases failed
    · cases status <;> cases failed

theorem passing_of_ok {limit : Nat}
    (ran : engine.passes unitId catalog id limit state session = .ok outcome last) :
    engine.Passing unitId catalog id state session outcome last := by
  induction limit generalizing state session with
  | zero =>
    rw [passes_zero] at ran
    cases ran
  | succ limit ih =>
    obtain ⟨result, middle, passed, ran⟩ := bind_eq_ok.mp ran
    cases result with
    | done ended =>
      obtain ⟨rfl, rfl⟩ := pure_eq_ok.mp ran
      exact .done (pass_of_ok passed)
    | again next => exact .again (pass_of_ok passed) (ih ran)

/-- Passes end in one that asks for no other. -/
theorem Passing.ends (passing : engine.Passing unitId catalog id state session outcome last) :
    ∃ state session, engine.PassStep unitId catalog id state session (.done outcome) last := by
  induction passing with
  | done step => exact ⟨_, _, step⟩
  | again step later ih => exact ih

/-- Choosing an action keeps what selecting a fix and remarks on it keep. -/
theorem choice_keeps {inv : Session σ → Prop} {allowed : Fault → Session σ → Prop}
    {batch : List Diagnostic}
    (remark : ∀ event : Event, event.isRemark = true → ∀ session, inv session →
      inv { session with journal := event :: session.journal })
    (selects : engine.Selects unit id batch fun _ step => step.Keeps inv (orAmbiguous allowed))
    (members : catalog.fixers ⊆ engine.fixers) :
    (engine.choice unit catalog id batch).Keeps inv allowed := by
  refine (Keeps.note (remark _ rfl)).bind fun _ => ?_
  refine (Keeps.forM fun _ _ => .note (remark _ rfl)).bind fun _ => ?_
  exact selectFix_keeps selects members

/-- The action that is chosen is what a fixer of the identifier makes of the batch. -/
theorem combined_of_choice {batch : List Diagnostic} {action : FixAction}
    (chose : engine.choice unit catalog id batch session = .ok (.ok (some action)) last) :
    ∃ fixer ∈ catalog.fixersOf id, ∃ key before,
      (fixer.fixAll { unit, id, key, diagnostics := batch }).carryOut before =
        (.ok (some action), last) := by
  obtain ⟨_, _, -, chose⟩ := bind_eq_ok.mp chose
  obtain ⟨_, middle, -, chose⟩ := bind_eq_ok.mp chose
  unfold selectFix at chose
  cases ran : Selection.select engine.config id batch (catalog.fixersOf id) unit middle with
  | ok selected after =>
    rw [ran] at chose
    cases chose
    exact Selection.combined_of_select ran
  | error fault after =>
    rw [ran] at chose
    cases fault <;> cases chose

/-- A batch was found and the unit builds, so passes that end with it do not end for want of
either. -/
theorem BatchStep.ending_ne
    (step : engine.BatchStep unit catalog id diagnostics state session (.done outcome) last) :
    outcome.ending ≠ .nothingToFix ∧ ∀ errors, outcome.ending ≠ .buildFailed errors := by
  generalize same : PassResult.done outcome = result at step
  cases step with
  | rejected chose edits offered =>
    unfold afterConflict at same
    split at same <;> cases same
    exact ⟨nofun, nofun⟩
  | landed chose edits offered =>
    unfold afterLanding at same
    split at same <;> cases same
    exact ⟨nofun, nofun⟩
  | _ =>
    cases same
    exact ⟨nofun, nofun⟩

/-- A build failure is reported with the errors that were found. -/
theorem PassStep.errors_ne_nil {errors : List Diagnostic}
    (step : engine.PassStep unitId catalog id state session (.done outcome) last)
    (failed : outcome.ending = .buildFailed errors) : errors ≠ [] := by
  generalize same : PassResult.done outcome = result at step
  cases step with
  | broken inspected blocked =>
    cases same
    cases failed
    exact blocked
  | cleared inspected builds empty =>
    cases same
    split at failed <;> cases failed
  | stalled inspected builds found repeated =>
    cases same
    cases failed
  | acted inspected builds found fresh fixed =>
    cases same
    exact absurd failed (fixed.ending_ne.2 errors)

theorem errors_ne_nil_of_fixDiagnostic {errors : List Diagnostic}
    (ran : engine.fixDiagnostic unitId catalog id session = .ok outcome last)
    (failed : outcome.ending = .buildFailed errors) : errors ≠ [] := by
  obtain ⟨_, _, step⟩ := (passing_of_ok ran).ends
  exact step.errors_ne_nil failed

/-! ### What editing comes to -/

theorem offer_of_fits {edits : List TextEdit}
    (present : session.workspace.snapshot? unit.id = some unit)
    (fits : unit.withEdits edits = .ok next) :
    ∃ after, offer unit edits session = .ok true after ∧
      after.cancellation = session.cancellation ∧
      after.workspace.snapshot? unit.id = some next := by
  have tried := Workspace.tryEdit_eq_landed.mpr ⟨unit, next, present, rfl, fits, rfl⟩
  obtain ⟨current, edited, found, -, given, after, -⟩ := Workspace.snapshot?_of_landed tried
  cases present.symm.trans found
  cases fits.symm.trans given
  exact ⟨_, offer_eq_ok.mpr ⟨_, tried, rfl⟩, rfl, after⟩

theorem offer_of_misfits {edits : List TextEdit} {fault : EditFault}
    (present : session.workspace.snapshot? unit.id = some unit)
    (misfits : unit.withEdits edits = .error fault) :
    ∃ after, offer unit edits session = .ok false after ∧
      after.cancellation = session.cancellation ∧ after.workspace = session.workspace := by
  have tried : session.workspace.tryEdit unit.id unit.version edits =
      .ok (false, session.workspace) := by
    simp only [Workspace.tryEdit, present, misfits, ne_eq, not_true_eq_false, if_false]
  exact ⟨_, offer_eq_ok.mpr ⟨_, tried, rfl⟩, rfl, rfl⟩

/-- What is noted about edits that were offered. -/
def notesOf (unit : SourceUnit) (id : String) (action : FixAction) (landed : Bool) : List Event :=
  if landed then [.fixed id unit.id, .applied action.title action.edits.length unit.displayName]
  else [.rejected action.title unit.displayName unit.version]

/-- An action without edits is not offered to the workspace. -/
theorem commit_of_empty {limited : Bool} (empty : action.edits = []) :
    commit unit id limited diagnostics state (.ok (some action)) session =
      .ok (.done ⟨state.batches, .emptyAction action.title⟩) session := by
  have applied : Engine.apply unit action session = .ok .noChanges session := by
    rw [Engine.apply, if_pos (by simpa using empty)]
    rfl
  exact bind_of_ok applied

/-- What the workspace raises ends the pass. -/
theorem commit_of_error {limited : Bool} {fault : Fault} (edits : action.edits ≠ [])
    (failed : offer unit action.edits session = .error fault last) :
    commit unit id limited diagnostics state (.ok (some action)) session = .error fault last := by
  have applied : Engine.apply unit action session = .error fault last := by
    rw [Engine.apply, if_neg (by simpa using edits)]
    exact bind_of_error failed
  exact bind_of_error applied

theorem commit_eq {limited landed : Bool} {after : Session σ} (edits : action.edits ≠ [])
    (offered : offer unit action.edits session = .ok landed after) :
    commit unit id limited diagnostics state (.ok (some action)) session =
      .ok (if landed then afterLanding limited diagnostics state else afterConflict state)
        { after with journal := notesOf unit id action landed ++ after.journal } := by
  have nonempty : ¬ action.edits.isEmpty = true := by simpa using edits
  have applied : ∃ notes, Engine.apply unit action session =
      .ok (if landed then .applied else .conflict)
        { after with journal := notes :: after.journal } ∧
      notesOf unit id action landed = (if landed then [.fixed id unit.id] else []) ++ [notes] := by
    unfold Engine.apply
    rw [if_neg nonempty]
    cases landed <;> exact ⟨_, bind_of_ok offered, rfl⟩
  obtain ⟨notes, applied, noted⟩ := applied
  rw [noted]
  cases landed <;> exact bind_of_ok applied

/-- What is done with an action that has edits depends on whether they land. -/
theorem commit_of_offer {limited landed : Bool} {after : Session σ} (edits : action.edits ≠ [])
    (offered : offer unit action.edits session = .ok landed after) :
    ∃ journal, commit unit id limited diagnostics state (.ok (some action)) session =
      .ok (if landed then afterLanding limited diagnostics state else afterConflict state)
        { after with journal } := ⟨_, commit_eq edits offered⟩

/-! ### Other numbers of passes -/

/-- The engine that makes another number of passes. -/
def withLimit (engine : Engine σ) (limit : Nat) : Engine σ := { engine with passLimit := limit }

theorem fixDiagnostic_withLimit (engine : Engine σ) (limit : Nat) (unitId : String)
    (catalog : Catalog σ) (id : String) :
    (engine.withLimit limit).fixDiagnostic unitId catalog id =
      engine.passes unitId catalog id limit {} := by
  have same (more : Nat) : ∀ state, (engine.withLimit limit).passes unitId catalog id more state =
      engine.passes unitId catalog id more state := by
    induction more with
    | zero => exact fun _ => rfl
    | succ more ih =>
      intro state
      unfold passes
      congr 1
      funext result
      cases result with
      | done outcome => rfl
      | again next => exact ih next
  exact same limit {}

end Engine

end FixLoop
