import FixLoop.Proofs.Session.Passing

/-!
Steps with a known answer. A step that asks only plugins which answer at once has the same answer in
every session that is not asked to stop, and leaves the workspace as it is. Steps that make passes
have an answer once enough passes may be made.
-/

namespace FixLoop

variable {σ α β : Type}

/-- Whether a session is not asked to stop, and has a snapshot of a unit. -/
structure Session.HasUnit (unitId : String) (unit : SourceUnit) (session : Session σ) : Prop where
  running : session.cancellation.isRequested = false
  present : session.workspace.snapshot? unitId = some unit

theorem Session.HasUnit.of_stands {unitId : String} {unit : SourceUnit} {session last : Session σ}
    (held : session.HasUnit unitId unit) (stands : last.Stands session.workspace) :
    last.HasUnit unitId unit :=
  ⟨stands.running, stands.workspace ▸ held.present⟩

namespace Run

/-- Whether a step has an answer in every session that is not asked to stop, and changes neither
that nor the workspace. -/
def Yields (step : Run σ α) (value : α) : Prop :=
  ∀ (workspace : Workspace) (session : Session σ), session.Stands workspace →
    ∃ last, step session = .ok value last ∧ last.Stands workspace

namespace Yields

variable {step : Run σ α} {value : α}

theorem pure (value : α) : (Pure.pure value : Run σ α).Yields value :=
  fun _ session stands => ⟨session, rfl, stands⟩

theorem bind {next : α → Run σ β} {result : β} (first : step.Yields value)
    (rest : (next value).Yields result) : (step >>= next).Yields result := by
  intro workspace session stands
  obtain ⟨middle, ran, still⟩ := first workspace session stands
  obtain ⟨last, rested, kept⟩ := rest workspace middle still
  exact ⟨last, (bind_of_ok ran).trans rested, kept⟩

theorem note (event : Event) : (note event : Run σ Unit).Yields () :=
  fun _ _ stands => ⟨_, rfl, stands.running, stands.workspace⟩

theorem learn (descriptor : Descriptor) : (learn descriptor : Run σ Unit).Yields () := by
  intro workspace session stands
  refine ⟨_, rfl, ?_⟩
  dsimp only
  split
  · exact stands
  · exact ⟨stands.running, stands.workspace⟩

theorem checkCancelled : (checkCancelled : Run σ Unit).Yields () :=
  fun _ session stands => ⟨session, checkCancelled_eq_ok.mpr ⟨stands.running, rfl⟩, stands⟩

theorem forM {items : List α} {act : α → Run σ PUnit}
    (each : ∀ item ∈ items, (act item).Yields ()) : (items.forM act).Yields () := by
  induction items with
  | nil => exact .pure _
  | cons item rest ih =>
    have others := ih fun other member => each other (List.mem_cons_of_mem _ member)
    exact (each item List.mem_cons_self).bind others

theorem mapM {items : List α} {act : α → Run σ β} {value : α → β}
    (each : ∀ item ∈ items, (act item).Yields (value item)) :
    (items.mapM act).Yields (items.map value) := by
  induction items with
  | nil => exact .pure _
  | cons item rest ih =>
    have others := ih fun other member => each other (List.mem_cons_of_mem _ member)
    rw [List.mapM_cons]
    exact (each item List.mem_cons_self).bind (others.bind (.pure _))

/-- A call yields what the plugin answers, if the plugin leaves no more than a note. -/
theorem call {callback : Callback σ α}
    (answers : ∀ session : Session σ, ∃ journal,
      callback.carryOut session = (.ok value, { session with journal })) :
    (call callback).Yields value := by
  intro workspace session stands
  obtain ⟨journal, ran⟩ := answers session
  refine ⟨{ session with journal }, ?_, stands.running, stands.workspace⟩
  rw [Run.call, ran]

theorem call_answer (value : α) : (Run.call (.answer value) : Run σ α).Yields value :=
  .call fun session => ⟨session.journal, rfl⟩

theorem attempt_answer (value : α) :
    (attempt (.answer value) : Run σ (Except Failure α)).Yields (.ok value) :=
  fun _ session stands => ⟨session, rfl, stands⟩

end Yields

/-- Whether a step has an answer, and leaves a session, if it is given a bound that is large
enough. -/
def ComesTo (step : Nat → Run σ α) (session : Session σ) (value : α) (last : Session σ) : Prop :=
  ∃ enough, ∀ limit, enough ≤ limit → step limit session = .ok value last

namespace ComesTo

variable {step : Nat → Run σ α} {session middle last : Session σ} {value : α}

theorem of_ok {step : Run σ α} (ran : step session = .ok value last) :
    ComesTo (fun _ => step) session value last :=
  ⟨0, fun _ _ => ran⟩

theorem pure (value : α) (session : Session σ) :
    ComesTo (fun _ => Pure.pure value) session value session :=
  of_ok rfl

/-- Only large bounds matter, so what one step comes to may follow from what another one does. -/
theorem mono {other : Nat → Run σ β} {start : Session σ} {result : β} {final : Session σ}
    (ran : ComesTo step session value last)
    (follows : ∀ limit, step limit session = .ok value last →
      other limit start = .ok result final) : ComesTo other start result final := by
  obtain ⟨enough, ran⟩ := ran
  exact ⟨enough, fun limit large => follows limit (ran limit large)⟩

theorem of_succ (ran : ComesTo (fun limit => step (limit + 1)) session value last) :
    ComesTo step session value last := by
  obtain ⟨enough, ran⟩ := ran
  refine ⟨enough + 1, fun limit large => ?_⟩
  obtain ⟨more, rfl⟩ := Nat.exists_eq_add_of_le' (Nat.le_of_add_left_le large)
  exact ran more (Nat.le_of_add_le_add_right large)

/-- Both bounds are large enough from the larger one on. -/
theorem join {other whole : Nat → Run σ β} {result : β} (first : ComesTo step session value middle)
    (second : ComesTo other middle result last)
    (joined : ∀ limit, step limit session = .ok value middle →
      other limit middle = .ok result last → whole limit session = .ok result last) :
    ComesTo whole session result last := by
  obtain ⟨enough, ran⟩ := first
  obtain ⟨more, rested⟩ := second
  refine ⟨max enough more, fun limit large => joined limit ?_ ?_⟩
  · exact ran limit (Nat.le_trans (Nat.le_max_left ..) large)
  · exact rested limit (Nat.le_trans (Nat.le_max_right ..) large)

theorem bind {next : Nat → α → Run σ β} {result : β} (first : ComesTo step session value middle)
    (rest : ComesTo (next · value) middle result last) :
    ComesTo (fun limit => step limit >>= next limit) session result last :=
  first.join rest fun _ ran rested => (bind_of_ok ran).trans rested

end ComesTo

end Run

namespace Engine

open Run Diagnostic

variable {engine : Engine σ} {unit : SourceUnit} {analyzer : Analyzer σ}
  {reported diagnostics compilerDiagnostics : List Diagnostic}

theorem compile_yields (answers : engine.compiler.compile unit = .answer reported) :
    (engine.compile unit).Yields (sorted reported) := by
  unfold compile
  rw [answers]
  exact (Yields.note _).bind ((Yields.call_answer _).bind (.pure _))

/-- The errors that keep a unit from being fixed. -/
def blockers (engine : Engine σ) (compilerDiagnostics : List Diagnostic) : List Diagnostic :=
  if engine.config.ignoreCompilerErrors.isTruthy then []
  else (buildErrors engine.config compilerDiagnostics).take listedErrors

theorem verifyBuild_yields (engine : Engine σ) (compilerDiagnostics : List Diagnostic) :
    (engine.verifyBuild compilerDiagnostics).Yields (engine.blockers compilerDiagnostics) := by
  refine (Yields.forM fun _ _ => .note _).bind ?_
  dsimp only
  split
  · exact (Yields.note _).bind (.pure _)
  · exact .pure _

theorem runAnalyzer_yields (answers : analyzer.analyze unit = .answer reported) :
    (runAnalyzer unit analyzer).Yields reported := by
  unfold runAnalyzer
  rw [answers]
  exact (Yields.note _).bind ((Yields.attempt_answer _).bind (.pure _))

theorem analyze_yields {items : List α} {analyzer : α → Analyzer σ}
    {reports : α → List Diagnostic}
    (answers : ∀ item ∈ items, (analyzer item).analyze unit = .answer (reports item)) :
    (analyze unit (items.map analyzer)).Yields (collected (items.map reports)) := by
  unfold analyze
  rw [List.mapM_map]
  exact (Yields.mapM fun item member => runAnalyzer_yields (answers item member)).bind (.pure _)

/-- What an examination comes to. -/
def examined (engine : Engine σ) (unit : SourceUnit)
    (compilerDiagnostics diagnostics : List Diagnostic) : Survey :=
  if engine.blockers compilerDiagnostics = [] then { unit, compilerDiagnostics, diagnostics }
  else { unit, compilerDiagnostics, errors := engine.blockers compilerDiagnostics }

theorem examine_yields {look : List Diagnostic → Run σ (List Diagnostic)}
    (compiles : (engine.compile unit).Yields compilerDiagnostics)
    (looks : (look compilerDiagnostics).Yields diagnostics) :
    (engine.examine unit look).Yields
      (engine.examined unit compilerDiagnostics diagnostics) := by
  refine compiles.bind ((verifyBuild_yields engine compilerDiagnostics).bind ?_)
  unfold examined
  split
  · rename_i blocked
    rw [if_neg (by simpa using blocked)]
    exact .pure _
  · rename_i builds
    rw [if_pos (by simpa using builds)]
    exact looks.bind (.pure _)

end Engine

end FixLoop
