import FixLoop.Proofs.Plugin.Combining
import FixLoop.Proofs.Plugin.Letters
import FixLoop.Proofs.Session.Survey

/-!
Stateless plugins: what they answer depends on what they are asked about only, and the workspace
stays as it is. Steps that are made of such calls answer the same in every session.
-/

namespace FixLoop

variable {σ α β : Type}

/-- Whether a callback answers the same in every session and leaves the workspace alone. -/
def Callback.IsStateless (callback : Callback σ α) : Prop :=
  ∃ answer, ∀ session,
    (callback.carryOut session).1 = answer ∧
      (callback.carryOut session).2.workspace = session.workspace

theorem Callback.IsStateless.closed :
    Callback.Closed fun _ (callback : Callback σ _) => callback.IsStateless where
  answer _ value := ⟨.ok value, fun _ => ⟨rfl, rfl⟩⟩
  andThen _ _ callback next first rest := by
    obtain ⟨answer, answers⟩ := first
    cases answer with
    | error failure =>
      refine ⟨.error failure, fun session => ?_⟩
      obtain ⟨failed, same⟩ := answers session
      rw [carryOut_andThen]
      cases ran : callback.carryOut session with
      | mk answer middle =>
        rw [ran] at failed same
        cases failed
        exact ⟨rfl, same⟩
    | ok value =>
      obtain ⟨final, finally_⟩ := rest value
      refine ⟨final, fun session => ?_⟩
      obtain ⟨answered, same⟩ := answers session
      rw [carryOut_andThen]
      cases ran : callback.carryOut session with
      | mk answer middle =>
        rw [ran] at answered same
        cases answered
        exact ⟨(finally_ middle).1, (finally_ middle).2.trans same⟩
  defer _ _ _ _ rest := by
    obtain ⟨answer, answers⟩ := rest
    exact ⟨answer, fun session => answers _⟩

namespace Run

/-- What a step came to, and the workspace then. -/
def outcome : EStateM.Result Fault (Session σ) α → Except Fault α × Workspace
  | .ok value last => (.ok value, last.workspace)
  | .error fault last => (.error fault, last.workspace)

theorem outcome_eq_ok {result : EStateM.Result Fault (Session σ) α} {value : α}
    {workspace : Workspace} :
    outcome result = (.ok value, workspace) ↔
      ∃ last, result = .ok value last ∧ last.workspace = workspace := by
  cases result <;> simp [outcome, and_assoc]

theorem outcome_eq_error {result : EStateM.Result Fault (Session σ) α} {fault : Fault}
    {workspace : Workspace} :
    outcome result = (.error fault, workspace) ↔
      ∃ last, result = .error fault last ∧ last.workspace = workspace := by
  cases result <;> simp [outcome, and_assoc]

/-- Whether a step comes to the same in all sessions whose signal is of a kind, which it stays, and
leaves the workspace alone. -/
def DeterminedIn (kind : Cancellation → Prop) (step : Run σ α) : Prop :=
  ∃ answer, ∀ session, kind session.cancellation →
    outcome (step session) = (answer, session.workspace) ∧ kind (final (step session)).cancellation

/-- Whether a step comes to the same in every session and leaves the workspace alone. -/
def Determined (step : Run σ α) : Prop :=
  ∃ answer, ∀ session, outcome (step session) = (answer, session.workspace)

theorem determined_iff {step : Run σ α} : step.Determined ↔ step.DeterminedIn fun _ => True := by
  simp [Determined, DeterminedIn]

namespace DeterminedIn

variable {kind : Cancellation → Prop} {step : Run σ α} {next : α → Run σ β}
  {session last : Session σ}

/-- What a step came to once it comes to always. -/
theorem of_ok (determined : step.DeterminedIn kind) (stands : kind session.cancellation) {value : α}
    (ran : step session = .ok value last) :
    last.workspace = session.workspace ∧ kind last.cancellation ∧
      ∀ other, kind other.cancellation → ∃ after, step other = .ok value after ∧
        after.workspace = other.workspace ∧ kind after.cancellation := by
  obtain ⟨answer, answers⟩ := determined
  obtain ⟨here, still⟩ := answers session stands
  rw [ran] at here still
  cases answer with
  | error fault => cases here
  | ok given =>
    obtain ⟨_, same, kept⟩ := outcome_eq_ok.mp here
    cases same
    refine ⟨kept, still, fun other alike => ?_⟩
    obtain ⟨there, standing⟩ := answers other alike
    obtain ⟨after, again, same⟩ := outcome_eq_ok.mp there
    rw [again] at standing
    exact ⟨after, again, same, standing⟩

theorem pure (value : α) : (Pure.pure value : Run σ α).DeterminedIn kind :=
  ⟨.ok value, fun _ stands => ⟨rfl, stands⟩⟩

theorem bind_of (first : step.DeterminedIn kind)
    (rest : ∀ value before after, step before = .ok value after → (next value).DeterminedIn kind) :
    (step >>= next).DeterminedIn kind := by
  obtain ⟨answer, answers⟩ := first
  by_cases possible : ∃ session : Session σ, kind session.cancellation
  · cases answer with
    | error fault =>
      refine ⟨.error fault, fun session stands => ?_⟩
      obtain ⟨here, still⟩ := answers session stands
      obtain ⟨middle, failed, kept⟩ := outcome_eq_error.mp here
      rw [failed] at still
      rw [bind_of_error failed, ← kept]
      exact ⟨rfl, still⟩
    | ok value =>
      obtain ⟨some, stands⟩ := possible
      obtain ⟨after, reached, -⟩ := outcome_eq_ok.mp (answers some stands).1
      obtain ⟨answer, lasts⟩ := rest value some after reached
      refine ⟨answer, fun session stands => ?_⟩
      obtain ⟨here, still⟩ := answers session stands
      obtain ⟨middle, ran, kept⟩ := outcome_eq_ok.mp here
      rw [ran] at still
      rw [bind_of_ok ran, ← kept]
      exact lasts middle still
  · exact ⟨.error .cancelled, fun session stands => absurd ⟨session, stands⟩ possible⟩

theorem note (event : Event) : (note event : Run σ Unit).DeterminedIn kind :=
  ⟨.ok (), fun _ stands => ⟨rfl, stands⟩⟩

theorem learn (descriptor : Descriptor) : (learn descriptor : Run σ Unit).DeterminedIn kind := by
  refine ⟨.ok (), fun session stands => ?_⟩
  change (Except.ok (), (if _ then session else _).workspace) = _ ∧
    kind (if _ then session else _).cancellation
  split <;> exact ⟨rfl, stands⟩

theorem closed (kind : Cancellation → Prop) (noted : Event → Prop) :
    Closed noted fun _ (step : Run σ _) => step.DeterminedIn kind where
  pure := .pure
  bind_of := .bind_of
  note event _ := .note event
  learn := .learn

theorem call {callback : Callback σ α} {answer : Except Failure α}
    (answers : ∀ session, kind session.cancellation → (callback.carryOut session).1 = answer ∧
      (callback.carryOut session).2.workspace = session.workspace ∧
      kind (callback.carryOut session).2.cancellation) : (call callback).DeterminedIn kind := by
  refine ⟨answer.mapError .plugin, fun session stands => ?_⟩
  obtain ⟨rfl, kept, still⟩ := answers session stands
  rw [← kept]
  unfold Run.call
  cases ran : callback.carryOut session with
  | mk given last =>
    rw [ran] at still
    cases given <;> exact ⟨rfl, still⟩

theorem attempt {callback : Callback σ α} {answer : Except Failure α}
    (answers : ∀ session, kind session.cancellation → (callback.carryOut session).1 = answer ∧
      (callback.carryOut session).2.workspace = session.workspace ∧
      kind (callback.carryOut session).2.cancellation) : (attempt callback).DeterminedIn kind := by
  refine ⟨.ok answer, fun session stands => ?_⟩
  obtain ⟨rfl, kept, still⟩ := answers session stands
  rw [← kept]
  exact ⟨rfl, still⟩

end DeterminedIn

namespace Determined

variable {step : Run σ α} {session last : Session σ}

/-- What a step came to once it comes to always. -/
theorem of_ok (determined : step.Determined) {value : α} (ran : step session = .ok value last) :
    last.workspace = session.workspace ∧
      ∀ other, ∃ after, step other = .ok value after ∧ after.workspace = other.workspace := by
  obtain ⟨kept, -, again⟩ := (determined_iff.mp determined).of_ok trivial ran
  refine ⟨kept, fun other => ?_⟩
  obtain ⟨after, ran, same, -⟩ := again other trivial
  exact ⟨after, ran, same⟩

/-- A step that is determined keeps the workspace. -/
theorem keeps (determined : step.Determined) (workspace : Workspace)
    {allowed : Fault → Session σ → Prop} (any : ∀ fault session, allowed fault session) :
    step.Keeps (fun now => now.workspace = workspace) allowed := by
  intro session holds
  obtain ⟨answer, answers⟩ := determined
  have here := answers session
  cases ran : step session with
  | ok value last =>
    rw [ran] at here
    exact (congrArg Prod.snd here).trans holds
  | error fault last =>
    rw [ran] at here
    exact ⟨(congrArg Prod.snd here).trans holds, any fault last⟩

theorem closed (noted : Event → Prop) : Closed noted fun _ (step : Run σ _) => step.Determined := by
  simpa only [determined_iff] using DeterminedIn.closed (fun _ => True) noted

theorem forM {items : List β} {act : β → Run σ PUnit}
    (each : ∀ item ∈ items, (act item).Determined) : (items.forM act).Determined :=
  (closed fun _ => True).forM each

theorem learn (descriptor : Descriptor) : (learn descriptor : Run σ Unit).Determined :=
  (closed fun _ => True).learn descriptor

theorem call {callback : Callback σ α} (stateless : callback.IsStateless) :
    (call callback).Determined := by
  obtain ⟨answer, answers⟩ := stateless
  exact determined_iff.mpr
    (.call fun session _ => ⟨(answers session).1, (answers session).2, trivial⟩)

theorem attempt {callback : Callback σ α} (stateless : callback.IsStateless) :
    (attempt callback).Determined := by
  obtain ⟨answer, answers⟩ := stateless
  exact determined_iff.mpr
    (.attempt fun session _ => ⟨(answers session).1, (answers session).2, trivial⟩)

end Determined

end Run

namespace Engine

open Run

/-- Whether the compiler and the analyzers are stateless. -/
structure StatelessReaders (engine : Engine σ) : Prop where
  compiler : ∀ unit, (engine.compiler.compile unit).IsStateless
  analyzers : ∀ analyzer ∈ engine.analyzers, ∀ unit, (analyzer.analyze unit).IsStateless

/-- Whether the fixers are stateless too. -/
structure StatelessPlugins (engine : Engine σ) : Prop extends StatelessReaders engine where
  offers : ∀ fixer ∈ engine.fixers, ∀ diagnostic unit,
    ∀ candidate ∈ fixer.offers diagnostic unit, candidate.IsStateless
  fixAll : ∀ fixer ∈ engine.fixers, ∀ context, (fixer.fixAll context).IsStateless

namespace StatelessReaders

variable {engine : Engine σ} {catalog : Catalog σ}

/-- Looking at a snapshot comes to the same in every session. -/
theorem reads (readers : engine.StatelessReaders) (unit : SourceUnit) :
    engine.Reads unit fun _ step => step.Determined where
  toClosed := Determined.closed _
  compile := .call (readers.compiler unit)
  analyze analyzer member := .attempt (readers.analyzers analyzer member unit)

theorem fixable_determined (readers : engine.StatelessReaders)
    (members : catalog.analyzers ⊆ engine.analyzers) (unit : SourceUnit)
    (diagnostics : List Diagnostic) : (engine.fixable unit catalog diagnostics).Determined :=
  (readers.reads unit).fixable_good members diagnostics

theorem occurrences_determined (readers : engine.StatelessReaders)
    (members : catalog.analyzers ⊆ engine.analyzers) (unit : SourceUnit) (id : String)
    (diagnostics : List Diagnostic) :
    (engine.occurrences unit catalog id diagnostics).Determined :=
  (readers.reads unit).occurrences_good members id diagnostics

end StatelessReaders

theorem compile_determined {engine : Engine σ} {unit : SourceUnit}
    (steady : (engine.compiler.compile unit).IsStateless) : (engine.compile unit).Determined := by
  have closed := Determined.closed (σ := σ) fun _ => True
  refine closed.bind (closed.note (.compiled unit) trivial) fun _ => ?_
  exact closed.bind (.call steady) fun _ => closed.pure _

theorem verifyBuild_determined (engine : Engine σ) (diagnostics : List Diagnostic) :
    (engine.verifyBuild diagnostics).Determined :=
  verifyBuild_good (Determined.closed fun _ => True) (fun _ => trivial) (fun _ => trivial)
    diagnostics

theorem StatelessReaders.examine_determined {engine : Engine σ} (readers : engine.StatelessReaders)
    (unit : SourceUnit) {look : List Diagnostic → Run σ (List Diagnostic)}
    (looks : ∀ diagnostics, (look diagnostics).Determined) :
    (engine.examine unit look).Determined :=
  (readers.reads unit).examine_good looks

/-- A survey comes to the same again for the same snapshot, and leaves the workspace alone. -/
theorem StatelessReaders.survey_again {engine : Engine σ} {unitId : String} {catalog : Catalog σ}
    {session last : Session σ} {survey : Survey} {rounds : Nat} (readers : engine.StatelessReaders)
    (members : catalog.analyzers ⊆ engine.analyzers)
    (surveyed : engine.survey unitId catalog rounds session = .ok survey last) :
    last.workspace = session.workspace ∧ ∀ other : Session σ, ∀ rounds,
      other.workspace.snapshot? unitId = some survey.unit →
      ∃ after, engine.survey unitId catalog rounds other = .ok survey after ∧
        after.workspace = other.workspace := by
  obtain ⟨-, examined⟩ := survey_eq_ok.mp surveyed
  have determined := readers.examine_determined survey.unit fun diagnostics =>
    (Determined.closed fun _ => True).bind
      ((Determined.closed fun _ => True).note (.analyzing survey.unit.displayName) trivial)
      fun _ => readers.fixable_determined members survey.unit diagnostics
  obtain ⟨kept, again⟩ := determined.of_ok examined
  refine ⟨kept, fun other rounds found => ?_⟩
  obtain ⟨after, examined, same⟩ := again _
  exact ⟨after, survey_eq_ok.mpr ⟨found, examined⟩, same⟩

/-- Stateless plugins leave the workspace alone while a fix is selected. -/
theorem StatelessPlugins.selects {engine : Engine σ} (plugins : engine.StatelessPlugins)
    (workspace : Workspace) (unit : SourceUnit) (id : String) (batch : List Diagnostic)
    {allowed : Fault → Session σ → Prop} (any : ∀ fault session, allowed fault session) :
    engine.Selects unit id batch
      fun _ step => step.Keeps (fun now => now.workspace = workspace) allowed where
  toClosed := Keeps.closed (fun _ _ _ same => same) fun _ _ same => same
  checked := (@checkCancelled_keeps σ _ allowed).mono fun _ _ _ _ => any _ _
  ambiguous _ := .throw fun _ _ => any _ _
  offers fixer able diagnostic candidate offered := (Determined.call
    (plugins.offers fixer able diagnostic unit candidate offered)).keeps workspace any
  fixAll fixer able context _ :=
    (Determined.call (plugins.fixAll fixer able context)).keeps workspace any

end Engine

theorem Letters.replacing_isStateless {letter : Char} (diagnostic : Diagnostic)
    (unit : SourceUnit) :
    ∀ candidate ∈ (replacing letter : Offers σ) diagnostic unit, candidate.IsStateless := by
  intro candidate offered
  obtain rfl := List.mem_singleton.mp offered
  exact ⟨_, fun _ => ⟨rfl, rfl⟩⟩

end FixLoop
