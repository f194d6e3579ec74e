import FixLoop.Proofs.Session.Frame

/-!
Surveys. Rounds and passes begin alike: they take the latest snapshot, compile it and, if it builds,
look for diagnostics. What they found and did not act on yet is a survey.
-/

namespace FixLoop

/-- What is found in a unit before anything is done. Nothing is looked for when errors block it. -/
structure Survey where
  unit : SourceUnit
  compilerDiagnostics : List Diagnostic
  errors : List Diagnostic := []
  diagnostics : List Diagnostic := []

namespace Engine

open Run

variable {σ : Type}

/-- Compiles a snapshot and, unless errors block it, looks for diagnostics. -/
def examine (engine : Engine σ) (unit : SourceUnit)
    (look : List Diagnostic → Run σ (List Diagnostic)) : Run σ Survey := do
  let compilerDiagnostics ← engine.compile unit
  let errors ← engine.verifyBuild compilerDiagnostics
  if !errors.isEmpty then return { unit, compilerDiagnostics, errors }
  let diagnostics ← look compilerDiagnostics
  return { unit, compilerDiagnostics, diagnostics }

/-- The part of a round that looks at the unit. -/
def survey (engine : Engine σ) (unitId : String) (catalog : Catalog σ) (rounds : Nat) :
    Run σ Survey := do
  let unit ← snapshot unitId
  note (.compiling unit.displayName rounds)
  engine.examine unit fun compilerDiagnostics => do
    note (.analyzing unit.displayName)
    engine.fixable unit catalog compilerDiagnostics

/-- The part of a pass that looks at the unit. -/
def inspect (engine : Engine σ) (unitId : String) (catalog : Catalog σ) (id : String) :
    Run σ Survey := do
  checkCancelled
  let unit ← snapshot unitId
  engine.examine unit (engine.occurrences unit catalog id)

variable {engine : Engine σ} {unitId : String} {catalog : Catalog σ} {unit : SourceUnit}
  {session last : Session σ} {survey : Survey} {look : List Diagnostic → Run σ (List Diagnostic)}

theorem Reads.examine_good {good : (α : Type) → Run σ α → Prop} (reads : engine.Reads unit good)
    (looks : ∀ diagnostics, good _ (look diagnostics)) : good _ (engine.examine unit look) := by
  refine reads.bind reads.compile_good fun compilerDiagnostics => ?_
  refine reads.bind (reads.verifyBuild_good compilerDiagnostics) fun errors => ?_
  split
  · exact reads.pure _
  · exact reads.bind (looks _) fun _ => reads.pure _

/-- An inspection keeps what reading the snapshot keeps. -/
theorem inspect_keeps {id : String} {inv : Session σ → Prop} {allowed : Fault → Session σ → Prop}
    (snapshot : (snapshot unitId : Run σ SourceUnit).Keeps inv (orInterrupted allowed))
    (reads : ∀ unit, engine.Reads unit fun _ step => step.Keeps inv (orInterrupted allowed))
    (members : catalog.analyzers ⊆ engine.analyzers) :
    (engine.inspect unitId catalog id).Keeps inv (orInterrupted allowed) :=
  checkCancelled_keeps.bind fun _ => snapshot.bind fun unit =>
    (reads unit).examine_good ((reads unit).occurrences_good members id)

/-- An examination opened: the compiler, the check of its errors, and the look at the rest. -/
theorem examine_eq_ok :
    engine.examine unit look session = .ok survey last ↔
      survey.unit = unit ∧ ∃ compiled verified,
        engine.compile unit session = .ok survey.compilerDiagnostics compiled ∧
        engine.verifyBuild survey.compilerDiagnostics compiled = .ok survey.errors verified ∧
        (survey.errors ≠ [] ∧ survey.diagnostics = [] ∧ last = verified ∨
          survey.errors = [] ∧
            look survey.compilerDiagnostics verified = .ok survey.diagnostics last) := by
  constructor
  · intro ran
    obtain ⟨compilerDiagnostics, compiled, reported, ran⟩ := bind_eq_ok.mp ran
    obtain ⟨errors, verified, checked, ran⟩ := bind_eq_ok.mp ran
    split at ran
    · rename_i blocked
      obtain ⟨rfl, rfl⟩ := pure_eq_ok.mp ran
      exact ⟨rfl, compiled, verified, reported, checked, .inl ⟨by simpa using blocked, rfl, rfl⟩⟩
    · rename_i builds
      obtain rfl : errors = [] := by simpa using builds
      obtain ⟨diagnostics, middle, looked, ran⟩ := bind_eq_ok.mp ran
      obtain ⟨rfl, rfl⟩ := pure_eq_ok.mp ran
      exact ⟨rfl, compiled, verified, reported, checked, .inr ⟨rfl, looked⟩⟩
  · intro ⟨own, compiled, verified, reported, checked, rest⟩
    obtain ⟨unit, compilerDiagnostics, errors, diagnostics⟩ := survey
    subst own
    refine bind_eq_ok.mpr ⟨_, compiled, reported, ?_⟩
    refine bind_eq_ok.mpr ⟨_, verified, checked, ?_⟩
    rcases rest with ⟨blocked, none, rfl⟩ | ⟨builds, looked⟩
    · rw [if_pos (by simpa using blocked)]
      exact pure_eq_ok.mpr ⟨by simp_all, rfl⟩
    · rw [if_neg (by simpa using builds)]
      exact bind_eq_ok.mpr ⟨_, last, looked, pure_eq_ok.mpr ⟨by simp_all, rfl⟩⟩

theorem survey_eq_ok {rounds : Nat} :
    engine.survey unitId catalog rounds session = .ok survey last ↔
      session.workspace.snapshot? unitId = some survey.unit ∧
        engine.examine survey.unit
          (fun compilerDiagnostics => do
            note (.analyzing survey.unit.displayName)
            engine.fixable survey.unit catalog compilerDiagnostics)
          { session with journal := .compiling survey.unit.displayName rounds :: session.journal } =
          .ok survey last := by
  constructor
  · intro ran
    obtain ⟨unit, _, fetched, ran⟩ := bind_eq_ok.mp ran
    obtain ⟨present, rfl⟩ := snapshot_eq_ok.mp fetched
    obtain ⟨_, _, noted, examined⟩ := bind_eq_ok.mp ran
    cases noted
    obtain rfl := (examine_eq_ok.mp examined).1
    exact ⟨present, examined⟩
  · intro ⟨present, examined⟩
    refine bind_eq_ok.mpr ⟨_, session, snapshot_eq_ok.mpr ⟨present, rfl⟩, ?_⟩
    exact bind_eq_ok.mpr ⟨(), _, rfl, examined⟩

theorem inspect_eq_ok {id : String} :
    engine.inspect unitId catalog id session = .ok survey last ↔
      session.cancellation.isRequested = false ∧
        session.workspace.snapshot? unitId = some survey.unit ∧
        engine.examine survey.unit (engine.occurrences survey.unit catalog id) session =
          .ok survey last := by
  constructor
  · intro ran
    obtain ⟨_, _, checked, ran⟩ := bind_eq_ok.mp ran
    obtain ⟨running, rfl⟩ := checkCancelled_eq_ok.mp checked
    obtain ⟨unit, _, fetched, examined⟩ := bind_eq_ok.mp ran
    obtain ⟨present, rfl⟩ := snapshot_eq_ok.mp fetched
    obtain rfl := (examine_eq_ok.mp examined).1
    exact ⟨running, present, examined⟩
  · intro ⟨running, present, examined⟩
    refine bind_eq_ok.mpr ⟨(), session, checkCancelled_eq_ok.mpr ⟨running, rfl⟩, ?_⟩
    exact bind_eq_ok.mpr ⟨_, session, snapshot_eq_ok.mpr ⟨present, rfl⟩, examined⟩

end Engine

end FixLoop
