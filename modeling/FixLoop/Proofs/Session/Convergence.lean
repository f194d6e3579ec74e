import FixLoop.Proofs.Plugin.Builtin
import FixLoop.Proofs.Session.Course

/-!
Convergence. With a stateless compiler and stateless analyzers, what the last round saw is what any
later look at the unit sees. So a unit that was left because nothing was found builds and has
nothing left to fix, and fixing it again does nothing.
-/

namespace FixLoop

namespace Engine

open Run

variable {σ : Type} {engine : Engine σ} {unitId : String} {catalog : Catalog σ} {unit : SourceUnit}
  {session begun last : Session σ} {survey : Survey} {progress : Progress}

/-- Whether a snapshot builds and has nothing left to fix, seen from a session. -/
def Settled (engine : Engine σ) (unit : SourceUnit) (session : Session σ) : Prop :=
  ∃ compilerDiagnostics compiled verified after,
    engine.compile unit session = .ok compilerDiagnostics compiled ∧
      engine.verifyBuild compilerDiagnostics compiled = .ok [] verified ∧
      engine.fixable unit (engine.catalog unit) compilerDiagnostics verified = .ok [] after

/-- The catalog for a unit depends on its language only. -/
theorem catalog_congr {other : SourceUnit} (same : unit.language = other.language) :
    engine.catalog unit = engine.catalog other := by
  unfold Engine.catalog Catalog.ofUnit
  rw [same]

/-- Snapshots that follow one another are in one language. -/
theorem language_stable (unitId language : String) :
    Session.Stable fun now : Session σ =>
      ∀ unit, now.workspace.snapshot? unitId = some unit → unit.language = language where
  note _ _ spoken := spoken
  learn _ _ spoken := spoken
  remember _ _ spoken := spoken
  cancel _ _ spoken _ := spoken
  edit now id version edits landed workspace spoken edited := by
    cases landed with
    | false =>
      obtain rfl := Workspace.eq_of_tryEdit_rejected edited
      exact spoken
    | true =>
      obtain ⟨before, next, found, -, applied, after, others⟩ :=
        Workspace.snapshot?_of_landed edited
      intro unit present
      by_cases own : unitId = id
      · subst own
        obtain rfl : next = unit := Option.some.inj (after.symm.trans present)
        exact (SourceUnit.language_withEdits applied).trans (spoken before found)
      · exact spoken unit ((others unitId own).symm.trans present)

namespace StatelessReaders

theorem settled_of_survey {rounds : Nat} (readers : engine.StatelessReaders)
    (members : catalog.analyzers ⊆ engine.analyzers) (own : catalog = engine.catalog survey.unit)
    (surveyed : engine.survey unitId catalog rounds session = .ok survey last)
    (builds : survey.errors = []) (empty : survey.diagnostics = []) (now : Session σ) :
    engine.Settled survey.unit now := by
  obtain ⟨-, examined⟩ := survey_eq_ok.mp surveyed
  obtain ⟨-, compiled, verified, reported, checked, rest⟩ := examine_eq_ok.mp examined
  rcases rest with ⟨blocked, -⟩ | ⟨-, looked⟩
  · exact absurd builds blocked
  obtain ⟨_, _, noted, analyzed⟩ := bind_eq_ok.mp looked
  rw [builds] at checked
  rw [empty] at analyzed
  obtain ⟨-, compiles⟩ := (compile_determined (readers.compiler survey.unit)).of_ok reported
  obtain ⟨-, verifies⟩ := (engine.verifyBuild_determined _).of_ok checked
  obtain ⟨-, finds⟩ := (readers.fixable_determined members survey.unit _).of_ok analyzed
  obtain ⟨compiled, reported, -⟩ := compiles now
  obtain ⟨verified, checked, -⟩ := verifies compiled
  obtain ⟨after, analyzed, -⟩ := finds verified
  exact ⟨_, compiled, verified, after, reported, checked, own ▸ analyzed⟩

end StatelessReaders

/-- A round is what is done about its survey. -/
theorem round_of_survey (running : session.cancellation.isRequested = false)
    (surveyed : engine.survey unitId catalog progress.iterations session = .ok survey last) :
    engine.round unitId catalog progress session =
      engine.act unitId catalog progress survey last := by
  rw [round_eq, bind_of_ok (isCancelled_apply session), running, if_neg Bool.false_ne_true,
    bind_of_ok surveyed]

theorem act_of_nothing (builds : survey.errors = []) (empty : survey.diagnostics = []) :
    engine.act unitId catalog progress survey session =
      .ok (.ended progress .converged) session := by
  unfold act
  rw [if_neg (by simp [builds]), if_pos (by simp [empty])]
  rfl

/-- Fixing a unit for which there are analyzers and fixers is going through rounds. -/
theorem fixUnit_eq_rounds (found : session.workspace.snapshot? unitId = some unit)
    (analyzers : (engine.catalog unit).analyzers ≠ []) (fixers : (engine.catalog unit).fixers ≠ [])
    (learnt : (engine.catalog unit).descriptors.forM learn session = .ok () begun) :
    engine.fixUnit unitId session =
      (engine.rounds unitId (engine.catalog unit) (engine.config.maxIterations - 1) {} >>=
        fun (progress, ending) => do
          noteEnding unit progress ending
          return unitResult unit (engine.catalog unit) progress ending) begun := by
  rw [fixUnit_eq, bind_of_ok (snapshot_eq_ok.mpr ⟨found, rfl⟩), fixFound, bind_of_ok learnt,
    if_neg (by simpa using analyzers), if_neg (by simpa using fixers)]

/-- A unit that the first round ends has the result of that round. -/
theorem fixUnit_of_round {ending : UnitEnding}
    (found : session.workspace.snapshot? unitId = some unit)
    (analyzers : (engine.catalog unit).analyzers ≠ []) (fixers : (engine.catalog unit).fixers ≠ [])
    (learnt : (engine.catalog unit).descriptors.forM learn session = .ok () begun)
    (ended : engine.round unitId (engine.catalog unit) {} begun = .ok (.ended progress ending) last)
    (unnoted : noteEnding unit progress ending last = .ok () last) :
    engine.fixUnit unitId session =
      .ok (unitResult unit (engine.catalog unit) progress ending) last := by
  have rounds (more : Nat) : engine.rounds unitId (engine.catalog unit) more {} begun =
      .ok (progress, ending) last := by
    cases more <;> exact bind_of_ok ended
  rw [fixUnit_eq_rounds found analyzers fixers learnt, bind_of_ok (rounds _)]
  exact bind_of_ok unnoted

/-- A unit in which the first round finds nothing is left as it is. -/
theorem fixUnit_of_survey (found : session.workspace.snapshot? unitId = some unit)
    (analyzers : (engine.catalog unit).analyzers ≠ []) (fixers : (engine.catalog unit).fixers ≠ [])
    (running : begun.cancellation.isRequested = false)
    (learnt : (engine.catalog unit).descriptors.forM learn session = .ok () begun)
    (surveyed : engine.survey unitId (engine.catalog unit) 0 begun = .ok survey last)
    (builds : survey.errors = []) (empty : survey.diagnostics = []) :
    engine.fixUnit unitId session =
      .ok (unitResult unit (engine.catalog unit) {} .converged) last := by
  have round : engine.round unitId (engine.catalog unit) {} begun =
      .ok (.ended {} .converged) last :=
    (round_of_survey running surveyed).trans (act_of_nothing builds empty)
  exact fixUnit_of_round found analyzers fixers learnt round rfl

/-- If fixing a unit succeeds within its limit and is not cancelled, then the unit builds, nothing
in it is left to fix, and fixing it again does nothing. -/
theorem fixUnit_converges {result : UnitResult} (readers : engine.StatelessReaders)
    (ran : engine.fixUnit unitId session = .ok result last) (success : result.kind = .success)
    (whole : result.limitReached = false) (running : last.cancellation.isRequested = false) :
    ∃ unit, last.workspace.snapshot? unitId = some unit ∧ (∀ now, engine.Settled unit now) ∧
      ∀ later : Session σ, later.workspace = last.workspace →
        later.cancellation.isRequested = false →
        ∃ again after, engine.fixUnit unitId later = .ok again after ∧ again.kind = .success ∧
          again.limitReached = false ∧ again.iterations = 0 ∧ again.fixedIds = [] ∧
          again.skipped = [] ∧ after.workspace = last.workspace := by
  obtain ⟨start, found, analyzers, fixers, visits, progress, ending, course, rfl⟩ :=
    course_of_success ran success
  obtain rfl := Workspace.id_of_snapshot? found
  obtain ⟨begun, rounded, learnt, ended, noted⟩ := course
  obtain ⟨sameWorkspace, sameCancellation⟩ := noted_session noted
  have members := engine.analyzers_catalog start
  obtain ⟨before, survey, surveyed, builds, empty⟩ : ∃ before survey,
      engine.survey start.id (engine.catalog start) progress.iterations before =
        .ok survey rounded ∧ survey.errors = [] ∧ survey.diagnostics = [] := by
    rcases ended.inversion members (engine.fixers_catalog start) with ⟨rfl, -⟩ | ⟨rfl, requested⟩ |
      ⟨rfl, converged⟩ | rfl | ⟨errors, rfl⟩
    · cases whole
    · rw [← sameCancellation, running] at requested
      cases requested
    · exact converged
    · cases success
    · cases success
  obtain ⟨present, -⟩ := survey_eq_ok.mp surveyed
  obtain ⟨kept, again⟩ := readers.survey_again members surveyed
  have lastPresent : last.workspace.snapshot? start.id = some survey.unit := by
    rw [sameWorkspace, kept, present]
  -- The unit may have changed since the catalog was made, but not its language.
  have spoken : survey.unit.language = start.language := by
    have begins : ∀ unit, session.workspace.snapshot? start.id = some unit →
        unit.language = start.language := by
      intro unit other
      rw [Option.some.inj (found.symm.trans other)]
    exact ((Fixes.of_stable (language_stable _ _)).fixUnit_keeps.of_ok begins ran) _ lastPresent
  have same : engine.catalog start = engine.catalog survey.unit := (catalog_congr spoken).symm
  have settled := readers.settled_of_survey members same surveyed builds empty
  refine ⟨survey.unit, lastPresent, settled, ?_⟩
  intro later workspace notRequested
  have learns := (Determined.forM fun descriptor _ => Determined.learn descriptor).of_ok learnt
  obtain ⟨learntLater, learning, -⟩ := learns.2 later
  obtain ⟨learntWorkspace, learntCancellation⟩ := learnt_session learning
  have presentLater : learntLater.workspace.snapshot? start.id = some survey.unit := by
    rw [learntWorkspace, workspace, lastPresent]
  obtain ⟨after, resurveyed, unchanged⟩ := again learntLater 0 presentLater
  rw [same] at analyzers fixers learning resurveyed
  have refixed := fixUnit_of_survey (workspace ▸ lastPresent) analyzers fixers
    (learntCancellation ▸ notRequested) learning resurveyed builds empty
  refine ⟨_, after, refixed, rfl, rfl, rfl, ?_, ?_, ?_⟩
  · simp [unitResult, sortedIds]
  · simp [unitResult, sortedIds]
  · rw [unchanged, learntWorkspace, workspace]

/-- A second run leaves a newline that was added by the first alone. -/
theorem fixUnit_converges_unended : ∃ result last again after,
    (FinalNewline.engine {}).fixUnit "a" FinalNewline.session = .ok result last ∧
      result.fixedIds = ["CF0003"] ∧
      (FinalNewline.engine {}).fixUnit "a" last = .ok again after ∧ again.iterations = 0 ∧
      after.workspace = last.workspace := by
  have evaluated : peek? (fun result last =>
      (result.kind, result.limitReached, result.fixedIds, last.cancellation.isRequested))
      ((FinalNewline.engine {}).fixUnit "a" FinalNewline.session) =
        some (.success, false, ["CF0003"], false) := by decide +kernel
  obtain ⟨result, last, ran, seen⟩ := peek?_eq_some.mp evaluated
  obtain ⟨success, whole, fixed, running⟩ := by simpa only [Prod.mk.injEq] using seen
  obtain ⟨unit, -, -, settled⟩ :=
    fixUnit_converges FinalNewline.statelessPlugins.toStatelessReaders ran success whole running
  obtain ⟨again, after, refixed, -, -, count, -, -, kept⟩ := settled last rfl running
  exact ⟨result, last, again, after, ran, fixed, refixed, count, kept⟩

end Engine

end FixLoop
