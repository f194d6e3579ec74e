import FixLoop.Proofs.Plugin.Letters
import FixLoop.Proofs.Session.Checking
import FixLoop.Proofs.Session.Convergence
import FixLoop.Proofs.Session.Endings
import FixLoop.Proofs.Session.Handing

/-!
Whether diagnosing a unit foretells what fixing it does. Both look at the same snapshot in the same
way, but fixing a unit ends at once if there is nobody to analyze or to fix it, and diagnosing it
does not ask for that. So the two disagree exactly where the compiler alone found something.
-/

namespace FixLoop

namespace Engine

open Run

variable {σ : Type} {engine : Engine σ} {unitId : String} {catalog : Catalog σ}
  {unit : SourceUnit} {session begun start last : Session σ} {survey : Survey}
  {errors diagnostics : List Diagnostic} {progress final : Progress} {visits : List Visit}

/-! ### What is foretold -/

/-- Whether there is anybody to analyze and anybody to fix a unit. -/
def Enters (engine : Engine σ) (unit : SourceUnit) : Prop :=
  (engine.catalog unit).analyzers ≠ [] ∧ (engine.catalog unit).fixers ≠ []

/-- Whether fixing a unit, however it ends, goes into a round for some diagnostics: its first survey
finds them, it notes so, and the round counts in a result. -/
def Attempts (engine : Engine σ) (unitId : String) (diagnostics : List Diagnostic)
    (session : Session σ) : Prop :=
  ∃ unit begun survey surveyed, session.workspace.snapshot? unitId = some unit ∧
    (engine.catalog unit).descriptors.forM learn session = .ok () begun ∧
    engine.survey unitId (engine.catalog unit) 0 begun = .ok survey surveyed ∧
    survey.diagnostics = diagnostics ∧
    .found diagnostics.length unit.displayName :: surveyed.journal <:+
      (Run.final (engine.fixUnit unitId session)).journal ∧
    ∀ result last, engine.fixUnit unitId session = .ok result last → 1 ≤ result.iterations

/-- Whether what diagnosing a unit came to is what fixing it then does. -/
structure Foretells (engine : Engine σ) (unitId : String) (errors diagnostics : List Diagnostic)
    (session : Session σ) : Prop where
  fails : errors ≠ [] → ∃ result last, engine.fixUnit unitId session = .ok result last ∧
    result.kind = .compilerError ∧ result.compilerErrors = errors ∧ result.iterations = 0
  attempts : errors = [] → diagnostics ≠ [] → engine.Attempts unitId diagnostics session
  rests : errors = [] → diagnostics = [] → ∃ result last,
    engine.fixUnit unitId session = .ok result last ∧ result.iterations = 0 ∧
      last.workspace = session.workspace

/-! ### What diagnosing sees -/

/-- Diagnosing a unit is examining its snapshot. -/
theorem diagnose_eq_ok :
    engine.diagnose unitId session = .ok (errors, diagnostics) last ↔
      ∃ survey, session.workspace.snapshot? unitId = some survey.unit ∧
        engine.examine survey.unit (engine.fixable survey.unit (engine.catalog survey.unit))
          session = .ok survey last ∧
        survey.errors = errors ∧ survey.diagnostics = diagnostics := by
  constructor
  · intro diagnosed
    obtain ⟨unit, _, fetched, diagnosed⟩ := bind_eq_ok.mp diagnosed
    obtain ⟨present, rfl⟩ := snapshot_eq_ok.mp fetched
    obtain ⟨compilerDiagnostics, compiled, reported, diagnosed⟩ := bind_eq_ok.mp diagnosed
    obtain ⟨blocking, verified, checked, diagnosed⟩ := bind_eq_ok.mp diagnosed
    split at diagnosed
    · rename_i none
      obtain rfl : blocking = [] := by simpa using none
      obtain ⟨found, _, looked, answered⟩ := bind_eq_ok.mp diagnosed
      obtain ⟨same, rfl⟩ := pure_eq_ok.mp answered
      cases same
      exact ⟨⟨unit, compilerDiagnostics, [], diagnostics⟩, present, examine_eq_ok.mpr
        ⟨rfl, compiled, verified, reported, checked, .inr ⟨rfl, looked⟩⟩, rfl, rfl⟩
    · rename_i some
      obtain ⟨same, rfl⟩ := pure_eq_ok.mp diagnosed
      cases same
      exact ⟨⟨unit, compilerDiagnostics, errors, []⟩, present, examine_eq_ok.mpr ⟨rfl, compiled,
        verified, reported, checked, .inl ⟨by simpa using some, rfl, rfl⟩⟩, rfl, rfl⟩
  · rintro ⟨survey, present, examined, rfl, rfl⟩
    obtain ⟨-, compiled, verified, reported, checked, rest⟩ := examine_eq_ok.mp examined
    refine bind_eq_ok.mpr ⟨_, session, snapshot_eq_ok.mpr ⟨present, rfl⟩, ?_⟩
    refine bind_eq_ok.mpr ⟨_, compiled, reported, bind_eq_ok.mpr ⟨_, verified, checked, ?_⟩⟩
    rcases rest with ⟨blocked, none, rfl⟩ | ⟨builds, looked⟩
    · rw [if_neg (by simpa using blocked), none]
      rfl
    · rw [if_pos (by simp [builds]), builds]
      exact bind_eq_ok.mpr ⟨_, last, looked, rfl⟩

/-- What diagnosing a unit comes to is what every survey of the same snapshot finds. -/
theorem StatelessReaders.survey_of_diagnose (readers : engine.StatelessReaders)
    (diagnosed : engine.diagnose unitId session = .ok (errors, diagnostics) last) :
    ∃ unit, session.workspace.snapshot? unitId = some unit ∧
      ∀ (other : Session σ) (rounds : Nat), other.workspace.snapshot? unitId = some unit →
        ∃ survey after, engine.survey unitId (engine.catalog unit) rounds other =
            .ok survey after ∧
          survey.unit = unit ∧ survey.errors = errors ∧ survey.diagnostics = diagnostics ∧
          after.workspace = other.workspace := by
  obtain ⟨survey, present, examined, rfl, rfl⟩ := diagnose_eq_ok.mp diagnosed
  obtain ⟨-, compiled, verified, reported, checked, rest⟩ := examine_eq_ok.mp examined
  have compiles := (compile_determined (readers.compiler survey.unit)).of_ok reported
  have verifies := (engine.verifyBuild_determined survey.compilerDiagnostics).of_ok checked
  refine ⟨survey.unit, present, fun other rounds found => ?_⟩
  obtain ⟨compiled, reported, same⟩ := compiles.2 { other with
    journal := .compiling survey.unit.displayName rounds :: other.journal }
  obtain ⟨verified, checked, kept⟩ := verifies.2 compiled
  rcases rest with ⟨blocked, none, -⟩ | ⟨builds, looked⟩
  · exact ⟨survey, verified, survey_eq_ok.mpr ⟨found, examine_eq_ok.mpr ⟨rfl, compiled, verified,
      reported, checked, .inl ⟨blocked, none, rfl⟩⟩⟩, rfl, rfl, rfl, kept.trans same⟩
  · have members := engine.analyzers_catalog survey.unit
    have finds := (readers.fixable_determined members survey.unit _).of_ok looked
    obtain ⟨after, analyzed, left⟩ := finds.2 { verified with
      journal := .analyzing survey.unit.displayName :: verified.journal }
    exact ⟨survey, after, survey_eq_ok.mpr ⟨found, examine_eq_ok.mpr ⟨rfl, compiled, verified,
      reported, checked, .inr ⟨builds, bind_eq_ok.mpr ⟨(), _, rfl, analyzed⟩⟩⟩⟩, rfl, rfl, rfl,
      left.trans (kept.trans same)⟩

/-! ### What fixing does -/

theorem act_of_errors (blocked : survey.errors ≠ []) :
    engine.act unitId catalog progress survey session =
      .ok (.ended progress (.buildFailed survey.errors)) session := by
  unfold act
  rw [if_pos (by simpa using blocked)]
  rfl

/-- What a round does that found something new. -/
theorem act_of_found (builds : survey.errors = []) (found : survey.diagnostics ≠ [])
    (fresh : progress.repeats survey.diagnostics = false) :
    engine.act unitId catalog progress survey session =
      (engine.fixIds unitId catalog (idSet (survey.diagnostics.map (·.id)))
          { progress with iterations := progress.iterations + 1 } >>=
        fun result => return result.afterFixing survey.diagnostics)
        { session with
          journal := .found survey.diagnostics.length survey.unit.displayName ::
            session.journal } := by
  unfold act
  rw [if_neg (by simp [builds]), if_neg (by simpa using found), if_neg (by simp [fresh]),
    bind_of_ok (note_apply _ _)]

theorem repeats_nothing (found : diagnostics ≠ []) :
    ({} : Progress).repeats diagnostics = false := by
  simp [Progress.repeats, Diagnostic.not_sameFindings_nil found]

/-- Rounds are counted and never forgotten. -/
theorem RoundStep.iterations_le {result : RoundResult}
    (step : engine.RoundStep unitId catalog progress session visits result last) :
    progress.iterations ≤ result.progress.iterations := by
  cases step with
  | @acted survey middle after outcomes result surveyed builds found fresh fixing =>
    have remembered : result.progress.iterations = progress.iterations + 1 := fixing.remembers.1
    cases result <;> exact remembered ▸ Nat.le_succ _
  | _ => exact Nat.le_refl _

/-- Rounds of which the first found something to fix are at least one. -/
theorem Ended.iterations_pos {limit : Nat} {ending : UnitEnding} {after : Session σ}
    (running : start.cancellation.isRequested = false) (positive : 0 < limit)
    (surveyed : engine.survey unitId catalog 0 start = .ok survey after)
    (builds : survey.errors = []) (found : survey.diagnostics ≠ [])
    (ended : engine.Ended unitId catalog start limit visits final ending last) :
    1 ≤ final.iterations := by
  cases ended with
  | limit completed reached => exact reached ▸ positive
  | round completed below step =>
    cases completed with
    | round earlier before =>
      exact Nat.le_trans (before.iterations ▸ Nat.le_add_left 1 _) step.iterations_le
    | start =>
      generalize same : RoundResult.ended final ending = result at step
      have alike {other : Survey} {middle : Session σ}
          (again : engine.survey unitId catalog 0 start = .ok other middle) : other = survey := by
        cases again.symm.trans surveyed
        rfl
      cases step with
      | interrupted requested => simp [running] at requested
      | broken again blocked => exact absurd (alike again ▸ builds) blocked
      | converged again _ empty => exact absurd (alike again ▸ empty) found
      | oscillated again _ some repeated => simp [repeats_nothing some] at repeated
      | @acted _ _ _ outcomes result again _ _ _ fixing =>
        have remembered : result.progress.iterations = 0 + 1 := fixing.remembers.1
        cases result with
        | again next => cases same
        | ended other _ =>
          cases same
          exact Nat.le_of_eq remembered.symm

section

variable (present : session.workspace.snapshot? unitId = some unit)
  (analyzers : (engine.catalog unit).analyzers ≠ []) (fixers : (engine.catalog unit).fixers ≠ [])
  (running : begun.cancellation.isRequested = false)
  (learnt : (engine.catalog unit).descriptors.forM learn session = .ok () begun)
  (surveyed : engine.survey unitId (engine.catalog unit) 0 begun = .ok survey last)

include present analyzers fixers running learnt surveyed

/-- A unit that does not build is given up before the first round counts. -/
theorem fixUnit_of_errors (blocked : survey.errors ≠ []) :
    engine.fixUnit unitId session =
      .ok (unitResult unit (engine.catalog unit) {} (.buildFailed survey.errors)) last := by
  have round : engine.round unitId (engine.catalog unit) {} begun =
      .ok (.ended {} (.buildFailed survey.errors)) last :=
    (round_of_survey running surveyed).trans (act_of_errors blocked)
  exact fixUnit_of_round present analyzers fixers learnt round rfl

/-- What is noted in the first round stays noted. -/
theorem suffix_fixUnit {noted : List Event}
    (first : noted <:+
      (Run.final (engine.act unitId (engine.catalog unit) {} survey last)).journal) :
    noted <:+ (Run.final (engine.fixUnit unitId session)).journal := by
  have fixes := engine.fixes_journal unitId { last with journal := noted }
  have members := engine.analyzers_catalog unit
  have able := engine.fixers_catalog unit
  have rounds := Moves.rounds_keeps (fixes.round_keeps fixes.reads members fun ids =>
    Moves.fixIds_keeps fun id _ => fixes.fixDiagnostic_keeps members able id)
  rw [← round_of_survey running surveyed] at first
  have whole (more : Nat) : noted <:+
      (Run.final (engine.rounds unitId (engine.catalog unit) more {} begun)).journal := by
    cases ran : engine.round unitId (engine.catalog unit) {} begun with
    | error fault after =>
      rw [ran] at first
      have failed : engine.rounds unitId (engine.catalog unit) more {} begun =
          .error fault after := by cases more <;> exact bind_of_error ran
      rwa [failed]
    | ok result middle =>
      rw [ran] at first
      cases result with
      | ended progress ending =>
        have ended : engine.rounds unitId (engine.catalog unit) more {} begun =
            .ok (progress, ending) middle := by cases more <;> exact bind_of_ok ran
        rwa [ended]
      | again progress =>
        cases more with
        | zero =>
          have limited : engine.rounds unitId (engine.catalog unit) 0 {} begun =
              .ok (progress, .limitReached) middle := bind_of_ok ran
          rwa [limited]
        | succ more =>
          have goesOn : engine.rounds unitId (engine.catalog unit) (more + 1) {} begun =
              engine.rounds unitId (engine.catalog unit) more progress middle := bind_of_ok ran
          rw [goesOn]
          exact (rounds more progress).final first
  have kept := whole (engine.config.maxIterations - 1)
  rw [fixUnit_eq_rounds present analyzers fixers learnt]
  cases ran : engine.rounds unitId (engine.catalog unit) (engine.config.maxIterations - 1) {}
      begun with
  | error fault after =>
    rw [ran] at kept
    rwa [bind_of_error ran]
  | ok answer middle =>
    rw [ran] at kept
    rw [bind_of_ok ran]
    exact ((fixes.noteEnding_keeps unit answer.1 answer.2).bind fun _ => .pure _).final kept

/-- A unit in which something is found is taken into a round. -/
theorem attempts_of_survey (own : survey.unit = unit) (builds : survey.errors = [])
    (found : survey.diagnostics ≠ []) : engine.Attempts unitId survey.diagnostics session := by
  refine ⟨unit, begun, survey, last, present, learnt, surveyed, rfl, ?_, fun result after ran => ?_⟩
  · refine suffix_fixUnit present analyzers fixers running learnt surveyed ?_
    have fixes := engine.fixes_journal unitId { last with
      journal := .found survey.diagnostics.length survey.unit.displayName :: last.journal }
    have ids : ∀ progress, (engine.fixIds unitId (engine.catalog unit)
        (idSet (survey.diagnostics.map (·.id))) progress).Keeps _ _ :=
      Moves.fixIds_keeps fun id _ => fixes.fixDiagnostic_keeps (engine.analyzers_catalog unit)
        (engine.fixers_catalog unit) id
    rw [act_of_found builds found (repeats_nothing found), ← own]
    exact own ▸ ((ids _).bind fun _ => .pure _).final List.suffix_rfl
  · obtain ⟨other, known, gone⟩ := fixUnit_of_ok ran
    obtain rfl : unit = other := Option.some.inj (present.symm.trans known)
    rcases gone with ⟨none, -⟩ | ⟨none, -⟩ | ⟨-, -, visits, progress, ending, course, rfl⟩
    · exact absurd none analyzers
    · exact absurd none fixers
    obtain ⟨other, rounded, learns, ended, -⟩ := course
    obtain rfl : begun = other := by
      cases learnt.symm.trans learns
      rfl
    obtain rfl := Workspace.id_of_snapshot? present
    exact ended.iterations_pos running engine.config.maxIterations_pos surveyed builds found

/-- If a unit is entered, then what its first survey finds is what fixing it goes by. -/
theorem foretells_of_survey (own : survey.unit = unit)
    (kept : last.workspace = session.workspace) :
    engine.Foretells unitId survey.errors survey.diagnostics session where
  fails blocked := ⟨_, last,
    fixUnit_of_errors present analyzers fixers running learnt surveyed blocked, rfl, rfl, rfl⟩
  attempts builds found :=
    attempts_of_survey present analyzers fixers running learnt surveyed own builds found
  rests builds empty := ⟨_, last,
    fixUnit_of_survey present analyzers fixers running learnt surveyed builds empty, rfl, kept⟩

end

/-- Fixing a unit ends before the first round if nobody analyzes it or nobody fixes it. -/
theorem fixUnit_of_unentered (present : session.workspace.snapshot? unitId = some unit)
    (unentered : ¬ engine.Enters unit) :
    ∃ result last, engine.fixUnit unitId session = .ok result last ∧
      result.kind =
        (if (engine.catalog unit).analyzers.isEmpty then .noAnalyzers else .noFixers) ∧
      result.iterations = 0 ∧ last.workspace = session.workspace := by
  obtain ⟨begun, learnt⟩ := exists_learnt (engine.catalog unit).descriptors session
  have kept := (learnt_session learnt).1
  rw [fixUnit_eq, bind_of_ok (snapshot_eq_ok.mpr ⟨present, rfl⟩), fixFound, bind_of_ok learnt]
  by_cases analyzers : (engine.catalog unit).analyzers.isEmpty
  · rw [if_pos analyzers, if_pos analyzers]
    exact ⟨_, _, rfl, rfl, rfl, kept⟩
  · have fixers : (engine.catalog unit).fixers.isEmpty := by
      by_contra some
      exact unentered ⟨by simpa using analyzers, by simpa using some⟩
    rw [if_neg analyzers, if_neg analyzers, if_pos fixers]
    exact ⟨_, _, rfl, rfl, rfl, kept⟩

/-- Fixing a unit that is not entered does what diagnosing it foretells only if that is nothing. -/
theorem foretells_of_unentered (present : session.workspace.snapshot? unitId = some unit)
    (unentered : ¬ engine.Enters unit) :
    engine.Foretells unitId errors diagnostics session ↔ errors = [] ∧ diagnostics = [] := by
  obtain ⟨result, last, ran, kind, none, kept⟩ := fixUnit_of_unentered present unentered
  constructor
  · intro foretells
    by_cases builds : errors = []
    · refine ⟨builds, ?_⟩
      by_contra found
      obtain ⟨_, _, _, _, -, -, -, -, -, counted⟩ := foretells.attempts builds found
      have positive := counted result last ran
      omega
    · obtain ⟨_, _, failed, blocked, -⟩ := foretells.fails builds
      cases ran.symm.trans failed
      rw [blocked] at kind
      split at kind <;> cases kind
  · rintro ⟨rfl, rfl⟩
    exact {
      fails := fun some => absurd rfl some
      attempts := fun _ some => absurd rfl some
      rests := fun _ _ => ⟨result, last, ran, none, kept⟩ }

/-- With a compiler and analyzers that are stateless, what diagnosing a unit comes to is what fixing
it goes by, if there is anybody to analyze and anybody to fix it. Otherwise fixing it ends at once,
so something was foretold wrongly exactly if anything was found. -/
theorem diagnose_foretells {other : Session σ} (readers : engine.StatelessReaders)
    (diagnosed : engine.diagnose unitId session = .ok (errors, diagnostics) last)
    (same : other.workspace = session.workspace)
    (running : other.cancellation.isRequested = false) :
    ∃ unit, session.workspace.snapshot? unitId = some unit ∧
      (engine.Foretells unitId errors diagnostics other ↔
        engine.Enters unit ∨ errors = [] ∧ diagnostics = []) ∧
      (¬ engine.Enters unit → ∃ result last, engine.fixUnit unitId other = .ok result last ∧
        result.kind =
          (if (engine.catalog unit).analyzers.isEmpty then .noAnalyzers else .noFixers) ∧
        result.iterations = 0 ∧ last.workspace = other.workspace) := by
  obtain ⟨unit, found, sees⟩ := readers.survey_of_diagnose diagnosed
  have present : other.workspace.snapshot? unitId = some unit := same ▸ found
  refine ⟨unit, found, ?_, fixUnit_of_unentered present⟩
  by_cases entered : engine.Enters unit
  · obtain ⟨begun, learnt⟩ := exists_learnt (engine.catalog unit).descriptors other
    obtain ⟨workspace, cancellation⟩ := learnt_session learnt
    obtain ⟨survey, after, surveyed, own, rfl, rfl, kept⟩ := sees begun 0 (workspace ▸ present)
    have foretells := foretells_of_survey present entered.1 entered.2 (cancellation ▸ running)
      learnt surveyed own (kept.trans workspace)
    exact ⟨fun _ => .inl entered, fun _ => foretells⟩
  · rw [foretells_of_unentered present entered]
    exact ⟨.inr, fun foretold => foretold.resolve_left entered⟩

end Engine

namespace Unasked

/-! Nobody analyzes the unit, in which the compiler warns of a letter that could be replaced. -/

def engine : Engine Unit where
  analyzers := []
  fixers := [Letters.fixer (Letters.replacing 'q')]
  compiler := Sharing.engine.compiler
  formatter := Formatting.whitespace
  config := default
  passLimit := 4

def session : Session Unit := Letters.session ['c']

def warnings : List Diagnostic :=
  Letters.diagnostics { Letters.descriptor with severity := .warning } .compiler 'c'
    (Letters.source ['c'])

theorem statelessPlugins : engine.StatelessPlugins where
  compiler _ := ⟨_, fun _ => ⟨rfl, rfl⟩⟩
  analyzers _ member := by cases member
  offers fixer able diagnostic unit := by
    obtain rfl := List.mem_singleton.mp able
    exact Letters.replacing_isStateless diagnostic unit
  fixAll fixer able context := by
    obtain rfl := List.mem_singleton.mp able
    exact Callback.IsStateless.closed.fixAll fun diagnostic =>
      Letters.replacing_isStateless diagnostic context.unit

theorem diagnose_session : ∃ last, engine.diagnose "a" session = .ok ([], warnings) last := by
  have evaluated : Run.peek? (fun seen _ => seen) (engine.diagnose "a" session) =
      some ([], warnings) := by decide +kernel
  obtain ⟨_, last, diagnosed, rfl⟩ := Run.peek?_eq_some.mp evaluated
  exact ⟨last, diagnosed⟩

/-- What is diagnosed is not what fixing the unit goes by. -/
theorem diagnose_foretells_warned :
    ∃ last, engine.diagnose "a" session = .ok ([], warnings) last ∧
      ¬ engine.Foretells "a" [] warnings session := by
  obtain ⟨last, diagnosed⟩ := diagnose_session
  obtain ⟨unit, -, exactly, -⟩ :=
    Engine.diagnose_foretells statelessPlugins.toStatelessReaders diagnosed rfl rfl
  refine ⟨last, diagnosed, fun foretells => ?_⟩
  rcases exactly.mp foretells with ⟨some, -⟩ | ⟨-, none⟩
  · exact some rfl
  · exact absurd none (by decide)

/-- The warning is diagnosed, but fixing the unit does not go into a round. -/
theorem warned_but_unentered :
    engine.StatelessPlugins ∧ session.cancellation.isRequested = false ∧
      ∃ diagnosed result last, engine.diagnose "a" session = .ok ([], warnings) diagnosed ∧
        warnings ≠ [] ∧ engine.fixUnit "a" session = .ok result last ∧
        result.kind = .noAnalyzers ∧ result.iterations = 0 := by
  obtain ⟨diagnosed, warned⟩ := diagnose_session
  exact ⟨statelessPlugins, rfl, diagnosed, _, _, warned, by decide, rfl, rfl, rfl⟩

end Unasked

end FixLoop
