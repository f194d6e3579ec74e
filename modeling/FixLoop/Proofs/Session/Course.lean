import FixLoop.Proofs.Session.Passing
import FixLoop.Proofs.Workspace.Ordering

/-!
The course of rounds over a unit. A round first surveys the unit and then, unless the survey ends
the unit, fixes identifiers in turn. Every run of rounds is a number of completed rounds and then
one that ends the unit, or the limit; the visits record what each round saw and did.
-/

namespace FixLoop

/-- A round that surveyed its unit: what it found, and what came of each identifier it fixed. -/
structure Visit where
  survey : Survey
  outcomes : List (String × FixOutcome) := []

/-- Whether a report is that of one of the two rounds before. -/
def Progress.repeats (progress : Progress) (diagnostics : List Diagnostic) : Bool :=
  Diagnostic.sameFindings diagnostics progress.previous ||
    Diagnostic.sameFindings diagnostics progress.beforePrevious

/-- What carries over from a round that acted on a report. -/
def RoundResult.afterFixing (diagnostics : List Diagnostic) : RoundResult → RoundResult
  | ended progress ending => ended progress ending
  | again progress =>
    again { progress with previous := diagnostics, beforePrevious := progress.previous }

/-- What is carried on, or was carried to the end. -/
def RoundResult.progress : RoundResult → Progress
  | again progress => progress
  | ended progress _ => progress

@[simp] theorem Progress.iterations_record (progress : Progress) (id : String)
    (outcome : FixOutcome) : (progress.record id outcome).iterations = progress.iterations := rfl

@[simp] theorem Progress.previous_record (progress : Progress) (id : String)
    (outcome : FixOutcome) : (progress.record id outcome).previous = progress.previous := rfl

@[simp] theorem Progress.beforePrevious_record (progress : Progress) (id : String)
    (outcome : FixOutcome) :
    (progress.record id outcome).beforePrevious = progress.beforePrevious := rfl

namespace Engine

open Run

variable {σ : Type}

/-- How fixing identifiers in turn can go. The outcomes are those of the identifiers that were
fixed, the last of which may have found that the unit does not build. -/
inductive Fixing (engine : Engine σ) (unitId : String) (catalog : Catalog σ) :
    List String → Progress → Session σ → List (String × FixOutcome) → RoundResult → Session σ →
      Prop where
  | done {progress : Progress} {session : Session σ} :
    Fixing engine unitId catalog [] progress session [] (.again progress) session
  | stopped {id : String} {rest : List String} {progress : Progress} {session : Session σ}
      (requested : session.cancellation.isRequested = true) :
    Fixing engine unitId catalog (id :: rest) progress session [] (.ended progress .interrupted)
      session
  | interrupted {id : String} {rest : List String} {progress : Progress}
      {session after : Session σ}
      (failed : engine.fixDiagnostic unitId catalog id session = .error .cancelled after) :
    Fixing engine unitId catalog (id :: rest) progress session [] (.ended progress .interrupted)
      after
  | broken {id : String} {rest : List String} {progress : Progress} {session after : Session σ}
      {outcome : FixOutcome} {errors : List Diagnostic}
      (fixed : engine.fixDiagnostic unitId catalog id session = .ok outcome after)
      (failed : outcome.ending = .buildFailed errors) :
    Fixing engine unitId catalog (id :: rest) progress session [(id, outcome)]
      (.ended (progress.record id outcome) (.buildFailed errors)) after
  | next {id : String} {rest : List String} {progress : Progress} {session middle after : Session σ}
      {outcome : FixOutcome} {outcomes : List (String × FixOutcome)} {result : RoundResult}
      (fixed : engine.fixDiagnostic unitId catalog id session = .ok outcome middle)
      (builds : ∀ errors, outcome.ending ≠ .buildFailed errors)
      (later : Fixing engine unitId catalog rest (progress.record id outcome) middle outcomes result
        after) :
    Fixing engine unitId catalog (id :: rest) progress session ((id, outcome) :: outcomes) result
      after

/-- How one round can go. -/
inductive RoundStep (engine : Engine σ) (unitId : String) (catalog : Catalog σ)
    (progress : Progress) (session : Session σ) :
    List Visit → RoundResult → Session σ → Prop where
  | interrupted (requested : session.cancellation.isRequested = true) :
    RoundStep engine unitId catalog progress session [] (.ended progress .interrupted) session
  | broken {survey : Survey} {after : Session σ}
      (surveyed : engine.survey unitId catalog progress.iterations session = .ok survey after)
      (blocked : survey.errors ≠ []) :
    RoundStep engine unitId catalog progress session [⟨survey, []⟩]
      (.ended progress (.buildFailed survey.errors)) after
  | converged {survey : Survey} {after : Session σ}
      (surveyed : engine.survey unitId catalog progress.iterations session = .ok survey after)
      (builds : survey.errors = []) (empty : survey.diagnostics = []) :
    RoundStep engine unitId catalog progress session [⟨survey, []⟩] (.ended progress .converged)
      after
  | oscillated {survey : Survey} {after : Session σ}
      (surveyed : engine.survey unitId catalog progress.iterations session = .ok survey after)
      (builds : survey.errors = []) (found : survey.diagnostics ≠ [])
      (repeated : progress.repeats survey.diagnostics = true) :
    RoundStep engine unitId catalog progress session [⟨survey, []⟩] (.ended progress .oscillated)
      { after with
        journal := (survey.diagnostics.map .listed).reverse ++
          .oscillating survey.unit.displayName :: after.journal }
  | acted {survey : Survey} {middle after : Session σ} {outcomes : List (String × FixOutcome)}
      {result : RoundResult}
      (surveyed : engine.survey unitId catalog progress.iterations session = .ok survey middle)
      (builds : survey.errors = []) (found : survey.diagnostics ≠ [])
      (fresh : progress.repeats survey.diagnostics = false)
      (fixed : Fixing engine unitId catalog (idSet (survey.diagnostics.map (·.id)))
        { progress with iterations := progress.iterations + 1 }
        { middle with
          journal := .found survey.diagnostics.length survey.unit.displayName :: middle.journal }
        outcomes result after) :
    RoundStep engine unitId catalog progress session [⟨survey, outcomes⟩]
      (result.afterFixing survey.diagnostics) after

/-- The rounds that were completed, with what is carried into the next one and the session then. -/
inductive Completed (engine : Engine σ) (unitId : String) (catalog : Catalog σ)
    (start : Session σ) : List Visit → Progress → Session σ → Prop where
  | start : Completed engine unitId catalog start [] {} start
  | round {visits visit : List Visit} {progress next : Progress} {session after : Session σ}
      (earlier : Completed engine unitId catalog start visits progress session)
      (step : RoundStep engine unitId catalog progress session visit (.again next) after) :
    Completed engine unitId catalog start (visits ++ visit) next after

/-- How rounds over a unit end: at their limit, or in a round that ends the unit. -/
inductive Ended (engine : Engine σ) (unitId : String) (catalog : Catalog σ) (start : Session σ)
    (limit : Nat) : List Visit → Progress → UnitEnding → Session σ → Prop where
  | limit {visits : List Visit} {progress : Progress} {last : Session σ}
      (completed : Completed engine unitId catalog start visits progress last)
      (reached : progress.iterations = limit) :
    Ended engine unitId catalog start limit visits progress .limitReached last
  | round {visits visit : List Visit} {progress final : Progress} {session last : Session σ}
      {ending : UnitEnding}
      (completed : Completed engine unitId catalog start visits progress session)
      (below : progress.iterations < limit)
      (step : RoundStep engine unitId catalog progress session visit (.ended final ending) last) :
    Ended engine unitId catalog start limit (visits ++ visit) final ending last

/-- How fixing a unit that has plugins goes: what its analyzers declare is learnt, rounds follow,
and their ending is noted. -/
def Course (engine : Engine σ) (unit : SourceUnit) (session : Session σ) (visits : List Visit)
    (progress : Progress) (ending : UnitEnding) (last : Session σ) : Prop :=
  ∃ begun rounded,
    (engine.catalog unit).descriptors.forM learn session = .ok () begun ∧
      engine.Ended unit.id (engine.catalog unit) begun engine.config.maxIterations visits progress
        ending rounded ∧
      noteEnding unit progress ending rounded = .ok () last

variable {engine : Engine σ} {unitId : String} {catalog : Catalog σ}
  {start session last : Session σ} {progress final : Progress}

/-- Fixing identifiers leaves what rounds remember of one another alone. -/
theorem Fixing.remembers {ids : List String} {outcomes : List (String × FixOutcome)}
    {result : RoundResult}
    (fixing : Fixing engine unitId catalog ids progress session outcomes result last) :
    result.progress.iterations = progress.iterations ∧
      result.progress.previous = progress.previous ∧
      result.progress.beforePrevious = progress.beforePrevious := by
  induction fixing with
  | next fixed builds later ih => simpa using ih
  | _ => simp [RoundResult.progress]

/-- Identifiers that were all fixed, none of them to a failed build. -/
theorem Fixing.complete {ids : List String} {outcomes : List (String × FixOutcome)}
    {next : Progress}
    (fixing : engine.Fixing unitId catalog ids progress session outcomes (.again next) last) :
    outcomes.map (·.1) = ids ∧
      ∀ outcome ∈ outcomes, ∀ errors, outcome.2.ending ≠ .buildFailed errors := by
  generalize same : RoundResult.again next = result at fixing
  induction fixing with
  | done => exact ⟨rfl, nofun⟩
  | next fixed builds later ih =>
    obtain ⟨all, unbroken⟩ := ih same
    refine ⟨by rw [List.map_cons, all], ?_⟩
    intro outcome member
    rcases List.mem_cons.mp member with rfl | member
    · exact builds
    · exact unbroken outcome member
  | _ => cases same

/-- Identifiers in turn are fixed until one does not build or cancellation was requested. -/
theorem Fixing.ended {ids : List String} {outcomes : List (String × FixOutcome)}
    {ending : UnitEnding}
    (analyzers : catalog.analyzers ⊆ engine.analyzers) (fixers : catalog.fixers ⊆ engine.fixers)
    (fixing : engine.Fixing unitId catalog ids progress session outcomes (.ended final ending)
      last) :
    (∃ outcome ∈ outcomes, ∃ errors, errors ≠ [] ∧ ending = .buildFailed errors ∧
        outcome.2.ending = .buildFailed errors) ∨
      ending = .interrupted ∧ last.cancellation.isRequested = true := by
  generalize same : RoundResult.ended final ending = result at fixing
  induction fixing with
  | done => cases same
  | stopped requested =>
    cases same
    exact .inr ⟨rfl, requested⟩
  | interrupted failed =>
    cases same
    have fixes : engine.Fixes unitId (fun _ => True) fun fault _ => fault ≠ .cancelled :=
      .of_stable Session.stable_true
    have kept := (fixes.fixDiagnostic_keeps analyzers fixers _).of_error trivial failed
    rcases kept.2 with other | ⟨-, requested⟩
    · exact absurd rfl other
    · exact .inr ⟨rfl, requested⟩
  | broken fixed failed =>
    cases same
    exact .inl ⟨_, List.mem_singleton_self _, _, errors_ne_nil_of_fixDiagnostic fixed failed, rfl,
      failed⟩
  | next fixed builds later ih =>
    rcases ih same with ⟨outcome, member, found⟩ | interrupted
    · exact .inl ⟨outcome, List.mem_cons_of_mem _ member, found⟩
    · exact .inr interrupted

theorem fixing_of_ok {ids : List String} {result : RoundResult}
    (ran : engine.fixIds unitId catalog ids progress session = .ok result last) :
    ∃ outcomes, Fixing engine unitId catalog ids progress session outcomes result last := by
  induction ids generalizing progress session with
  | nil =>
    obtain ⟨rfl, rfl⟩ := pure_eq_ok.mp ran
    exact ⟨[], .done⟩
  | cons id rest ih =>
    obtain ⟨cancelled, _, asked, ran⟩ := bind_eq_ok.mp ran
    cases asked
    split at ran
    · rename_i requested
      obtain ⟨rfl, rfl⟩ := pure_eq_ok.mp ran
      exact ⟨[], .stopped requested⟩
    · obtain ⟨outcome?, middle, attempted, ran⟩ := bind_eq_ok.mp ran
      unfold orCancelled at attempted
      cases fixed : engine.fixDiagnostic unitId catalog id session with
      | error fault after =>
        rw [fixed] at attempted
        cases fault with
        | cancelled =>
          cases attempted
          obtain ⟨rfl, rfl⟩ := pure_eq_ok.mp ran
          exact ⟨[], .interrupted fixed⟩
        | _ => cases attempted
      | ok outcome after =>
        rw [fixed] at attempted
        cases attempted
        cases ending : outcome.ending with
        | buildFailed errors =>
          simp only [ending] at ran
          obtain ⟨rfl, rfl⟩ := pure_eq_ok.mp ran
          exact ⟨[(id, outcome)], .broken fixed ending⟩
        | _ =>
          simp only [ending] at ran
          obtain ⟨outcomes, later⟩ := ih ran
          exact ⟨(id, outcome) :: outcomes, .next fixed (by simp [ending]) later⟩

/-- What a round does about what its survey found. -/
def act (engine : Engine σ) (unitId : String) (catalog : Catalog σ) (progress : Progress)
    (survey : Survey) : Run σ RoundResult := do
  if !survey.errors.isEmpty then return .ended progress (.buildFailed survey.errors)
  if survey.diagnostics.isEmpty then return .ended progress .converged
  if progress.repeats survey.diagnostics then
    note (.oscillating survey.unit.displayName)
    survey.diagnostics.forM fun diagnostic => note (.listed diagnostic)
    return .ended progress .oscillated
  note (.found survey.diagnostics.length survey.unit.displayName)
  let progress := { progress with iterations := progress.iterations + 1 }
  let result ← engine.fixIds unitId catalog (idSet (survey.diagnostics.map (·.id))) progress
  return result.afterFixing survey.diagnostics

/-- What a round does about its survey keeps what remarks and, if the unit builds, fixing its
identifiers keep. -/
theorem Moves.act_keeps {inv : Session σ → Prop} {allowed : Fault → Session σ → Prop}
    {survey : Survey} (moves : Moves unitId inv allowed)
    (ids : survey.errors = [] → ∀ progress,
      (engine.fixIds unitId catalog (idSet (survey.diagnostics.map (·.id))) progress).Keeps inv
        allowed)
    (progress : Progress) : (engine.act unitId catalog progress survey).Keeps inv allowed := by
  unfold act
  split
  · exact .pure _
  rename_i unblocked
  split
  · exact .pure _
  split
  · refine (moves.remark_keeps rfl).bind fun _ => ?_
    exact (Keeps.forM fun _ _ => moves.remark_keeps rfl).bind fun _ => .pure _
  refine (moves.remark_keeps rfl).bind fun _ => ?_
  exact (ids (by simpa using unblocked) _).bind fun _ => .pure _

theorem round_eq :
    engine.round unitId catalog progress = (do
      if ← isCancelled then return .ended progress .interrupted
      engine.survey unitId catalog progress.iterations >>= engine.act unitId catalog progress) := by
  simp only [round, survey, examine, bind_assoc]
  congr 1
  funext cancelled
  congr 1
  congr 1
  funext unit
  congr 1
  funext _
  congr 1
  funext compilerDiagnostics
  congr 1
  funext errors
  split
  · rename_i blocked
    simp only [pure_bind, act, if_pos blocked]
  simp only [bind_assoc, pure_bind]
  congr 1
  funext _
  congr 1
  funext diagnostics
  have builds : ¬ (!([] : List Diagnostic).isEmpty) = true := by simp
  simp only [act, if_neg builds]
  split
  · rfl
  by_cases repeated : progress.repeats diagnostics = true
  · rw [if_pos repeated]
    exact if_pos repeated
  · rw [if_neg repeated]
    refine (if_neg repeated).trans ?_
    congr 1
    funext _
    congr 1
    funext result
    cases result <;> rfl

theorem step_of_ok {result : RoundResult}
    (ran : engine.round unitId catalog progress session = .ok result last) :
    ∃ visits, RoundStep engine unitId catalog progress session visits result last := by
  rw [round_eq] at ran
  obtain ⟨cancelled, _, asked, ran⟩ := bind_eq_ok.mp ran
  cases asked
  split at ran
  · rename_i requested
    obtain ⟨rfl, rfl⟩ := pure_eq_ok.mp ran
    exact ⟨[], .interrupted requested⟩
  obtain ⟨survey, middle, surveyed, ran⟩ := bind_eq_ok.mp ran
  unfold act at ran
  split at ran
  · rename_i blocked
    obtain ⟨rfl, rfl⟩ := pure_eq_ok.mp ran
    exact ⟨_, .broken surveyed (by simpa using blocked)⟩
  rename_i builds
  have builds : survey.errors = [] := by simpa using builds
  split at ran
  · rename_i empty
    obtain ⟨rfl, rfl⟩ := pure_eq_ok.mp ran
    exact ⟨_, .converged surveyed builds (by simpa using empty)⟩
  rename_i nonempty
  have found : survey.diagnostics ≠ [] := by simpa using nonempty
  split at ran
  · rename_i repeated
    obtain ⟨_, _, noted, ran⟩ := bind_eq_ok.mp ran
    cases noted
    obtain ⟨_, _, listed, ran⟩ := bind_eq_ok.mp ran
    rw [forM_note] at listed
    cases listed
    obtain ⟨rfl, rfl⟩ := pure_eq_ok.mp ran
    exact ⟨_, .oscillated surveyed builds found repeated⟩
  · rename_i fresh
    obtain ⟨_, _, noted, ran⟩ := bind_eq_ok.mp ran
    cases noted
    obtain ⟨fixedResult, after, fixed, ran⟩ := bind_eq_ok.mp ran
    obtain ⟨outcomes, fixing⟩ := fixing_of_ok fixed
    obtain ⟨rfl, rfl⟩ := pure_eq_ok.mp ran
    exact ⟨_, .acted surveyed builds found (by simpa using fresh) fixing⟩

/-- Only a round that acted is followed by another, and it counts. -/
theorem RoundStep.iterations {visits : List Visit} {next : Progress}
    (step : RoundStep engine unitId catalog progress session visits (.again next) last) :
    next.iterations = progress.iterations + 1 := by
  generalize same : RoundResult.again next = result at step
  cases step with
  | @acted survey middle _ outcomes result surveyed builds found fresh fixing =>
    have remembered := fixing.remembers.1
    cases result with
    | ended final ending => cases same
    | again final =>
      cases same
      exact remembered
  | _ => cases same

theorem ended_of_ok {limit more : Nat} {visits : List Visit} {ending : UnitEnding}
    (completed : Completed engine unitId catalog start visits progress session)
    (left : progress.iterations + more + 1 = limit)
    (ran : engine.rounds unitId catalog more progress session = .ok (final, ending) last) :
    ∃ all, Ended engine unitId catalog start limit all final ending last := by
  induction more generalizing visits progress session with
  | zero =>
    obtain ⟨result, middle, rounded, ran⟩ := bind_eq_ok.mp ran
    obtain ⟨visit, step⟩ := step_of_ok rounded
    cases result with
    | ended progress' ending' =>
      obtain ⟨same, rfl⟩ := pure_eq_ok.mp ran
      cases same
      exact ⟨_, .round completed (by omega) step⟩
    | again next =>
      obtain ⟨same, rfl⟩ := pure_eq_ok.mp ran
      cases same
      exact ⟨_, .limit (.round completed step) (by rw [step.iterations]; omega)⟩
  | succ more ih =>
    obtain ⟨result, middle, rounded, ran⟩ := bind_eq_ok.mp ran
    obtain ⟨visit, step⟩ := step_of_ok rounded
    cases result with
    | ended progress' ending' =>
      obtain ⟨same, rfl⟩ := pure_eq_ok.mp ran
      cases same
      exact ⟨_, .round completed (by omega) step⟩
    | again next =>
      exact ih (.round completed step) (by rw [step.iterations]; omega) ran

/-- What each ending of rounds says: the limit, that they were all completed; cancellation, that it
was requested; convergence, that the last round found nothing in a unit that builds. -/
theorem Ended.inversion {visits : List Visit} {limit : Nat} {ending : UnitEnding}
    (analyzers : catalog.analyzers ⊆ engine.analyzers) (fixers : catalog.fixers ⊆ engine.fixers)
    (ended : engine.Ended unitId catalog start limit visits final ending last) :
    (ending = .limitReached ∧ engine.Completed unitId catalog start visits final last ∧
        final.iterations = limit) ∨
      (ending = .interrupted ∧ last.cancellation.isRequested = true) ∨
      (ending = .converged ∧ ∃ session survey,
        engine.survey unitId catalog final.iterations session = .ok survey last ∧
          survey.errors = [] ∧ survey.diagnostics = []) ∨
      ending = .oscillated ∨ ∃ errors, ending = .buildFailed errors := by
  cases ended with
  | limit completed reached => exact .inl ⟨rfl, completed, reached⟩
  | round completed below step =>
    right
    generalize same : RoundResult.ended final ending = result at step
    cases step with
    | interrupted requested =>
      cases same
      exact .inl ⟨rfl, requested⟩
    | broken surveyed blocked =>
      cases same
      exact .inr (.inr (.inr ⟨_, rfl⟩))
    | converged surveyed builds empty =>
      cases same
      exact .inr (.inl ⟨rfl, _, _, surveyed, builds, empty⟩)
    | oscillated surveyed builds found repeated =>
      cases same
      exact .inr (.inr (.inl rfl))
    | @acted survey middle _ outcomes result surveyed builds found new fixing =>
      cases result with
      | again next => cases same
      | ended progress ending =>
        cases same
        rcases fixing.ended analyzers fixers with ⟨_, _, errors, _, rfl, _⟩ | ⟨rfl, requested⟩
        · exact .inr (.inr (.inr ⟨errors, rfl⟩))
        · exact .inl ⟨rfl, requested⟩

/-- How fixing a unit goes for which there is nothing to ask: what its analyzers declare is learnt,
and one event is noted. -/
def Idle (engine : Engine σ) (unit : SourceUnit) (session : Session σ) (event : Event)
    (last : Session σ) : Prop :=
  ∃ begun, (engine.catalog unit).descriptors.forM learn session = .ok () begun ∧
    last = { begun with journal := event :: begun.journal }

/-- What fixing a unit comes to: nothing is done without analyzers or fixers, else there is a
course. -/
theorem fixUnit_of_ok {result : UnitResult}
    (ran : engine.fixUnit unitId session = .ok result last) :
    ∃ unit, session.workspace.snapshot? unitId = some unit ∧
      ((engine.catalog unit).analyzers = [] ∧ result.kind = .noAnalyzers ∧ result.fixedIds = [] ∧
          engine.Idle unit session (.noAnalyzers unit.displayName) last ∨
        (engine.catalog unit).fixers = [] ∧ result.kind = .noFixers ∧ result.fixedIds = [] ∧
          engine.Idle unit session (.noFixers unit.displayName) last ∨
        (engine.catalog unit).analyzers ≠ [] ∧ (engine.catalog unit).fixers ≠ [] ∧
          ∃ visits progress ending, engine.Course unit session visits progress ending last ∧
            result = unitResult unit (engine.catalog unit) progress ending) := by
  obtain ⟨unit, _, fetched, ran⟩ := bind_eq_ok.mp ran
  obtain ⟨found, rfl⟩ := snapshot_eq_ok.mp fetched
  obtain rfl := Workspace.id_of_snapshot? found
  refine ⟨unit, found, ?_⟩
  obtain ⟨_, begun, learnt, ran⟩ := bind_eq_ok.mp ran
  split at ran
  · rename_i none
    obtain ⟨_, _, noted, ran⟩ := bind_eq_ok.mp ran
    cases noted
    obtain ⟨rfl, rfl⟩ := pure_eq_ok.mp ran
    exact .inl ⟨by simpa using none, rfl, rfl, begun, learnt, rfl⟩
  rename_i some
  have analyzers : (engine.catalog unit).analyzers ≠ [] := by simpa using some
  split at ran
  · rename_i none
    obtain ⟨_, _, noted, ran⟩ := bind_eq_ok.mp ran
    cases noted
    obtain ⟨rfl, rfl⟩ := pure_eq_ok.mp ran
    exact .inr (.inl ⟨by simpa using none, rfl, rfl, begun, learnt, rfl⟩)
  rename_i some
  have fixers : (engine.catalog unit).fixers ≠ [] := by simpa using some
  obtain ⟨⟨progress, ending⟩, rounded, rounds, ran⟩ := bind_eq_ok.mp ran
  obtain ⟨_, _, noted, ran⟩ := bind_eq_ok.mp ran
  obtain ⟨rfl, rfl⟩ := pure_eq_ok.mp ran
  have positive := engine.config.maxIterations_pos
  have left : ({} : Progress).iterations + (engine.config.maxIterations - 1) + 1 =
      engine.config.maxIterations := by
    change 0 + _ + 1 = _
    omega
  obtain ⟨visits, ended⟩ := ended_of_ok .start left rounds
  exact .inr (.inr ⟨analyzers, fixers, visits, progress, ending, ⟨begun, rounded, learnt, ended,
    noted⟩, rfl⟩)

/-- A unit that is reported as a success went through rounds. -/
theorem course_of_success {result : UnitResult}
    (ran : engine.fixUnit unitId session = .ok result last) (success : result.kind = .success) :
    ∃ unit, session.workspace.snapshot? unitId = some unit ∧
      (engine.catalog unit).analyzers ≠ [] ∧ (engine.catalog unit).fixers ≠ [] ∧
      ∃ visits progress ending, engine.Course unit session visits progress ending last ∧
        result = unitResult unit (engine.catalog unit) progress ending := by
  obtain ⟨unit, found, ⟨_, other, _⟩ | ⟨_, other, _⟩ | course⟩ := fixUnit_of_ok ran
  · rw [success] at other
    cases other
  · rw [success] at other
    cases other
  · exact ⟨unit, found, course⟩

/-- Nothing but what is known changes while the declarations of analyzers are learnt. -/
theorem learns_keeps (descriptors : List Descriptor) (session : Session σ) :
    Keeps (fun now => ∃ known, now = { session with known }) (fun _ _ => False)
      (descriptors.forM learn : Run σ Unit) := by
  refine .forM fun descriptor _ => .learn (fun known now same => ?_) descriptor
  obtain ⟨_, rfl⟩ := same
  exact ⟨known, rfl⟩

theorem learnt_eq {descriptors : List Descriptor}
    (learnt : descriptors.forM learn session = .ok () last) :
    ∃ known, last = { session with known } :=
  (learns_keeps descriptors session).of_ok ⟨session.known, rfl⟩ learnt

theorem exists_learnt (descriptors : List Descriptor) (session : Session σ) :
    ∃ last, descriptors.forM learn session = .ok () last := by
  obtain ⟨_, last, learnt, -⟩ := (learns_keeps descriptors session).exists_ok ⟨session.known, rfl⟩
  exact ⟨last, learnt⟩

theorem learnt_session {descriptors : List Descriptor}
    (learnt : descriptors.forM learn session = .ok () last) :
    last.workspace = session.workspace ∧ last.cancellation = session.cancellation := by
  obtain ⟨known, rfl⟩ := learnt_eq learnt
  exact ⟨rfl, rfl⟩

theorem noted_session {unit : SourceUnit} {ending : UnitEnding}
    (noted : noteEnding unit progress ending session = .ok () last) :
    last.workspace = session.workspace ∧ last.cancellation = session.cancellation := by
  cases ending <;> cases noted <;> exact ⟨rfl, rfl⟩

end Engine

end FixLoop
