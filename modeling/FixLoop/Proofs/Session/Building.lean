import FixLoop.Proofs.Plugin.Builtin
import FixLoop.Proofs.Session.Course
import FixLoop.Proofs.Session.Touring
import Mathlib

/-!
Whether a unit that is reported as a success builds. Every round and every pass compiles before it
acts, so with stateless plugins the snapshot that is left builds, unless the last thing that was
done is a fix that landed. Only the limit of rounds lets a run end right after that.
-/

namespace FixLoop

namespace Engine

open Run

variable {σ : Type}

/-- Whether a snapshot builds: the compiler reports no error that counts. -/
def Builds (engine : Engine σ) (unit : SourceUnit) : Prop :=
  ∃ diagnostics, buildErrors engine.config diagnostics = [] ∧
    ∀ session, ∃ after, engine.compile unit session = .ok diagnostics after

/-- Whether an edit set turns a snapshot that builds into one that does not. -/
def Breaks (engine : Engine σ) (before : SourceUnit) (edits : List TextEdit) : Prop :=
  engine.Builds before ∧ ∃ after, before.withEdits edits = .ok after ∧ ¬ engine.Builds after

/-- Whether the newest events are those of a fix, computed from a snapshot, that landed. -/
def EndsWithFix (before : SourceUnit) (edits : List TextEdit) (journal : List Event) : Prop :=
  ∃ id title earlier, journal =
    .fixed id before.id :: .applied title edits.length before.displayName ::
      .edited .session before.id before.version edits true :: earlier

/-- Whether a unit is left with a snapshot that builds, or one to which the latest fix has led from
one that builds. -/
def Leaves (engine : Engine σ) (unitId : String) (session : Session σ) : Prop :=
  ∃ unit, session.workspace.snapshot? unitId = some unit ∧
    (engine.Builds unit ∨ ∃ before edits, engine.Builds before ∧
      before.withEdits edits = .ok unit ∧ EndsWithFix before edits session.journal)

/-- Whether rounds reached their limit right after a fix that broke a unit. -/
def BrokenAtLimit (engine : Engine σ) (unit : SourceUnit) (journal : List Event) : Prop :=
  ∃ before edits rounds name earlier, engine.Breaks before edits ∧
    before.withEdits edits = .ok unit ∧ EndsWithFix before edits earlier ∧
    journal = .limitReached rounds name :: earlier

/-- Whether a unit is left with a snapshot that builds, except if rounds reached their limit after a
fix that broke it. -/
def BuildsUnlessLimited (engine : Engine σ) (unitId : String) (result : UnitResult)
    (last : Session σ) : Prop :=
  ∃ unit, last.workspace.snapshot? unitId = some unit ∧
    (¬ engine.Builds unit ↔
      result.limitReached = true ∧ engine.BrokenAtLimit unit last.journal)

variable {engine : Engine σ} {unitId id : String} {catalog : Catalog σ} {unit : SourceUnit}
  {diagnostics : List Diagnostic} {state : PassState} {start session last : Session σ}
  {outcome : FixOutcome} {progress next : Progress}

theorem BrokenAtLimit.not_builds {journal : List Event}
    (broken : engine.BrokenAtLimit unit journal) : ¬ engine.Builds unit := by
  obtain ⟨before, edits, _, _, _, ⟨-, after, breaks, fails⟩, applied, -⟩ := broken
  cases applied.symm.trans breaks
  exact fails

theorem verifyBuild_eq_ok {errors : List Diagnostic}
    (checked : engine.verifyBuild diagnostics session = .ok errors last) :
    errors = if engine.config.ignoreCompilerErrors.isTruthy then []
      else (buildErrors engine.config diagnostics).take listedErrors := by
  unfold verifyBuild at checked
  obtain ⟨_, _, listed, checked⟩ := bind_eq_ok.mp checked
  dsimp only at checked
  split at checked
  · obtain ⟨_, _, noted, checked⟩ := bind_eq_ok.mp checked
    exact (pure_eq_ok.mp checked).1.symm
  · exact (pure_eq_ok.mp checked).1.symm

/-- A snapshot builds if a stateless compiler reported no error for it once that counts. -/
theorem builds_of_compile (steady : (engine.compiler.compile unit).IsStateless)
    (reported : engine.compile unit session = .ok diagnostics last)
    (none : buildErrors engine.config diagnostics = []) : engine.Builds unit := by
  obtain ⟨-, again⟩ := (compile_determined steady).of_ok reported
  refine ⟨diagnostics, none, fun other => ?_⟩
  obtain ⟨after, compiles, -⟩ := again other
  exact ⟨after, compiles⟩

/-- No error blocks a snapshot only if there is none that counts. -/
theorem buildErrors_eq_nil (strict : engine.config.ignoreCompilerErrors.isTruthy = false)
    (checked : engine.verifyBuild diagnostics session = .ok [] last) :
    buildErrors engine.config diagnostics = [] := by
  have none := verifyBuild_eq_ok checked
  rw [strict, if_neg Bool.false_ne_true] at none
  exact (List.take_eq_nil_iff.mp none.symm).resolve_left (by decide)

/-- If no errors block a snapshot, it builds. -/
theorem StatelessReaders.builds_of_examine
    {survey : Survey} {look : List Diagnostic → Run σ (List Diagnostic)}
    (readers : engine.StatelessReaders)
    (strict : engine.config.ignoreCompilerErrors.isTruthy = false)
    (examined : engine.examine unit look session = .ok survey last) (builds : survey.errors = []) :
    engine.Builds unit := by
  obtain ⟨rfl, compiled, verified, reported, checked, -⟩ := examine_eq_ok.mp examined
  rw [builds] at checked
  exact builds_of_compile (readers.compiler survey.unit) reported
    (buildErrors_eq_nil strict checked)

/-- Stateless readers leave the workspace alone when an identifier is looked for. -/
theorem StatelessReaders.workspace_of_inspect {survey : Survey} (readers : engine.StatelessReaders)
    (analyzers : catalog.analyzers ⊆ engine.analyzers)
    (inspected : engine.inspect unitId catalog id session = .ok survey last) :
    last.workspace = session.workspace := by
  obtain ⟨-, -, examined⟩ := inspect_eq_ok.mp inspected
  have determined := readers.examine_determined survey.unit
    (readers.occurrences_determined analyzers survey.unit id)
  exact (determined.of_ok examined).1

/-- Stateless plugins leave the workspace alone when an action is chosen. -/
theorem StatelessPlugins.workspace_of_choice {batch : List Diagnostic}
    {answer : Except Ambiguity (Option FixAction)} (plugins : engine.StatelessPlugins)
    (fixers : catalog.fixers ⊆ engine.fixers)
    (chose : engine.choice unit catalog id batch session = .ok answer last) :
    last.workspace = session.workspace := by
  have kept : (engine.choice unit catalog id batch).Keeps
      (fun now => now.workspace = session.workspace) fun _ _ => True :=
    choice_keeps (fun _ _ _ same => same)
      (plugins.selects session.workspace unit id _ fun _ _ => .inl trivial) fixers
  exact kept.of_ok rfl chose

/-- After a batch, the unit is left as it was seen or as the fix made it. -/
theorem BatchStep.leaves {result : PassResult} (plugins : engine.StatelessPlugins)
    (fixers : catalog.fixers ⊆ engine.fixers)
    (step : engine.BatchStep unit catalog id diagnostics state session result last)
    (present : session.workspace.snapshot? unitId = some unit) (builds : engine.Builds unit) :
    engine.Leaves unitId last := by
  have chooses {answer : Except Ambiguity (Option FixAction)} {middle : Session σ}
      (chose : engine.choice unit catalog id (batchOf engine.config.batchSize diagnostics) session =
        .ok answer middle) : middle.workspace.snapshot? unitId = some unit := by
    rw [plugins.workspace_of_choice fixers chose, present]
  cases step with
  | ambiguous chose => exact ⟨unit, chooses chose, .inl builds⟩
  | noAction chose => exact ⟨unit, chooses chose, .inl builds⟩
  | emptyAction chose empty => exact ⟨unit, chooses chose, .inl builds⟩
  | rejected chose edits offered =>
    have seen := chooses chose
    obtain ⟨workspace, tried, rfl⟩ := offer_eq_ok.mp offered
    obtain rfl := Workspace.eq_of_tryEdit_rejected tried
    exact ⟨unit, seen, .inl builds⟩
  | landed chose edits offered =>
    obtain ⟨workspace, tried, rfl⟩ := offer_eq_ok.mp offered
    obtain ⟨current, made, found, -, applied, after, -⟩ := Workspace.snapshot?_of_landed tried
    obtain rfl := Workspace.id_of_snapshot? present
    obtain rfl : unit = current := Option.some.inj ((chooses chose).symm.trans found)
    exact ⟨made, after, .inr ⟨unit, _, builds, applied, _, _, _, rfl⟩⟩

section

variable (strict : engine.config.ignoreCompilerErrors.isTruthy = false)
  (plugins : engine.StatelessPlugins) (analyzers : catalog.analyzers ⊆ engine.analyzers)
  (fixers : catalog.fixers ⊆ engine.fixers)

include strict plugins analyzers fixers

/-- After a pass that ends its identifier but not the unit. -/
theorem PassStep.leaves
    (step : engine.PassStep unitId catalog id state session (.done outcome) last)
    (unbroken : ∀ errors, outcome.ending ≠ .buildFailed errors) : engine.Leaves unitId last := by
  have seen {survey : Survey} {after : Session σ}
      (inspected : engine.inspect unitId catalog id session = .ok survey after)
      (builds : survey.errors = []) :
      after.workspace.snapshot? unitId = some survey.unit ∧ engine.Builds survey.unit := by
    obtain ⟨-, present, examined⟩ := inspect_eq_ok.mp inspected
    refine ⟨?_, plugins.builds_of_examine strict examined builds⟩
    rw [plugins.workspace_of_inspect analyzers inspected, present]
  generalize same : PassResult.done outcome = result at step
  cases step with
  | broken inspected blocked =>
    cases same
    exact absurd rfl (unbroken _)
  | cleared inspected builds empty =>
    obtain ⟨present, builds⟩ := seen inspected builds
    exact ⟨_, present, .inl builds⟩
  | stalled inspected builds found repeated =>
    obtain ⟨present, builds⟩ := seen inspected builds
    exact ⟨_, present, .inl builds⟩
  | acted inspected builds found fresh fixed =>
    obtain ⟨present, builds⟩ := seen inspected builds
    exact fixed.leaves plugins fixers present builds

/-- After identifiers that were fixed one after another, what counts is the last. -/
theorem Fixing.leaves {ids : List String} {outcomes : List (String × FixOutcome)}
    (fixing : engine.Fixing unitId catalog ids progress session outcomes (.again next) last)
    (some : ids ≠ []) : engine.Leaves unitId last := by
  generalize same : RoundResult.again next = result at fixing
  induction fixing with
  | done => exact absurd rfl some
  | @next id rest progress session middle after outcome outcomes result fixed builds later ih =>
    obtain ⟨_, _, step⟩ := (passing_of_ok fixed).ends
    have left := step.leaves strict plugins analyzers fixers builds
    cases rest with
    | nil =>
      cases later
      exact left
    | cons id rest => exact ih (List.cons_ne_nil id rest) same
  | _ => cases same

theorem Completed.leaves {visits : List Visit}
    (completed : engine.Completed unitId catalog start visits progress session)
    (counted : 0 < progress.iterations) : engine.Leaves unitId session := by
  cases completed with
  | start => cases counted
  | round earlier step =>
    generalize same : RoundResult.again progress = result at step
    cases step with
    | @acted survey middle after outcomes result surveyed builds found new fixing =>
      cases result with
      | ended final ending => cases same
      | again carried =>
        refine fixing.leaves strict plugins analyzers fixers ?_
        obtain ⟨first, rest, more⟩ := List.exists_cons_of_ne_nil found
        refine List.ne_nil_of_mem (mem_idSet.mpr (List.mem_map_of_mem (?_ : first ∈ _)))
        rw [more]
        exact List.mem_cons_self
    | _ => cases same

omit analyzers fixers

theorem builds_or_limited {result : UnitResult}
    (ran : engine.fixUnit unitId session = .ok result last) (success : result.kind = .success)
    (running : last.cancellation.isRequested = false) :
    engine.BuildsUnlessLimited unitId result last := by
  obtain ⟨first, found, -, -, visits, progress, ending, course, rfl⟩ :=
    course_of_success ran success
  obtain rfl := Workspace.id_of_snapshot? found
  obtain ⟨begun, rounded, learnt, ended, noted⟩ := course
  obtain ⟨sameWorkspace, sameCancellation⟩ := noted_session noted
  have analyzers := engine.analyzers_catalog first
  have fixers := engine.fixers_catalog first
  rcases ended.inversion analyzers fixers with ⟨rfl, completed, reached⟩ | ⟨rfl, requested⟩ |
    ⟨rfl, before, survey, surveyed, none, -⟩ | rfl | ⟨errors, rfl⟩
  · have counted : 0 < progress.iterations := reached ▸ engine.config.maxIterations_pos
    obtain ⟨unit, present, left⟩ := completed.leaves strict plugins analyzers fixers counted
    cases noted
    refine ⟨unit, present, fun broken => ⟨rfl, ?_⟩, fun ⟨_, broken⟩ => broken.not_builds⟩
    obtain ⟨before, edits, built, applied, recent⟩ := left.resolve_left broken
    exact ⟨before, edits, _, _, _, ⟨built, unit, applied, broken⟩, applied, recent, rfl⟩
  · rw [← sameCancellation, running] at requested
    cases requested
  · obtain ⟨present, examined⟩ := survey_eq_ok.mp surveyed
    obtain ⟨kept, -⟩ := plugins.survey_again analyzers surveyed
    refine ⟨survey.unit, by rw [sameWorkspace, kept, present], ?_⟩
    exact iff_of_false (not_not_intro (plugins.builds_of_examine strict examined none)) nofun
  · cases success
  · cases success

/-- With stateless plugins and build errors that count, a unit that is reported as a success, and
from which a run goes on to the next, builds, except if rounds reached their limit right after a fix
that broke it. -/
theorem successes_build :
    (∀ (unitId : String) (session : Session σ) (result : UnitResult) (last : Session σ),
      engine.fixUnit unitId session = .ok result last → result.kind = .success →
      last.cancellation.isRequested = false → engine.BuildsUnlessLimited unitId result last) ∧
    ∀ (requested : Option (List String)) (session : Session σ) (report : RunReport)
      (last : Session σ), engine.remediate requested session = .ok report last →
      ∃ order begun stops final finished,
        engine.Tour order.length 1 order {} begun stops final finished ∧
          report.results = final.results ∧
          ∀ stop ∈ stops, stop.result.kind = .success →
            stop.after.cancellation.isRequested = false →
            engine.BuildsUnlessLimited stop.unitId stop.result stop.after := by
  refine ⟨fun unitId session result last => builds_or_limited strict plugins, ?_⟩
  intro requested session report last ran
  obtain ⟨order, stops, final, finished, -, tour, results, -⟩ := remediate_of_ok ran
  refine ⟨order, engine.begun session, stops, final, finished, tour, results, ?_⟩
  intro stop member success running
  exact builds_or_limited strict plugins (tour.fixed stop member) success running

end

theorem not_builds {after : Session σ}
    (reported : engine.compile unit session = .ok diagnostics after)
    (errors : buildErrors engine.config diagnostics ≠ []) : ¬ engine.Builds unit := by
  rintro ⟨others, none, compiles⟩
  obtain ⟨_, again⟩ := compiles session
  rw [reported] at again
  cases again
  exact errors none

end Engine

namespace Opening

/-! Plugins that see every document and open a bracket in it that nothing closes. -/

def descriptor : Descriptor where
  id := "X1"
  title := "Open a bracket"

def diagnostics (unit : SourceUnit) : List Diagnostic :=
  unit.documents.map fun document =>
    Diagnostic.report descriptor (Location.ofSpan document.path document.text 0 1) "Open a bracket."

def offers : Offers Unit := fun diagnostic _ =>
  [.answer (some
    { title := descriptor.title, key := descriptor.id
      edits := [{ path := diagnostic.location.path, start := 0, stop := 0, text := ['('] }] })]

def engine : Engine Unit where
  analyzers := [{
    type := "Seen", package := "plugins", descriptors := [descriptor]
    analyze := fun unit => .answer (diagnostics unit) }]
  fixers := [{
    type := "Opener", package := "plugins", fixableIds := [descriptor.id], offers
    fixAll := Offers.fixAll offers }]
  compiler := Compilers.brackets
  formatter := Formatting.whitespace
  config := { maxIterations := 1, maxIterations_pos := Nat.one_pos }
  passLimit := 4

def source (id : String) : SourceUnit where
  id
  language := "c"
  documents := [⟨id, ['x']⟩]

def session : Session Unit where
  workspace := { units := [⟨source "a", source "a"⟩, ⟨source "b", source "b"⟩] }
  memory := ()

theorem statelessPlugins : engine.StatelessPlugins := by
  have offered (diagnostic : Diagnostic) (unit : SourceUnit) :
      ∀ candidate ∈ offers diagnostic unit, candidate.IsStateless := by
    intro candidate member
    obtain rfl := List.mem_singleton.mp member
    exact ⟨_, fun _ => ⟨rfl, rfl⟩⟩
  exact {
    compiler := fun _ => ⟨_, fun _ => ⟨rfl, rfl⟩⟩
    analyzers := fun analyzer member unit => by
      obtain rfl := List.mem_singleton.mp member
      exact ⟨_, fun _ => ⟨rfl, rfl⟩⟩
    offers := fun fixer able diagnostic unit => by
      obtain rfl := List.mem_singleton.mp able
      exact offered diagnostic unit
    fixAll := fun fixer able context => by
      obtain rfl := List.mem_singleton.mp able
      exact Callback.IsStateless.closed.fixAll fun diagnostic => offered diagnostic _ }

/-- The unit as the fix leaves it. -/
def opened : SourceUnit := { source "a" with documents := [⟨"a", ['(', 'x']⟩], version := 1 }

theorem not_builds_opened : ¬ engine.Builds opened := by
  have evaluated : Run.peek? (fun found _ => (Engine.buildErrors engine.config found).length)
      (engine.compile opened session) = some 1 := by decide +kernel
  obtain ⟨found, after, compiled, errors⟩ := Run.peek?_eq_some.mp evaluated
  exact Engine.not_builds compiled (List.ne_nil_of_length_pos (by rw [errors]; decide))

/-- With one round the fix is the last thing done, and it broke the unit. -/
theorem success_brokenAtLimit :
    ∃ result last, engine.fixUnit "a" session = .ok result last ∧ result.kind = .success ∧
      last.workspace.snapshot? "a" = some opened ∧ engine.BrokenAtLimit opened last.journal := by
  have evaluated : Run.peek? (fun result last =>
      (result.kind, last.cancellation.isRequested, last.workspace.snapshot? "a"))
      (engine.fixUnit "a" session) = some (.success, false, some opened) := by decide +kernel
  obtain ⟨result, last, ran, seen⟩ := Run.peek?_eq_some.mp evaluated
  obtain ⟨success, running, present⟩ := by simpa only [Prod.mk.injEq] using seen
  obtain ⟨unit, found, broken⟩ :=
    (Engine.successes_build (by decide) statelessPlugins).1 "a" session result last ran success
      running
  obtain rfl : opened = unit := Option.some.inj (present.symm.trans found)
  exact ⟨result, last, ran, success, present, (broken.mp not_builds_opened).2⟩

/-- The run reports both units as successes and was not stopped between them, but the first does not
build. -/
theorem remediate_goes_on :
    engine.StatelessPlugins ∧ engine.config.ignoreCompilerErrors.isTruthy = false ∧
    ∃ report last, engine.remediate none session = .ok report last ∧ report.aborted = false ∧
      report.results.map (fun result => (result.unitId, result.kind)) =
        [("a", .success), ("b", .success)] ∧
      last.cancellation.isRequested = false ∧
      last.workspace.snapshot? "a" = some opened ∧ ¬ engine.Builds opened := by
  have evaluated : Run.peek? (fun report last =>
      (report.aborted, report.results.map fun result => (result.unitId, result.kind),
        last.cancellation.isRequested, last.workspace.snapshot? "a"))
      (engine.remediate none session) =
        some (false, [("a", .success), ("b", .success)], false, some opened) := by cbv
  obtain ⟨report, last, ran, seen⟩ := Run.peek?_eq_some.mp evaluated
  obtain ⟨aborted, results, running, present⟩ := by simpa only [Prod.mk.injEq] using seen
  exact ⟨statelessPlugins, by decide, report, last, ran, aborted, results, running, present,
    not_builds_opened⟩

end Opening

end FixLoop
