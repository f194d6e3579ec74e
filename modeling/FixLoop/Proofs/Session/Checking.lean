import FixLoop.Proofs.Collected
import FixLoop.Proofs.Session.Building

/-!
What is asked about which snapshot. Rounds and passes compile a snapshot before they hand it to
anyone, so analyzers and fixers are given snapshots that build only. Errors that break off the work
on a unit are those of its latest snapshot: whoever finds them asks nobody and edits nothing after.
-/

namespace FixLoop

variable {σ : Type}

namespace Event

/-- The snapshot that an analyzer or a fixer was given. -/
def given? : Event → Option SourceUnit
  | analyzed _ unit => some unit
  | consulted _ _ unit => some unit
  | combining _ context => some context.unit
  | _ => none

/-- Whether an analyzer or a fixer was asked for something. -/
def isAsking : Event → Bool
  | analyzed .. | consulted .. | demanded _ | combining .. => true
  | _ => false

/-- Whether the compiler was asked. -/
def isCompiling : Event → Bool
  | compiled _ => true
  | _ => false

/-- Whether nobody was asked for anything, and no edit set landed. -/
def IsIdle (event : Event) : Prop :=
  event.isAsking = false ∧ event.isCompiling = false ∧ event.isLanding = false

variable {event : Event}

theorem given?_of_isOfPlugin (own : event.isOfPlugin = true) : event.given? = none := by
  cases event <;> first | rfl | cases own

theorem given?_of_isRemark (remark : event.isRemark = true) : event.given? = none := by
  cases event <;> first | rfl | cases remark

theorem given?_of_isRefusal (refusal : event.isRefusal = true) : event.given? = none := by
  cases event <;> first | rfl | cases refusal

theorem given?_of_tellsOfReading {unit seen : SourceUnit} (tells : event.TellsOfReading unit)
    (given : event.given? = some seen) : seen = unit := by
  cases event with
  | analyzed analyzer other =>
    cases given
    exact tells
  | _ => first | cases tells; done | cases given

theorem given?_of_tellsOfSelecting {unit seen : SourceUnit} {id : String}
    {batch : List Diagnostic} (tells : event.TellsOfSelecting unit id batch)
    (given : event.given? = some seen) : seen = unit := by
  cases event with
  | consulted fixer diagnostic other =>
    cases given
    exact tells
  | combining fixer context =>
    cases given
    exact tells.1
  | _ => first | cases tells; done | cases given

theorem isIdle_of_isOfPlugin (own : event.isOfPlugin = true) (none : event.isLanding = false) :
    event.IsIdle := by
  cases event <;> first | exact ⟨rfl, rfl, none⟩ | cases own

end Event

/-- Whether a session follows another one and the compiler was asked meanwhile. -/
def Session.HasCompiled (start now : Session σ) : Prop :=
  ∃ news, now.journal = news ++ start.journal ∧ ∃ event ∈ news, event.isCompiling = true

namespace Session.HasCompiled

variable {start middle now : Session σ}

theorem follow (compiled : start.HasCompiled middle) (later : middle.journal <:+ now.journal) :
    start.HasCompiled now := by
  obtain ⟨news, journal, event, member, compiles⟩ := compiled
  obtain ⟨more, journal'⟩ := later
  refine ⟨more ++ news, ?_, event, List.mem_append_right more member, compiles⟩
  rw [← journal', journal, List.append_assoc]

theorem journal (compiled : start.HasCompiled now) : start.journal <:+ now.journal := by
  obtain ⟨news, journal, -⟩ := compiled
  exact ⟨news, journal.symm⟩

theorem precede (compiled : middle.HasCompiled now) (earlier : start.journal <:+ middle.journal) :
    start.HasCompiled now := by
  obtain ⟨news, journal, event, member, compiles⟩ := compiled
  obtain ⟨more, journal'⟩ := earlier
  refine ⟨news ++ more, ?_, event, List.mem_append_left more member, compiles⟩
  rw [journal, ← journal', List.append_assoc]

end Session.HasCompiled

/-- Nothing that was noted is taken back. -/
theorem Session.stable_journal (start : Session σ) :
    Session.Stable fun now : Session σ => start.journal <:+ now.journal where
  note event _ grown := grown.trans (List.suffix_cons event _)
  learn _ _ grown := grown
  remember _ _ grown := grown
  edit _ _ _ _ _ _ grown _ := grown
  cancel _ _ grown _ := grown

theorem Callback.journal_of_carryOut {α : Type} {callback : Callback σ α}
    {answer : Except Failure α} {session last : Session σ}
    (called : callback.carryOut session = (answer, last)) : session.journal <:+ last.journal := by
  have grown := callback.carryOut_stable session.stable_journal session List.suffix_rfl
  rwa [called] at grown

namespace Engine

open Run Session

variable {engine : Engine σ} {unitId id : String} {catalog : Catalog σ} {unit : SourceUnit}
  {start session last : Session σ} {look : List Diagnostic → Run σ (List Diagnostic)}
  {allowed : Fault → Session σ → Prop}

/-! ### Snapshots that are handed out -/

/-- Whether an event does not tell that a snapshot was handed out which does not build. -/
def GivesBuild (engine : Engine σ) (event : Event) : Prop :=
  ∀ unit, event.given? = some unit → engine.Builds unit

theorem givesBuild_of_none {event : Event} (none : event.given? = none) :
    engine.GivesBuild event := by
  intro unit given
  rw [none] at given
  cases given

theorem givesBuild_of_tellsOfReading (builds : engine.Builds unit) {event : Event}
    (tells : event.TellsOfReading unit) : engine.GivesBuild event := by
  intro seen given
  obtain rfl := Event.given?_of_tellsOfReading tells given
  exact builds

theorem givesBuild_of_tellsOfSelecting (builds : engine.Builds unit) {batch : List Diagnostic}
    {event : Event} (tells : event.TellsOfSelecting unit id batch) : engine.GivesBuild event := by
  intro seen given
  obtain rfl := Event.given?_of_tellsOfSelecting tells given
  exact builds

theorem pluginsNote_givesBuild (engine : Engine σ) : engine.PluginsNote engine.GivesBuild :=
  .of_own engine fun _ own => givesBuild_of_none (Event.given?_of_isOfPlugin own)

theorem reads_givesBuild (builds : engine.Builds unit)
    (any : ∀ fault session, allowed fault session) :
    engine.Reads unit fun _ step => step.Keeps (start.Grows engine.GivesBuild) allowed :=
  engine.pluginsNote_givesBuild.reads (fun _ _ => Grows.trans)
    (fun _ => givesBuild_of_tellsOfReading builds) any

theorem moves_givesBuild (unitId : String) (start : Session σ) :
    Moves unitId (start.Grows engine.GivesBuild) fun _ _ => True where
  remark _ remark _ grown :=
    grown.note (Event.isEffect_of_isQuiet (Event.isQuiet_of_isRemark remark))
      (givesBuild_of_none (Event.given?_of_isRemark remark))
  snapshot := Keeps.snapshot fun _ _ => trivial
  unfinished _ _ _ := trivial

section

variable (steady : ∀ unit, (engine.compiler.compile unit).IsStateless)
  (strict : engine.config.ignoreCompilerErrors.isTruthy = false)

include steady strict

/-- A snapshot that is examined is handed out only after it was found to build. -/
theorem examine_givesBuild (any : ∀ fault session, allowed fault session)
    (looks : engine.Builds unit → ∀ diagnostics,
      (look diagnostics).Keeps (start.Grows engine.GivesBuild) allowed) :
    (engine.examine unit look).Keeps (start.Grows engine.GivesBuild) allowed := by
  have grows ⦃before after : Session σ⦄ : start.Grows engine.GivesBuild before →
      before.Grows engine.GivesBuild after → start.Grows engine.GivesBuild after := Grows.trans
  have closed : Closed (fun event => event.TellsOfReading unit ∧ event.given? = none)
      fun _ step => step.Keeps (start.Grows engine.GivesBuild) allowed :=
    PluginsNote.closed grows (fun _ tells => Event.isQuiet_of_tellsOfReading tells.1)
      fun _ tells => givesBuild_of_none tells.2
  have compiles : (engine.compile unit).Keeps (start.Grows engine.GivesBuild) allowed := by
    refine closed.bind (closed.note (.compiled unit) ⟨rfl, rfl⟩) fun _ => ?_
    refine closed.bind ?_ fun _ => closed.pure _
    exact PluginsNote.call_keeps grows (engine.pluginsNote_givesBuild.compiler unit) any
  refine compiles.bind_of fun diagnostics _ _ reported => ?_
  have verifies : (engine.verifyBuild diagnostics).Keeps (start.Grows engine.GivesBuild) allowed :=
    verifyBuild_good closed (fun _ => ⟨trivial, rfl⟩) (fun _ => ⟨trivial, rfl⟩) diagnostics
  refine verifies.bind_of fun errors _ _ checked => ?_
  split
  · exact .pure _
  · rename_i unblocked
    obtain rfl : errors = [] := by simpa using unblocked
    have builds := builds_of_compile (steady unit) reported (buildErrors_eq_nil strict checked)
    exact (looks builds diagnostics).bind fun _ => .pure _

variable (analyzers : catalog.analyzers ⊆ engine.analyzers)
  (fixers : catalog.fixers ⊆ engine.fixers)

theorem builds_of_inspect {survey : Survey}
    (inspected : engine.inspect unitId catalog id session = .ok survey last)
    (none : survey.errors = []) : engine.Builds survey.unit := by
  obtain ⟨-, -, examined⟩ := inspect_eq_ok.mp inspected
  obtain ⟨-, compiled, verified, reported, checked, -⟩ := examine_eq_ok.mp examined
  rw [none] at checked
  exact builds_of_compile (steady survey.unit) reported (buildErrors_eq_nil strict checked)

include analyzers

theorem inspect_givesBuild (unitId id : String) (start : Session σ) :
    (engine.inspect unitId catalog id).Keeps (start.Grows engine.GivesBuild)
      (orInterrupted fun _ _ => True) := by
  have any (fault : Fault) (session : Session σ) : orInterrupted (fun _ _ => True) fault session :=
    .inl trivial
  refine checkCancelled_keeps.bind fun _ => (Keeps.snapshot any).bind fun unit => ?_
  refine examine_givesBuild steady strict any fun builds diagnostics => ?_
  exact (reads_givesBuild builds any).occurrences_good analyzers id diagnostics

theorem survey_givesBuild (unitId : String) (rounds : Nat) (start : Session σ) :
    (engine.survey unitId catalog rounds).Keeps (start.Grows engine.GivesBuild)
      fun _ _ => True := by
  have moves := engine.moves_givesBuild unitId start
  refine moves.snapshot.bind fun unit => (moves.remark_keeps rfl).bind fun _ => ?_
  refine examine_givesBuild steady strict (fun _ _ => trivial) fun builds diagnostics => ?_
  exact (moves.remark_keeps rfl).bind fun _ =>
    (reads_givesBuild builds fun _ _ => trivial).fixable_good analyzers diagnostics

include fixers

theorem pass_givesBuild (state : PassState) (session : Session σ) :
    session.Grows engine.GivesBuild (final (engine.pass unitId catalog id state session)) := by
  have inspects := inspect_givesBuild steady strict analyzers unitId id session
  obtain ⟨reached, reaches, ends⟩ := engine.pass_ends unitId catalog id state session
  have grown : session.Grows engine.GivesBuild reached := by
    cases reaches with
    | inspecting => exact inspects.final (.refl session)
    | choosing inspected none =>
      have builds := builds_of_inspect steady strict inspected none
      refine (inspects.of_ok (.refl session) inspected).trans ?_
      exact engine.pluginsNote_givesBuild.choice_grows
        (fun _ remark => givesBuild_of_none (Event.given?_of_isRemark remark))
        (fun _ => givesBuild_of_tellsOfSelecting builds) fixers _
  generalize engine.pass unitId catalog id state session = ran at ends
  cases ends with
  | refused refusals counted =>
    refine grown.trans (refusals.mono fun event refusal => ?_)
    exact givesBuild_of_none (Event.given?_of_isRefusal refusal)
  | landed lands counted =>
    obtain ⟨title, name, version, edits, follows⟩ := lands
    refine grown.trans ⟨_, follows, fun event member => givesBuild_of_none ?_⟩
    simp only [List.mem_cons, List.not_mem_nil, or_false] at member
    rcases member with rfl | rfl | rfl <;> rfl

omit analyzers fixers

/-- While a unit is fixed, only snapshots that build are handed out. -/
theorem fixUnit_givesBuild (unitId : String) (session : Session σ) :
    session.Grows engine.GivesBuild (final (engine.fixUnit unitId session)) := by
  have moves := engine.moves_givesBuild unitId session
  have learn (descriptor : Descriptor) : (Run.learn descriptor : Run σ Unit).Keeps
      (session.Grows engine.GivesBuild) fun _ _ => True :=
    .learn (fun known _ grown => grown.learn known) descriptor
  refine (moves.fixUnit_keeps learn fun unit => Moves.rounds_keeps fun progress => ?_).final
    (.refl session)
  have analyzers := engine.analyzers_catalog unit
  have fixers := engine.fixers_catalog unit
  rw [round_eq]
  refine Keeps.isCancelled.bind fun cancelled => ?_
  split
  · exact .pure _
  refine (survey_givesBuild steady strict analyzers unitId _ session).bind fun survey => ?_
  refine moves.act_keeps (fun _ => Moves.fixIds_keeps fun id _ => ?_) progress
  refine moves.passes_keeps (fun state => ?_) _ _
  refine .of_final (fun now grown => grown.trans ?_) fun _ _ => .inl trivial
  exact pass_givesBuild steady strict analyzers fixers state now

end

/-! ### Errors that break off the work on a unit -/

/-- How errors are found in a snapshot: they are the first ones, in report order, of those that the
compiler reports whenever it is asked, and nothing else is done. -/
structure FindsErrors (engine : Engine σ) (unit : SourceUnit) (errors : List Diagnostic)
    (before after : Session σ) : Prop where
  some : errors ≠ []
  reports : ∃ reported, (∀ other, ((engine.compiler.compile unit).carryOut other).1 = .ok reported) ∧
    errors = (Diagnostic.sorted (buildErrors engine.config reported)).take listedErrors
  idle : Grows Event.IsIdle { before with journal := .compiled unit :: before.journal } after

/-- Whether errors are found in the snapshot that a later session has of a unit. -/
def Detects (engine : Engine σ) (unitId : String) (errors : List Diagnostic)
    (start last : Session σ) : Prop :=
  ∃ unit before, start.journal <:+ before.journal ∧
    before.workspace.snapshot? unitId = some unit ∧ engine.FindsErrors unit errors before last

variable {diagnostics errors : List Diagnostic} {survey : Survey} {state : PassState}
  {outcome : FixOutcome} {progress final : Progress}

theorem compile_eq_ok :
    engine.compile unit session = .ok diagnostics last ↔
      ∃ reported, Diagnostic.sorted reported = diagnostics ∧
        (engine.compiler.compile unit).carryOut
          { session with journal := .compiled unit :: session.journal } = (.ok reported, last) := by
  constructor
  · intro compiled
    obtain ⟨_, _, noted, compiled⟩ := bind_eq_ok.mp compiled
    cases noted
    obtain ⟨reported, _, called, compiled⟩ := bind_eq_ok.mp compiled
    obtain ⟨sorted, rfl⟩ := pure_eq_ok.mp compiled
    exact ⟨reported, sorted, call_eq_ok.mp called⟩
  · intro ⟨reported, sorted, called⟩
    refine bind_eq_ok.mpr ⟨(), _, rfl, bind_eq_ok.mpr ⟨reported, last, ?_, ?_⟩⟩
    · exact call_eq_ok.mpr called
    · exact pure_eq_ok.mpr ⟨sorted, rfl⟩

theorem Detects.precede {earlier : Session σ} (detects : engine.Detects unitId errors start last)
    (grown : earlier.journal <:+ start.journal) : engine.Detects unitId errors earlier last := by
  obtain ⟨unit, before, later, found⟩ := detects
  exact ⟨unit, before, grown.trans later, found⟩

/-- Whatever the engine does to a unit, nothing that was noted is taken back. -/
theorem fixes_journal (engine : Engine σ) (unitId : String) (start : Session σ) :
    engine.Fixes unitId (fun now => start.journal <:+ now.journal) fun fault _ =>
      fault ≠ .cancelled :=
  .of_stable start.stable_journal

/-- An examination that comes to errors does nothing but find them. -/
theorem findsErrors_of_examine (steady : (engine.compiler.compile unit).IsStateless)
    (examined : engine.examine unit look session = .ok survey last) (blocked : survey.errors ≠ []) :
    engine.FindsErrors unit survey.errors session last := by
  obtain ⟨rfl, compiled, verified, reported, checked, ⟨-, -, rfl⟩ | ⟨builds, -⟩⟩ :=
    examine_eq_ok.mp examined
  · obtain ⟨found, sorted, called⟩ := compile_eq_ok.mp reported
    obtain ⟨answer, answers⟩ := steady
    have grown := Callback.LeavesWorkspace.notes_own (fun other => (answers other).2)
      { session with journal := .compiled survey.unit :: session.journal }
    rw [called] at grown
    have closed : Closed (fun event => event.isEffect = false ∧ event.IsIdle) fun _ step =>
        step.Keeps (Grows Event.IsIdle
          { session with journal := .compiled survey.unit :: session.journal })
          fun _ _ => True :=
      Keeps.closed (fun _ idle _ grown => grown.note idle.1 idle.2)
        fun known _ grown => grown.learn known
    have verifies : (engine.verifyBuild survey.compilerDiagnostics).Keeps _ _ :=
      verifyBuild_good closed (fun _ => ⟨rfl, rfl, rfl, rfl⟩) (fun _ => ⟨rfl, rfl, rfl, rfl⟩) _
    constructor
    case some => exact blocked
    case reports =>
      refine ⟨found, fun other => ?_, ?_⟩
      · rw [(answers other).1, ← (answers _).1, called]
      · have listed := verifyBuild_eq_ok checked
        split at listed
        · exact absurd listed blocked
        · rw [listed, ← sorted]
          exact congrArg (List.take listedErrors) (Diagnostic.filter_sorted _ found)
    case idle =>
      exact verifies.of_ok
        (grown.mono fun _ calm => Event.isIdle_of_isOfPlugin calm.1 calm.2) checked
  · exact absurd builds blocked

theorem PassStep.detects (steady : ∀ unit, (engine.compiler.compile unit).IsStateless)
    (step : engine.PassStep unitId catalog id state session (.done outcome) last)
    (failed : outcome.ending = .buildFailed errors) : engine.Detects unitId errors session last := by
  generalize same : PassResult.done outcome = result at step
  cases step with
  | @broken survey _ inspected blocked =>
    cases same
    cases failed
    obtain ⟨-, present, examined⟩ := inspect_eq_ok.mp inspected
    exact ⟨survey.unit, session, List.suffix_rfl, present,
      findsErrors_of_examine (steady survey.unit) examined blocked⟩
  | cleared inspected builds empty =>
    cases same
    split at failed <;> cases failed
  | stalled inspected builds found repeated =>
    cases same
    cases failed
  | acted inspected builds found fresh fixed =>
    cases same
    exact absurd failed (fixed.ending_ne.2 errors)

section

variable (analyzers : catalog.analyzers ⊆ engine.analyzers)

include analyzers

/-- A survey asks the compiler. -/
theorem hasCompiled_of_survey {rounds : Nat}
    (surveyed : engine.survey unitId catalog rounds session = .ok survey last) :
    session.HasCompiled last := by
  obtain ⟨-, examined⟩ := survey_eq_ok.mp surveyed
  obtain ⟨-, compiled, verified, reported, checked, looked⟩ := examine_eq_ok.mp examined
  obtain ⟨found, -, called⟩ := compile_eq_ok.mp reported
  have reads := (engine.fixes_journal unitId compiled).reads survey.unit
  have grown : compiled.journal <:+ last.journal := by
    have noted := (reads.verifyBuild_good survey.compilerDiagnostics).of_ok List.suffix_rfl checked
    rcases looked with ⟨-, -, rfl⟩ | ⟨-, looked⟩
    · exact noted
    · obtain ⟨_, _, analyzing, looked⟩ := bind_eq_ok.mp looked
      cases analyzing
      have looks := reads.fixable_good analyzers survey.compilerDiagnostics
      exact looks.of_ok (noted.trans (List.suffix_cons _ _)) looked
  have compiles : session.HasCompiled compiled := by
    obtain ⟨newer, journal⟩ := Callback.journal_of_carryOut called
    refine ⟨newer ++ [.compiled survey.unit, .compiling survey.unit.displayName rounds], ?_,
      .compiled survey.unit, by simp, rfl⟩
    simpa using journal.symm
  exact compiles.follow grown

variable (fixers : catalog.fixers ⊆ engine.fixers)

include fixers

theorem fixDiagnostic_journal (unitId id : String) (session : Session σ) :
    session.journal <:+ (Run.final (engine.fixDiagnostic unitId catalog id session)).journal :=
  ((engine.fixes_journal unitId session).fixDiagnostic_keeps analyzers fixers id).final
    List.suffix_rfl

theorem passes_detects (steady : ∀ unit, (engine.compiler.compile unit).IsStateless) {limit : Nat}
    (ran : engine.passes unitId catalog id limit state session = .ok outcome last)
    (failed : outcome.ending = .buildFailed errors) : engine.Detects unitId errors session last := by
  induction limit generalizing state session with
  | zero =>
    obtain ⟨_, _, -, gave⟩ := bind_eq_ok.mp ran
    cases gave
  | succ limit ih =>
    obtain ⟨result, middle, passed, ran⟩ := bind_eq_ok.mp ran
    cases result with
    | done ended =>
      obtain ⟨rfl, rfl⟩ := pure_eq_ok.mp ran
      exact (pass_of_ok passed).detects steady failed
    | again next =>
      have keeps := (engine.fixes_journal unitId session).pass_keeps analyzers fixers id state
      exact (ih ran).precede (keeps.of_ok List.suffix_rfl passed)

/-- Identifiers in turn are broken off where the fixing of one finds errors. -/
theorem Fixing.detects (steady : ∀ unit, (engine.compiler.compile unit).IsStateless)
    {ids : List String} {outcomes : List (String × FixOutcome)}
    (fixing : engine.Fixing unitId catalog ids progress session outcomes
      (.ended final (.buildFailed errors)) last) : engine.Detects unitId errors session last := by
  generalize same : RoundResult.ended final (.buildFailed errors) = result at fixing
  induction fixing with
  | broken fixed failed =>
    cases same
    exact passes_detects analyzers fixers steady fixed failed
  | @next id rest progress session middle after outcome outcomes result fixed builds later ih =>
    have grown := fixDiagnostic_journal analyzers fixers unitId id session
    rw [fixed, final_ok] at grown
    exact (ih same).precede grown
  | _ => cases same

theorem Fixing.journal {ids : List String} {outcomes : List (String × FixOutcome)}
    {result : RoundResult}
    (fixing : engine.Fixing unitId catalog ids progress session outcomes result last) :
    session.journal <:+ last.journal := by
  have grows := fixDiagnostic_journal analyzers fixers unitId
  induction fixing with
  | done => exact List.suffix_rfl
  | stopped requested => exact List.suffix_rfl
  | @interrupted id rest progress session after failed =>
    have grown := grows id session
    rwa [failed, final_error] at grown
  | @broken id rest progress session after outcome errors fixed failed =>
    have grown := grows id session
    rwa [fixed, final_ok] at grown
  | @next id rest progress session middle after outcome outcomes result fixed builds later ih =>
    have grown := grows id session
    rw [fixed, final_ok] at grown
    exact grown.trans ih

/-- Before a round, either the compiler was asked already or nothing was done at all. -/
theorem Completed.hasCompiled {visits : List Visit}
    (completed : engine.Completed unitId catalog start visits progress session) :
    session = start ∧ progress.iterations = 0 ∨ start.HasCompiled session := by
  induction completed with
  | start => exact .inl ⟨rfl, rfl⟩
  | @round _ _ progress next session after earlier step ih =>
    right
    have grown : start.journal <:+ session.journal := by
      rcases ih with ⟨rfl, -⟩ | compiled
      · exact List.suffix_rfl
      · exact compiled.journal
    refine HasCompiled.precede ?_ grown
    generalize same : RoundResult.again next = result at step
    cases step with
    | acted surveyed builds found fresh fixing =>
      refine (hasCompiled_of_survey analyzers surveyed).follow ?_
      exact (List.suffix_cons _ _).trans (fixing.journal analyzers fixers)
    | _ => cases same

/-- Rounds are broken off where errors are found; unless the compiler was asked before, nothing was
done before. -/
theorem Ended.detects (steady : ∀ unit, (engine.compiler.compile unit).IsStateless)
    {limit : Nat} {visits : List Visit}
    (ended : engine.Ended unitId catalog start limit visits final (.buildFailed errors) last) :
    ∃ unit before, before.workspace.snapshot? unitId = some unit ∧
      engine.FindsErrors unit errors before last ∧
      (start.HasCompiled before ∨ final.iterations = 0 ∧
        ∃ name rounds, before.journal = .compiling name rounds :: start.journal) := by
  cases ended with
  | @round _ _ progress _ session _ _ completed below step =>
    have before := completed.hasCompiled analyzers fixers
    have grown : start.journal <:+ session.journal := by
      rcases before with ⟨rfl, -⟩ | compiled
      · exact List.suffix_rfl
      · exact compiled.journal
    generalize same : RoundResult.ended final (.buildFailed errors) = result at step
    cases step with
    | @broken survey _ surveyed blocked =>
      cases same
      obtain ⟨present, examined⟩ := survey_eq_ok.mp surveyed
      have finds := findsErrors_of_examine (steady survey.unit) examined blocked
      refine ⟨survey.unit, _, ?_, finds, ?_⟩
      · exact present
      rcases before with ⟨rfl, none⟩ | compiled
      · exact .inr ⟨none, _, _, rfl⟩
      · exact .inl (compiled.follow (List.suffix_cons _ _))
    | @acted survey _ _ outcomes result surveyed builds found fresh fixing =>
      cases result with
      | again next => cases same
      | ended progress ending =>
        cases same
        obtain ⟨unit, before, later, present, finds⟩ := fixing.detects analyzers fixers steady
        have compiled := (hasCompiled_of_survey analyzers surveyed).follow
          ((List.suffix_cons _ _).trans later)
        exact ⟨unit, before, present, finds, .inl (compiled.precede grown)⟩
    | _ => cases same

end

/-- How the work on a unit was broken off: the compiler was asked about the snapshot that the unit
is left with, and found errors; after that, nothing was done. If it had not been asked before,
neither had anyone else. -/
structure BrokenOff (engine : Engine σ) (unitId : String) (session : Session σ)
    (result : UnitResult) (last : Session σ) (unit : SourceUnit) (reported : List Diagnostic)
    (newer older : List Event) : Prop where
  latest : last.workspace.snapshot? unitId = some unit
  reports : ∀ other, ((engine.compiler.compile unit).carryOut other).1 = .ok reported
  some : result.compilerErrors ≠ []
  errors : result.compilerErrors =
    (Diagnostic.sorted (buildErrors engine.config reported)).take 10
  journal : last.journal = newer ++ .compiled unit :: older ++ session.journal
  idle : ∀ event ∈ newer, event.IsIdle
  first : (∀ event ∈ older, event.isCompiling = false) →
    result.iterations = 0 ∧ ∀ event ∈ older, event.isAsking = false

theorem brokenOff_of_compilerError (steady : ∀ unit, (engine.compiler.compile unit).IsStateless)
    {result : UnitResult} (ran : engine.fixUnit unitId session = .ok result last)
    (failed : result.kind = .compilerError) :
    ∃ unit reported newer older,
      engine.BrokenOff unitId session result last unit reported newer older := by
  obtain ⟨first, found, ⟨-, other, -⟩ | ⟨-, other, -⟩ | ⟨-, -, _, progress, ending, course, rfl⟩⟩ :=
    fixUnit_of_ok ran
  · cases failed.symm.trans other
  · cases failed.symm.trans other
  obtain rfl := Workspace.id_of_snapshot? found
  obtain ⟨begun, rounded, learnt, ended, noted⟩ := course
  obtain ⟨known, rfl⟩ := learnt_eq learnt
  cases ending with
  | buildFailed errors =>
    cases noted
    obtain ⟨unit, before, present, finds, earlier⟩ :=
      ended.detects (engine.analyzers_catalog first) (engine.fixers_catalog first) steady
    obtain ⟨reported, reports, listed⟩ := finds.reports
    obtain ⟨newer, follows, idle⟩ := finds.idle
    have grown : ∃ older, before.journal = older ++ session.journal ∧
        ((∀ event ∈ older, event.isCompiling = false) →
          progress.iterations = 0 ∧ ∀ event ∈ older, event.isAsking = false) := by
      rcases earlier with ⟨older, journal, event, member, compiles⟩ | ⟨none, name, rounds, journal⟩
      · refine ⟨older, journal, fun never => ?_⟩
        cases (never event member).symm.trans compiles
      · exact ⟨[.compiling name rounds], journal, fun _ => ⟨none, by simp [Event.isAsking]⟩⟩
    obtain ⟨older, journal, first⟩ := grown
    refine ⟨unit, reported, newer, older, ?_, reports, finds.some, listed, ?_, idle, first⟩
    · rw [follows.untouched, present]
      refine List.countP_eq_zero.mpr fun event member => ?_
      rw [Event.landsOn_of_not_isLanding _ (idle event member).2.2]
      exact Bool.false_ne_true
    · rw [follows.journal, journal]
      simp
  | _ => cases failed

/-- With a stateless compiler, nothing is asked about a snapshot that does not build, unless build
errors are not to count; and where errors break off the work on a unit, they are those of its latest
snapshot and nothing was done after they were found. -/
theorem fixUnit_respects_builds (steady : ∀ unit, (engine.compiler.compile unit).IsStateless)
    (unitId : String) (session : Session σ) :
    (engine.config.ignoreCompilerErrors.isTruthy = false →
      ∃ news, (Run.final (engine.fixUnit unitId session)).journal = news ++ session.journal ∧
        ∀ event ∈ news, ∀ unit, event.given? = some unit → engine.Builds unit) ∧
    ∀ result last, engine.fixUnit unitId session = .ok result last →
      result.kind = .compilerError → ∃ unit reported newer older,
        engine.BrokenOff unitId session result last unit reported newer older := by
  constructor
  · intro strict
    obtain ⟨news, follows, gives⟩ := fixUnit_givesBuild steady strict unitId session
    exact ⟨news, follows.journal, gives⟩
  · intro result last ran failed
    exact brokenOff_of_compilerError steady ran failed

end Engine

namespace Opening

/-- The engine that opens brackets, with rounds to spare. -/
def patient : Engine Unit := { engine with config := default }

/-- The second round finds that the fix of the first broke the unit. -/
theorem patient_brokenOff :
    ∃ result last, patient.fixUnit "a" session = .ok result last ∧
      result.kind = .compilerError ∧ result.iterations = 1 ∧
      (∃ news, last.journal = news ++ session.journal ∧
        ∀ event ∈ news, ∀ unit, event.given? = some unit → patient.Builds unit) ∧
      ∃ unit reported newer older,
        patient.BrokenOff "a" session result last unit reported newer older := by
  have evaluated : Run.peek? (fun result _ => (result.kind, result.iterations))
      (patient.fixUnit "a" session) = some (.compilerError, 1) := by decide +kernel
  obtain ⟨result, last, ran, seen⟩ := Run.peek?_eq_some.mp evaluated
  obtain ⟨failed, rounds⟩ := by simpa only [Prod.mk.injEq] using seen
  have steady (unit : SourceUnit) : (patient.compiler.compile unit).IsStateless :=
    statelessPlugins.compiler unit
  obtain ⟨gives, breaksOff⟩ := Engine.fixUnit_respects_builds steady "a" session
  have given := gives (by decide)
  rw [ran, Run.final_ok] at given
  exact ⟨result, last, ran, failed, rounds, given, breaksOff result last ran failed⟩

end Opening

end FixLoop
