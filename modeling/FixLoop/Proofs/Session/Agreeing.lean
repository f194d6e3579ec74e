import FixLoop.Proofs.Session.Collecting
import FixLoop.Proofs.Session.Handing
import FixLoop.Proofs.Session.Passing

/-!
Rounds and passes agree. A round asks all analyzers and filters by several conditions; a pass asks
those of its identifier, or else the compiler, and filters by two. As long as analyzers keep to what
they declare and the compiler to what they do not, both see the same diagnostics of an identifier on
which the round acts, in the same order.
-/

namespace FixLoop

namespace Engine

open Run Diagnostic

variable {σ : Type} {engine : Engine σ} {catalog : Catalog σ} {unit : SourceUnit}
  {unitId id : String} {analyzer : Analyzer σ} {diagnostics compilerDiagnostics : List Diagnostic}
  {session last : Session σ} {d : Diagnostic}

theorem canReport_of_reported (member : d ∈ analyzer.reported unit session) :
    analyzer.CanReport unit d := by
  unfold Analyzer.reported at member
  split at member
  · rename_i reported answered
    exact ⟨session, reported, _, Prod.ext answered rfl, member⟩
  · cases member

/-- Whether the analyzers of a catalog report only what they declare. -/
def KeepsToDeclared (catalog : Catalog σ) (unit : SourceUnit) : Prop :=
  ∀ analyzer ∈ catalog.analyzers, ∀ d, analyzer.CanReport unit d → analyzer.reports d.id = true

theorem isEmpty_analyzersOf (catalog : Catalog σ) (id : String) :
    (catalog.analyzersOf id).isEmpty = !catalog.hasAnalyzer id := by
  unfold Catalog.hasAnalyzer Catalog.analyzersOf
  rw [Bool.eq_iff_iff, List.isEmpty_iff, List.filter_eq_nil_iff, Bool.not_eq_true',
    List.any_eq_false]

/-- What analyzers report that do not declare an identifier does not matter to it. -/
theorem filter_reported (keeps : KeepsToDeclared catalog unit) (id : String) (session : Session σ) :
    (catalog.reported unit session).filter (·.id == id) =
      ((catalog.analyzersOf id).map (·.reported unit session)).flatten.filter (·.id == id) := by
  unfold Catalog.reported Catalog.analyzersOf
  unfold KeepsToDeclared at keeps
  generalize catalog.analyzers = analyzers at keeps ⊢
  induction analyzers with
  | nil => rfl
  | cons analyzer rest ih =>
    have others := ih fun other member => keeps other (List.mem_cons_of_mem _ member)
    rw [List.map_cons, List.flatten_cons, List.filter_append, others, List.filter_cons]
    split
    · rw [List.map_cons, List.flatten_cons, List.filter_append]
    · rename_i silent
      have none : (analyzer.reported unit session).filter (·.id == id) = [] := by
        rw [List.filter_eq_nil_iff]
        intro d member own
        have declared := keeps analyzer List.mem_cons_self d (canReport_of_reported member)
        rw [beq_iff_eq.mp own] at declared
        exact silent declared
      rw [none, List.nil_append]

/-- Whether a pass over an identifier counts a diagnostic. -/
def isOccurrence (config : Config) (id : String) (d : Diagnostic) : Bool :=
  d.id == id && config.minimumSeverity ≤ d.severity

/-- What a pass over an identifier looks at, of what analyzers and the compiler report. -/
def looked (catalog : Catalog σ) (id : String) (unit : SourceUnit) (session : Session σ)
    (compilerDiagnostics : List Diagnostic) : List Diagnostic :=
  if catalog.hasAnalyzer id then collected ((catalog.analyzersOf id).map (·.reported unit session))
  else compilerDiagnostics

theorem filter_isOccurrence (config : Config) (id : String) (diagnostics : List Diagnostic) :
    diagnostics.filter (isOccurrence config id) =
      (diagnostics.filter (·.id == id)).filter (config.minimumSeverity ≤ ·.severity) := by
  rw [List.filter_filter]
  exact List.filter_congr fun d _ => Bool.and_comm _ _

theorem filter_collected (id : String) (diagnostics : List Diagnostic) :
    (sorted (distinct diagnostics)).filter (·.id == id) =
      sorted (distinct (diagnostics.filter (·.id == id))) := by
  rw [filter_sorted, filter_distinct]
  intro a b alike
  have own : a.id = b.id := congrArg Prod.fst alike
  rw [own]

theorem occurrences_of_stateless (engine : Engine σ) (id : String)
    (stateless : ∀ analyzer ∈ catalog.analyzers, (analyzer.analyze unit).IsStateless)
    (asked session : Session σ) (compilerDiagnostics : List Diagnostic) :
    ∃ last, engine.occurrences unit catalog id compilerDiagnostics session =
      .ok ((looked catalog id unit asked compilerDiagnostics).filter
        (isOccurrence engine.config id)) last := by
  unfold occurrences looked
  dsimp only
  rw [isEmpty_analyzersOf]
  cases catalog.hasAnalyzer id with
  | false => exact ⟨session, rfl⟩
  | true =>
    have own : ∀ analyzer ∈ catalog.analyzersOf id, (analyzer.analyze unit).IsStateless :=
      fun analyzer member => stateless analyzer (List.mem_filter.mp member).1
    obtain ⟨last, ran⟩ := analyze_of_stateless own asked session
    exact ⟨last, bind_of_ok ran⟩

/-- An identifier on which a round acts has a fixer, and is not ignored in those who report it. -/
theorem admitted_of_chosen (apart : ∀ d ∈ compilerDiagnostics, catalog.hasAnalyzer d.id = false)
    {reported : List Diagnostic}
    (found : id ∈ (engine.chosen catalog reported compilerDiagnostics).map (·.id)) :
    catalog.hasFixer id = true ∧
      (catalog.hasAnalyzer id = true → id ∉ engine.config.ignoredIds) ∧
      (catalog.hasAnalyzer id = false → engine.config.ignoresCompilerId id = false) := by
  obtain ⟨d, member, rfl⟩ := List.mem_map.mp found
  rcases List.mem_append.mp member with acted | warned
  · have acted := (List.mem_filter.mp acted).2
    simp only [isFixable, Config.isSupported, Bool.and_eq_true, decide_eq_true_eq] at acted
    obtain ⟨⟨⟨-, unignored⟩, analyzed⟩, fixed⟩ := acted
    exact ⟨fixed, fun _ => unignored, fun silent =>
      absurd (silent.symm.trans analyzed) Bool.false_ne_true⟩
  · obtain ⟨reported, acted⟩ := List.mem_filter.mp warned
    simp only [isFixableWarning, Bool.and_eq_true, Bool.not_eq_true'] at acted
    obtain ⟨⟨-, unignored⟩, fixed⟩ := acted
    have silent := apart d reported
    exact ⟨fixed, fun analyzed => absurd (silent.symm.trans analyzed) Bool.false_ne_true,
      fun _ => unignored⟩

theorem filter_isFixable (fixed : catalog.hasFixer id = true)
    (analyzed : catalog.hasAnalyzer id = true) (unignored : id ∉ engine.config.ignoredIds)
    (diagnostics : List Diagnostic) :
    (diagnostics.filter (isFixable engine.config catalog)).filter (·.id == id) =
      diagnostics.filter (isOccurrence engine.config id) := by
  rw [List.filter_filter]
  apply List.filter_congr
  intro d _
  unfold isOccurrence
  by_cases own : d.id = id
  · subst own
    simp [isFixable, Config.isSupported, fixed, analyzed, unignored]
  · rw [beq_eq_false_iff_ne.mpr own, Bool.false_and, Bool.false_and]

theorem filter_isFixableWarning (fixed : catalog.hasFixer id = true)
    (unignored : engine.config.ignoresCompilerId id = false)
    (builds : buildErrors engine.config diagnostics = []) :
    (diagnostics.filter (isFixableWarning engine.config catalog)).filter (·.id == id) =
      diagnostics.filter (isOccurrence engine.config id) := by
  rw [List.filter_filter]
  apply List.filter_congr
  intro d member
  unfold isOccurrence
  by_cases own : d.id = id
  · subst own
    have harmless : d.severity ≠ .error := by
      intro severe
      have counts := List.filter_eq_nil_iff.mp builds d member
      simp [severe, unignored] at counts
    simp [isFixableWarning, fixed, unignored, harmless]
  · rw [beq_eq_false_iff_ne.mpr own, Bool.false_and, Bool.false_and]

/-- Of an identifier on which it acts, a round sees what a pass sees. -/
theorem filter_chosen (keeps : KeepsToDeclared catalog unit)
    (builds : buildErrors engine.config compilerDiagnostics = [])
    (apart : ∀ d ∈ compilerDiagnostics, catalog.hasAnalyzer d.id = false) (session : Session σ)
    (found : id ∈ (engine.chosen catalog (catalog.reported unit session)
      compilerDiagnostics).map (·.id)) :
    (engine.chosen catalog (catalog.reported unit session) compilerDiagnostics).filter
        (·.id == id) =
      (looked catalog id unit session compilerDiagnostics).filter
        (isOccurrence engine.config id) := by
  obtain ⟨fixed, supported, counted⟩ := admitted_of_chosen apart found
  unfold chosen looked
  rw [List.filter_append]
  cases analyzed : catalog.hasAnalyzer id with
  | false =>
    have none : ((sorted (distinct (catalog.reported unit session))).filter
        (isFixable engine.config catalog)).filter (·.id == id) = [] := by
      rw [List.filter_filter, List.filter_eq_nil_iff]
      intro d _ both
      simp only [isFixable, Bool.and_eq_true, beq_iff_eq] at both
      obtain ⟨rfl, ⟨-, analyzes⟩, -⟩ := both
      exact Bool.false_ne_true (analyzed.symm.trans analyzes)
    rw [none, List.nil_append, if_neg Bool.false_ne_true]
    exact filter_isFixableWarning fixed (counted analyzed) builds
  | true =>
    have none : (compilerDiagnostics.filter (isFixableWarning engine.config catalog)).filter
        (·.id == id) = [] := by
      rw [List.filter_filter, List.filter_eq_nil_iff]
      intro d member both
      simp only [Bool.and_eq_true, beq_iff_eq] at both
      obtain ⟨rfl, -⟩ := both
      exact Bool.false_ne_true ((apart d member).symm.trans analyzed)
    rw [none, List.append_nil, if_pos rfl, filter_isFixable fixed analyzed (supported analyzed),
      filter_isOccurrence, filter_isOccurrence, collected, filter_collected, filter_collected,
      filter_reported keeps]

theorem verifyBuild_of_builds (builds : buildErrors engine.config diagnostics = [])
    (session : Session σ) : engine.verifyBuild diagnostics session = .ok [] session := by
  unfold verifyBuild
  rw [builds]
  exact pure_eq_ok.mpr ⟨by simp, rfl⟩

/-- A pass that finds something in a unit that builds does not end for want of it. -/
theorem ending_ne_of_inspected {survey : Survey} {after : Session σ} {state : PassState}
    {outcome : FixOutcome}
    (inspected : engine.inspect unitId catalog id session = .ok survey after)
    (builds : survey.errors = []) (found : survey.diagnostics ≠ [])
    (passed : engine.pass unitId catalog id state session = .ok (.done outcome) last) :
    outcome.ending ≠ .nothingToFix := by
  generalize same : PassResult.done outcome = result at passed
  cases pass_of_ok passed with
  | broken again blocked =>
    cases inspected.symm.trans again
    exact absurd builds blocked
  | cleared again _ empty =>
    cases inspected.symm.trans again
    exact absurd empty found
  | stalled =>
    cases same
    exact nofun
  | acted _ _ _ _ fixed =>
    subst same
    exact fixed.ending_ne.1

/-- If passes end in a way in which the first one does not, that one asks for another. -/
theorem exists_again_of_fixDiagnostic {outcome : FixOutcome} {ending : FixEnding}
    (other : ∀ first after, engine.pass unitId catalog id {} session = .ok (.done first) after →
      first.ending ≠ ending)
    (ran : engine.fixDiagnostic unitId catalog id session = .ok outcome last)
    (ended : outcome.ending = ending) :
    ∃ next middle, engine.pass unitId catalog id {} session = .ok (.again next) middle := by
  unfold fixDiagnostic at ran
  cases limit : engine.passLimit with
  | zero =>
    rw [limit, passes_zero] at ran
    cases ran
  | succ more =>
    rw [limit] at ran
    obtain ⟨result, middle, passed, rest⟩ := bind_eq_ok.mp ran
    cases result with
    | done first =>
      obtain ⟨rfl, -⟩ := pure_eq_ok.mp rest
      exact absurd ended (other _ _ passed)
    | again next => exact ⟨next, middle, passed⟩

/-- Of an identifier on which a round acts, a pass over the same snapshot finds what the round
collected, in the same order; so there is something to fix. -/
theorem pass_finds_collected
    (stateless : ∀ analyzer ∈ catalog.analyzers, (analyzer.analyze unit).IsStateless)
    (keeps : KeepsToDeclared catalog unit)
    (builds : buildErrors engine.config compilerDiagnostics = [])
    (apart : ∀ d ∈ compilerDiagnostics, catalog.hasAnalyzer d.id = false)
    (ran : engine.fixable unit catalog compilerDiagnostics session = .ok diagnostics last)
    (found : id ∈ diagnostics.map (·.id)) :
    ∀ now compiled : Session σ, now.cancellation.isRequested = false →
      now.workspace.snapshot? unitId = some unit →
      engine.compile unit now = .ok compilerDiagnostics compiled →
      (∃ after, engine.inspect unitId catalog id now =
        .ok { unit, compilerDiagnostics, diagnostics := diagnostics.filter (·.id == id) } after) ∧
      (∀ state outcome after, engine.pass unitId catalog id state now = .ok (.done outcome) after →
        outcome.ending ≠ .nothingToFix) ∧
      ∀ outcome after, engine.fixDiagnostic unitId catalog id now = .ok outcome after →
        outcome.ending = .nothingToFix →
        ∃ next middle, engine.pass unitId catalog id {} now = .ok (.again next) middle := by
  intro now compiled running present compiles
  obtain ⟨_, collects⟩ := fixable_of_stateless engine stateless session session compilerDiagnostics
  cases ran.symm.trans collects
  obtain ⟨after, finds⟩ := occurrences_of_stateless engine id stateless session compiled
    compilerDiagnostics
  rw [← filter_chosen keeps builds apart session found] at finds
  have inspected : engine.inspect unitId catalog id now = .ok {
      unit, compilerDiagnostics
      diagnostics := (engine.chosen catalog (catalog.reported unit session)
        compilerDiagnostics).filter (·.id == id) } after :=
    inspect_eq_ok.mpr ⟨running, present, examine_eq_ok.mpr
      ⟨rfl, compiled, compiled, compiles, verifyBuild_of_builds builds compiled, .inr ⟨rfl, finds⟩⟩⟩
  have nonempty : (engine.chosen catalog (catalog.reported unit session)
      compilerDiagnostics).filter (·.id == id) ≠ [] := by
    intro empty
    obtain ⟨d, member, own⟩ := List.mem_map.mp found
    exact absurd (beq_iff_eq.mpr own) (List.filter_eq_nil_iff.mp empty d member)
  have passes (state : PassState) (outcome : FixOutcome) (after : Session σ) :
      engine.pass unitId catalog id state now = .ok (.done outcome) after →
        outcome.ending ≠ .nothingToFix :=
    ending_ne_of_inspected inspected rfl nonempty
  exact ⟨⟨after, inspected⟩, passes, fun _ _ => exists_again_of_fixDiagnostic (passes {})⟩

end Engine

namespace Overlapping

/-! Two analyzers report the same letter, and the compiler warns of another one. -/

def warned : Descriptor where
  id := "X2"
  title := "Look at it"
  severity := .warning

def engine : Engine Unit where
  analyzers := [Letters.analyzer 'a', { Letters.analyzer 'a' with type := "Other" }]
  fixers := [Letters.fixer (Letters.replacing 'q')]
  compiler := {
    type := "Warner", package := "plugins"
    compile := fun unit => .answer (Letters.diagnostics warned .compiler 'c' unit) }
  formatter := Formatting.whitespace
  config := default
  passLimit := 4

def unit : SourceUnit := Letters.source ['c', 'a']

def catalog : Catalog Unit := engine.catalog unit

def session : Session Unit := Letters.session ['c', 'a']

def reported : List Diagnostic := Letters.diagnostics Letters.descriptor .analyzer 'a' unit

def warnings : List Diagnostic := Letters.diagnostics warned .compiler 'c' unit

theorem analyze_eq {analyzer : Analyzer Unit} (member : analyzer ∈ catalog.analyzers) :
    analyzer.analyze unit = .answer reported ∧ analyzer.descriptors = [Letters.descriptor] := by
  have among := (List.mem_filter.mp member).1
  simp only [engine, List.mem_cons, List.not_mem_nil, or_false] at among
  rcases among with rfl | rfl <;> exact ⟨rfl, rfl⟩

theorem keepsToDeclared : Engine.KeepsToDeclared catalog unit := by
  intro analyzer member d ⟨_, found, _, answered, among⟩
  obtain ⟨answers, declares⟩ := analyze_eq member
  rw [answers] at answered
  cases answered
  have own : reported.all fun d => d.id == Letters.descriptor.id := by decide +kernel
  rw [Analyzer.reports, declares, beq_iff_eq.mp (List.all_eq_true.mp own d among)]
  rfl

/-- A pass finds what the analyzers report, once. -/
theorem pass_finds_collected_once :
    ∃ after, engine.inspect "a" catalog "X1" session =
      .ok { unit, compilerDiagnostics := warnings, diagnostics := reported } after := by
  have stateless : ∀ analyzer ∈ catalog.analyzers, (analyzer.analyze unit).IsStateless := by
    intro analyzer member
    rw [(analyze_eq member).1]
    exact ⟨_, fun _ => ⟨rfl, rfl⟩⟩
  have collects : Run.peek? (fun diagnostics _ => diagnostics)
      (engine.fixable unit catalog warnings session) = some reported := by decide +kernel
  have compiles : Run.peek? (fun diagnostics _ => diagnostics) (engine.compile unit session) =
      some warnings := by decide +kernel
  obtain ⟨_, last, ran, rfl⟩ := Run.peek?_eq_some.mp collects
  obtain ⟨_, compiled, warns, rfl⟩ := Run.peek?_eq_some.mp compiles
  have present : session.workspace.snapshot? "a" = some unit := rfl
  have found : "X1" ∈ reported.map (·.id) := by decide +kernel
  obtain ⟨⟨after, inspected⟩, -, -⟩ := Engine.pass_finds_collected stateless
    keepsToDeclared (by decide +kernel) (by decide +kernel) ran found session compiled rfl present
    warns
  have whole : reported.filter (·.id == "X1") = reported := by decide +kernel
  rw [whole] at inspected
  exact ⟨after, inspected⟩

end Overlapping

end FixLoop
