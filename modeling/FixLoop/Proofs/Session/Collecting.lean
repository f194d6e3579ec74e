import FixLoop.Formatting
import FixLoop.Proofs.Collected
import FixLoop.Proofs.Plugin.Letters
import FixLoop.Proofs.Session.Stateless

/-!
What a round collects. Of each finding the first report counts, in registration order, and only then
are reports filtered by severity. So a finding is lost if it is first reported below the minimum
severity, however others report it, and what a round acts on depends on the order of the analyzers
exactly if they disagree about that.
-/

namespace FixLoop

variable {σ : Type}

/-- What an analyzer reports when it is asked in a session; one that fails reports nothing. -/
def Analyzer.reported (analyzer : Analyzer σ) (unit : SourceUnit) (session : Session σ) :
    List Diagnostic :=
  match ((analyzer.analyze unit).carryOut session).1 with
  | .ok diagnostics => diagnostics
  | .error _ => []

/-- What the analyzers of a catalog report, in registration order. -/
def Catalog.reported (catalog : Catalog σ) (unit : SourceUnit) (session : Session σ) :
    List Diagnostic :=
  (catalog.analyzers.map (·.reported unit session)).flatten

namespace Engine

open Run Diagnostic

variable {engine : Engine σ} {catalog : Catalog σ} {unit : SourceUnit}
  {analyzers : List (Analyzer σ)} {analyzer : Analyzer σ}

theorem reported_congr (stateless : (analyzer.analyze unit).IsStateless) (one other : Session σ) :
    analyzer.reported unit one = analyzer.reported unit other := by
  obtain ⟨answer, answers⟩ := stateless
  unfold Analyzer.reported
  rw [(answers one).1, (answers other).1]

theorem runAnalyzer_of_stateless (stateless : (analyzer.analyze unit).IsStateless)
    (asked session : Session σ) :
    ∃ last, runAnalyzer unit analyzer session = .ok (analyzer.reported unit asked) last := by
  let noted := { session with journal := .analyzed analyzer.fullName unit :: session.journal }
  let answer := (analyzer.analyze unit).carryOut noted
  have attempted : attempt (analyzer.analyze unit) noted = .ok answer.1 answer.2 := rfl
  rw [reported_congr stateless asked noted, Analyzer.reported]
  cases answered : ((analyzer.analyze unit).carryOut noted).1 <;> rw [answered] at attempted <;>
    exact ⟨_, bind_eq_ok.mpr ⟨(), noted, rfl, bind_eq_ok.mpr ⟨_, _, attempted, rfl⟩⟩⟩

/-- Analyzers that are stateless report the same wherever they are asked. -/
theorem analyze_of_stateless
    (stateless : ∀ analyzer ∈ analyzers, (analyzer.analyze unit).IsStateless)
    (asked session : Session σ) :
    ∃ last, analyze unit analyzers session =
      .ok (collected (analyzers.map (·.reported unit asked))) last := by
  have batches : ∃ last, analyzers.mapM (runAnalyzer unit) session =
      .ok (analyzers.map (·.reported unit asked)) last := by
    induction analyzers generalizing session with
    | nil => exact ⟨session, rfl⟩
    | cons analyzer rest ih =>
      obtain ⟨middle, first⟩ :=
        runAnalyzer_of_stateless (stateless analyzer List.mem_cons_self) asked session
      obtain ⟨last, others⟩ :=
        ih (fun other member => stateless other (List.mem_cons_of_mem _ member)) middle
      rw [List.mapM_cons]
      exact ⟨last, bind_eq_ok.mpr ⟨_, middle, first, bind_of_ok others⟩⟩
  obtain ⟨last, ran⟩ := batches
  exact ⟨last, bind_of_ok ran⟩

/-- What a round acts on, of what analyzers and the compiler report. -/
def chosen (engine : Engine σ) (catalog : Catalog σ)
    (reported compilerDiagnostics : List Diagnostic) : List Diagnostic :=
  (sorted (distinct reported)).filter (isFixable engine.config catalog) ++
    compilerDiagnostics.filter (isFixableWarning engine.config catalog)

theorem fixable_of_stateless (engine : Engine σ) {catalog : Catalog σ}
    (stateless : ∀ analyzer ∈ catalog.analyzers, (analyzer.analyze unit).IsStateless)
    (asked session : Session σ) (compilerDiagnostics : List Diagnostic) :
    ∃ last, engine.fixable unit catalog compilerDiagnostics session =
      .ok (engine.chosen catalog (catalog.reported unit asked) compilerDiagnostics) last := by
  obtain ⟨middle, analyzed⟩ := analyze_of_stateless stateless asked session
  have learns : Keeps (fun _ => True) (fun _ _ => False)
      (((engine.chosen catalog (catalog.reported unit asked) compilerDiagnostics).filter
        (·.isCompiler)).forM fun diagnostic => learn (σ := σ) (describe diagnostic)) :=
    .forM fun _ _ => .learn (fun _ _ _ => trivial) _
  obtain ⟨_, last, learnt, -⟩ :=
    learns.exists_ok (show (fun _ : Session σ => True) middle from trivial)
  exact ⟨last, bind_eq_ok.mpr ⟨_, middle, analyzed, bind_of_ok learnt⟩⟩

/-- The engine with other analyzers. -/
def withAnalyzers (engine : Engine σ) (analyzers : List (Analyzer σ)) : Engine σ :=
  { engine with analyzers }

variable {others : List (Analyzer σ)} {compilerDiagnostics : List Diagnostic} {d : Diagnostic}

theorem catalog_analyzers_perm (permuted : others.Perm engine.analyzers) (unit : SourceUnit) :
    ((engine.withAnalyzers others).catalog unit).analyzers.Perm (engine.catalog unit).analyzers :=
  permuted.filter _

/-- Whether a diagnostic can be acted on does not depend on the order of the analyzers. -/
theorem isFixable_withAnalyzers (permuted : others.Perm engine.analyzers) (unit : SourceUnit) :
    isFixable engine.config ((engine.withAnalyzers others).catalog unit) =
      isFixable engine.config (engine.catalog unit) := by
  funext d
  unfold isFixable Catalog.hasAnalyzer
  rw [(catalog_analyzers_perm permuted unit).any_eq]
  rfl

theorem findings_chosen (engine : Engine σ) (catalog : Catalog σ)
    (reported compilerDiagnostics : List Diagnostic) :
    (findings (engine.chosen catalog reported compilerDiagnostics)).Perm
      (findings ((distinct reported).filter (isFixable engine.config catalog)) ++
        findings (compilerDiagnostics.filter (isFixableWarning engine.config catalog))) := by
  unfold chosen findings
  rw [List.map_append]
  exact (((sorted_perm _).filter _).map _).append_right _

/-- A diagnostic to act on is kept if its first report is one to act on. -/
theorem mem_findings_chosen (fixable : isFixable engine.config catalog d = true)
    {reported : List Diagnostic} :
    d.finding ∈ findings (engine.chosen catalog reported compilerDiagnostics) ↔
      (∃ first, reported.find? d.same = some first ∧
          engine.config.minimumSeverity ≤ first.severity) ∨
        ∃ warning ∈ compilerDiagnostics,
          isFixableWarning engine.config catalog warning = true ∧ warning.finding = d.finding := by
  rw [(findings_chosen ..).mem_iff, List.mem_append]
  refine or_congr ?_ ?_
  · have keeps (other : Diagnostic) (same : other.finding = d.finding) :
        isFixable engine.config catalog other = true ↔
          engine.config.minimumSeverity ≤ other.severity := by
      have own : other.id = d.id := congrArg Prod.fst same
      simp only [isFixable, Config.isSupported, Bool.and_eq_true, decide_eq_true_eq] at fixable ⊢
      rw [own]
      obtain ⟨⟨⟨-, unignored⟩, analyzed⟩, fixed⟩ := fixable
      exact ⟨fun acted => acted.1.1.1, fun severe => ⟨⟨⟨severe, unignored⟩, analyzed⟩, fixed⟩⟩
    constructor
    · intro kept
      obtain ⟨first, kept, same⟩ := mem_findings.mp kept
      obtain ⟨among, acted⟩ := List.mem_filter.mp kept
      refine ⟨first, ?_, (keeps first same).mp acted⟩
      rw [← same_congr same]
      exact mem_distinct.mp among
    · intro ⟨first, found, severe⟩
      have same : first.finding = d.finding := (same_iff.mp (List.find?_some found)).symm
      rw [← same_congr same] at found
      exact mem_findings.mpr
        ⟨first, List.mem_filter.mpr ⟨mem_distinct.mpr found, (keeps first same).mpr severe⟩, same⟩
  · simp only [mem_findings, List.mem_filter, and_assoc]

/-- Whether a round collects the same findings whatever the order of the analyzers is. -/
def OrderFree (engine : Engine σ) (unit : SourceUnit)
    (compilerDiagnostics diagnostics : List Diagnostic) : Prop :=
  ∀ others : List (Analyzer σ), others.Perm engine.analyzers → ∀ now : Session σ,
    ∃ reordered after,
      (engine.withAnalyzers others).fixable unit ((engine.withAnalyzers others).catalog unit)
          compilerDiagnostics now = .ok reordered after ∧
        sameFindings diagnostics reordered = true

section

variable (stateless : ∀ analyzer ∈ engine.analyzers, (analyzer.analyze unit).IsStateless)
  (session : Session σ)

include stateless

/-- What a round with reordered analyzers collects from them and from the compiler. -/
theorem exists_reordered (permuted : others.Perm engine.analyzers) (now : Session σ)
    (compilerDiagnostics : List Diagnostic) :
    ∃ reordered after,
      (engine.withAnalyzers others).fixable unit ((engine.withAnalyzers others).catalog unit)
          compilerDiagnostics now = .ok reordered after ∧
        (findings reordered).Perm
          (findings ((distinct (((engine.withAnalyzers others).catalog unit).reported unit
              session)).filter (isFixable engine.config (engine.catalog unit))) ++
            findings (compilerDiagnostics.filter
              (isFixableWarning engine.config (engine.catalog unit)))) := by
  have members := (engine.withAnalyzers others).analyzers_catalog unit
  obtain ⟨after, ran⟩ := fixable_of_stateless (engine.withAnalyzers others)
    (fun analyzer member => stateless analyzer (permuted.mem_iff.mp (members member)))
    session now compilerDiagnostics
  refine ⟨_, after, ran, ?_⟩
  rw [← isFixable_withAnalyzers permuted]
  exact findings_chosen ..

/-- If the order of the analyzers does not matter, each of them decides about its findings. -/
theorem OrderFree.decides {diagnostics : List Diagnostic}
    (free : engine.OrderFree unit compilerDiagnostics diagnostics)
    (member : analyzer ∈ (engine.catalog unit).analyzers)
    (first : d ∈ distinct (analyzer.reported unit session)) :
    ∃ kept : List (String × Location × String),
      (findings diagnostics).Perm (kept ++ findings (compilerDiagnostics.filter
        (isFixableWarning engine.config (engine.catalog unit)))) ∧
      (d.finding ∈ kept ↔ isFixable engine.config (engine.catalog unit) d = true) := by
  obtain ⟨among, supported⟩ := List.mem_filter.mp member
  obtain ⟨before, after, split⟩ := List.append_of_mem among
  have permuted : (analyzer :: (before ++ after)).Perm engine.analyzers := by
    rw [split]
    exact List.perm_middle.symm
  obtain ⟨reordered, last, ran, collected⟩ := exists_reordered stateless session permuted session
    compilerDiagnostics
  obtain ⟨_, _, again, same⟩ := free _ permuted session
  cases ran.symm.trans again
  refine ⟨_, (sameFindings_iff.mp same).trans collected, ?_⟩
  have leads : (engine.withAnalyzers (analyzer :: (before ++ after))).catalog unit =
      { (engine.catalog unit) with
        analyzers := analyzer :: (before ++ after).filter (·.supports unit.language) } := by
    unfold Engine.catalog Catalog.ofUnit withAnalyzers
    rw [List.filter_cons, if_pos supported]
  rw [leads, Catalog.reported, List.map_cons, List.flatten_cons]
  exact mem_findings_kept_first first

/-- The order of the analyzers does not matter exactly if they agree. -/
theorem orderFree_iff {diagnostics : List Diagnostic} {last : Session σ}
    (ran : engine.fixable unit (engine.catalog unit) compilerDiagnostics session =
      .ok diagnostics last) :
    engine.OrderFree unit compilerDiagnostics diagnostics ↔
      Agree (isFixable engine.config (engine.catalog unit))
        ((engine.catalog unit).analyzers.map (·.reported unit session)) := by
  constructor
  · intro free one among other among' a first b first' same
    obtain ⟨analyzer, member, rfl⟩ := List.mem_map.mp among
    obtain ⟨analyzer', member', rfl⟩ := List.mem_map.mp among'
    obtain ⟨kept, collected, decides⟩ := free.decides stateless session member first
    obtain ⟨kept', collected', decides'⟩ := free.decides stateless session member' first'
    have alike := (List.perm_append_right_iff _).mp (collected.symm.trans collected')
    rw [Bool.eq_iff_iff, ← decides, ← decides', same, alike.mem_iff]
  · intro agree others permuted now
    obtain ⟨reordered, after, reran, collected⟩ :=
      exists_reordered stateless session permuted now compilerDiagnostics
    obtain ⟨own, _, first, collects⟩ :=
      exists_reordered stateless session (.refl engine.analyzers) session compilerDiagnostics
    cases ran.symm.trans first
    refine ⟨reordered, after, reran, sameFindings_iff.mpr ?_⟩
    refine collects.trans (.trans (.append_right _ ?_) collected.symm)
    exact agree.perm ((catalog_analyzers_perm permuted unit).symm.map _)

end

/-- Of the diagnostics to act on, a round collects those whose first report, in registration order,
is severe enough, and those that the compiler warns of too. So what it collects does not depend on
the order of the analyzers exactly if those agree, each by its first report of a finding, on what is
severe enough. -/
theorem fixable_collects (stateless : ∀ analyzer ∈ engine.analyzers,
      (analyzer.analyze unit).IsStateless)
    (session : Session σ) (compilerDiagnostics : List Diagnostic) :
    ∃ diagnostics last,
      engine.fixable unit (engine.catalog unit) compilerDiagnostics session =
        .ok diagnostics last ∧
      (∀ d ∈ (engine.catalog unit).reported unit session,
        isFixable engine.config (engine.catalog unit) d = true →
        (d.finding ∈ findings diagnostics ↔
          (∃ first, ((engine.catalog unit).reported unit session).find? d.same = some first ∧
              engine.config.minimumSeverity ≤ first.severity) ∨
            ∃ warning ∈ compilerDiagnostics,
              isFixableWarning engine.config (engine.catalog unit) warning = true ∧
                warning.finding = d.finding)) ∧
      (engine.OrderFree unit compilerDiagnostics diagnostics ↔
        Agree (isFixable engine.config (engine.catalog unit))
          ((engine.catalog unit).analyzers.map (·.reported unit session))) := by
  have able : ∀ analyzer ∈ (engine.catalog unit).analyzers, (analyzer.analyze unit).IsStateless :=
    fun analyzer member => stateless analyzer (engine.analyzers_catalog unit member)
  obtain ⟨last, ran⟩ := fixable_of_stateless engine able session session compilerDiagnostics
  refine ⟨_, last, ran, fun d _ fixable => mem_findings_chosen fixable, ?_⟩
  exact orderFree_iff stateless session ran

end Engine

namespace Whispering

/-! Two analyzers report the same letters, one of them below what counts. -/

def whisperer : Analyzer Unit :=
  { (Letters.analyzer 'a' : Analyzer Unit) with
    type := "Whisperer"
    analyze := fun unit => .answer
      (Letters.diagnostics { Letters.descriptor with severity := .hidden } .analyzer 'a' unit) }

def engine : Engine Unit where
  analyzers := [whisperer, Letters.analyzer 'a']
  fixers := [Letters.fixer (Letters.replacing 'q')]
  compiler := { type := "Silent", package := "plugins", compile := fun _ => .answer [] }
  formatter := Formatting.whitespace
  config := default
  passLimit := 4

def unit : SourceUnit := Letters.source ['a']

def catalog : Catalog Unit := engine.catalog unit

def session : Session Unit := Letters.session ['a']

/-- What the second analyzer reports. -/
def reported : Diagnostic :=
  Diagnostic.report Letters.descriptor (Location.ofSpan "a" ['a'] 0 1) "Replace it."

theorem stateless : ∀ analyzer ∈ engine.analyzers, (analyzer.analyze unit).IsStateless := by
  intro analyzer member
  rcases List.mem_cons.mp member with rfl | member
  · exact ⟨_, fun _ => ⟨rfl, rfl⟩⟩
  · obtain rfl := List.mem_singleton.mp member
    exact ⟨_, fun _ => ⟨rfl, rfl⟩⟩

/-- The first report is not severe enough, so another order of the analyzers makes a difference. -/
theorem fixable_collects_hidden :
    ∃ diagnostics last, engine.fixable unit catalog [] session = .ok diagnostics last ∧
      reported.finding ∉ Diagnostic.findings diagnostics ∧
      ¬ engine.OrderFree unit [] diagnostics := by
  obtain ⟨diagnostics, last, ran, keeps, free⟩ := Engine.fixable_collects stateless session []
  refine ⟨diagnostics, last, ran, ?_, ?_⟩
  · have hidden : ((catalog.reported unit session).find? reported.same).map (·.severity) =
        some .hidden := by decide +kernel
    rw [keeps reported (by decide +kernel) (by decide +kernel)]
    rintro (⟨first, found, severe⟩ | ⟨warning, member, -⟩)
    · rw [catalog, found] at hidden
      have quiet : first.severity = .hidden := Option.some.inj hidden
      rw [quiet] at severe
      exact absurd severe (by decide)
    · cases member
  · rw [free]
    decide +kernel

/-- What an analyzer reports severely enough is lost when another one, registered before it, reports
the same below that; it is found when they are registered the other way round. -/
theorem reported_but_lost :
    (∃ analyzer ∈ catalog.analyzers, reported ∈ analyzer.reported unit session) ∧
      Engine.isFixable engine.config catalog reported = true ∧
      (∃ last, engine.fixable unit catalog [] session = .ok [] last) ∧
      ∃ diagnostics last, (engine.withAnalyzers engine.analyzers.reverse).fixable unit
          ((engine.withAnalyzers engine.analyzers.reverse).catalog unit) [] session =
            .ok diagnostics last ∧ reported ∈ diagnostics := by
  have lost : Run.peek? (fun diagnostics _ => diagnostics)
      (engine.fixable unit catalog [] session) = some [] := by decide +kernel
  have found : Run.peek? (fun diagnostics _ => diagnostics)
      ((engine.withAnalyzers engine.analyzers.reverse).fixable unit
        ((engine.withAnalyzers engine.analyzers.reverse).catalog unit) [] session) =
          some [reported] := by decide +kernel
  refine ⟨⟨Letters.analyzer 'a', List.mem_filter.mpr ⟨by simp [engine], rfl⟩, ?_⟩, ?_, ?_, ?_⟩
  · decide +kernel
  · decide +kernel
  · obtain ⟨_, last, ran, rfl⟩ := Run.peek?_eq_some.mp lost
    exact ⟨last, ran⟩
  · obtain ⟨_, last, ran, rfl⟩ := Run.peek?_eq_some.mp found
    exact ⟨_, last, ran, List.mem_singleton_self _⟩

end Whispering

end FixLoop
