import FixLoop.Proofs.Session.Collecting
import Mathlib

/-!
Analyzers in any order. What they report together is the same whether they run one after another or
at once, in whatever order they complete. Reports are ordered without regard to lines and columns;
so the order in which analyzers are registered may matter, but not if those follow from the spans.
-/

namespace FixLoop

variable {σ : Type}

namespace Diagnostic

variable {a b d : Diagnostic} {texts : String → Text}
  {reported others : List Diagnostic}

/-- Whether the line and the column of a diagnostic are those of its span in a text, of which there
is one for each path. -/
def IsPlaced (texts : String → Text) (d : Diagnostic) : Prop :=
  d.location = Location.ofSpan d.location.path (texts d.location.path) d.location.start
    d.location.stop

/-- Findings that the order does not tell apart are the same, if they are placed by one text. -/
theorem finding_eq_of_order (placed : a.IsPlaced texts) (placed' : b.IsPlaced texts)
    (same : order a b = .eq) : a.finding = b.finding := by
  simp only [order, Ordering.then_eq_eq, Std.compare_eq_iff_eq] at same
  obtain ⟨path, start, stop, id, message⟩ := same
  have location : a.location = b.location := by
    rw [placed, placed', path, start, stop]
  rw [finding, finding, id, location, message]

/-- A diagnostic that is nothing but a finding. -/
def ofFinding (finding : String × Location × String) : Diagnostic where
  id := finding.1
  location := finding.2.1
  message := finding.2.2

theorem pairwise_findings_sorted (diagnostics : List Diagnostic) :
    (findings (sorted diagnostics)).Pairwise fun f g =>
      (order (ofFinding f) (ofFinding g)).isLE = true :=
  List.pairwise_map.mpr (pairwise_sorted diagnostics)

/-- Of the same findings there is only one list in report order. -/
theorem findings_sorted_congr (placed : ∀ d ∈ reported, d.IsPlaced texts)
    (placed' : ∀ d ∈ others, d.IsPlaced texts) (same : (findings reported).Perm (findings others)) :
    findings (sorted reported) = findings (sorted others) := by
  refine List.Perm.eq_of_pairwise (fun f g member member' below above => ?_)
    (pairwise_findings_sorted reported) (pairwise_findings_sorted others)
    (((sorted_perm _).map _).trans (same.trans ((sorted_perm _).map _).symm))
  obtain ⟨a, among, rfl⟩ := mem_findings.mp member
  obtain ⟨b, among', rfl⟩ := mem_findings.mp member'
  exact finding_eq_of_order (placed a ((sorted_perm _).mem_iff.mp among))
    (placed' b ((sorted_perm _).mem_iff.mp among')) (Std.OrientedCmp.isLE_antisymm below above)

theorem mem_of_mem_distinct (member : d ∈ distinct reported) : d ∈ reported :=
  List.mem_of_find?_eq_some (mem_distinct.mp member)

/-- The order of batches does not matter for what is collected of them. -/
theorem findings_distinct_perm (permuted : reported.Perm others) :
    (findings (distinct reported)).Perm (findings (distinct others)) := by
  refine (List.perm_ext_iff_of_nodup (nodup_findings_distinct _) (nodup_findings_distinct _)).mpr
    fun finding => ?_
  rw [mem_findings_distinct, mem_findings_distinct]
  exact (permuted.map _).mem_iff

end Diagnostic

/-- Only an analyzer that does not fail reports anything. -/
theorem Analyzer.exists_answer {analyzer : Analyzer σ} {unit : SourceUnit} {asked : Session σ}
    {finding : String × Location × String}
    (member : finding ∈ Diagnostic.findings (analyzer.reported unit asked)) :
    ∃ reported, ((analyzer.analyze unit).carryOut asked).1 = .ok reported ∧
      analyzer.reported unit asked = reported := by
  unfold Analyzer.reported at member ⊢
  cases answered : ((analyzer.analyze unit).carryOut asked).1 with
  | ok reported => exact ⟨reported, rfl, rfl⟩
  | error failure =>
    rw [answered] at member
    cases member

namespace Engine

open Run Diagnostic

variable {unit : SourceUnit} {analyzers : List (Analyzer σ)} {completion : List Nat}

/-- Whether analyzers report certain diagnostics together, one after another as well as at once, in
whatever order they complete, and in every session. -/
structure AlwaysReports (unit : SourceUnit) (analyzers : List (Analyzer σ))
    (diagnostics : List Diagnostic) : Prop where
  sequentially : ∀ session, ∃ last, analyze unit analyzers session = .ok diagnostics last
  completing : ∀ completion : List Nat, completion.Perm (List.range analyzers.length) →
    ∀ session, ∃ last,
      analyzeCompleting unit analyzers completion session = .ok diagnostics last

/-- What the analyzers at some places report, with those places. -/
def reports (unit : SourceUnit) (analyzers : List (Analyzer σ)) (asked : Session σ)
    (places : List Nat) : List (Nat × List Diagnostic) :=
  places.filterMap fun place =>
    analyzers[place]?.map fun analyzer => (place, analyzer.reported unit asked)

theorem runCompleting_of_stateless
    (stateless : ∀ analyzer ∈ analyzers, (analyzer.analyze unit).IsStateless)
    (completion : List Nat) (asked session : Session σ) :
    ∃ last, runCompleting unit analyzers completion session =
      .ok (reports unit analyzers asked completion) last := by
  induction completion generalizing session with
  | nil => exact ⟨session, rfl⟩
  | cons place rest ih =>
    unfold runCompleting reports
    rw [List.filterMap_cons]
    cases found : analyzers[place]? with
    | none => exact ih session
    | some analyzer =>
      obtain ⟨middle, first⟩ :=
        runAnalyzer_of_stateless (stateless analyzer (List.mem_of_getElem? found)) asked session
      obtain ⟨last, others⟩ := ih middle
      exact ⟨last, bind_eq_ok.mpr ⟨_, middle, first, bind_of_ok others⟩⟩

theorem lookup_reports {analyzer : Analyzer σ} {place : Nat} (asked : Session σ)
    (found : analyzers[place]? = some analyzer) (completes : place ∈ completion) :
    (reports unit analyzers asked completion).lookup place =
      some (analyzer.reported unit asked) := by
  induction completion with
  | nil => cases completes
  | cons first rest ih =>
    unfold reports
    rw [List.filterMap_cons]
    by_cases same : place = first
    · subst same
      rw [found]
      exact List.lookup_cons_self
    · have later := ih ((List.mem_cons.mp completes).resolve_left same)
      cases analyzers[first]? with
      | none => exact later
      | some other =>
        rw [Option.map_some, List.lookup_cons, beq_eq_false_iff_ne.mpr same]
        exact later

/-- In which order analyzers complete does not matter. -/
theorem lookup_range (asked : Session σ)
    (completes : completion.Perm (List.range analyzers.length)) :
    ((List.range analyzers.length).map fun place =>
        ((reports unit analyzers asked completion).lookup place).getD []) =
      analyzers.map (·.reported unit asked) := by
  refine List.ext_getElem (by simp) fun place inside inside' => ?_
  rw [List.length_map] at inside'
  have member : place ∈ completion := completes.mem_iff.mpr (List.mem_range.mpr inside')
  have found := List.getElem?_eq_getElem inside'
  rw [List.getElem_map, List.getElem_map, List.getElem_range, lookup_reports asked found member]
  rfl

theorem alwaysReports_of_stateless
    (stateless : ∀ analyzer ∈ analyzers, (analyzer.analyze unit).IsStateless)
    (asked : Session σ) :
    AlwaysReports unit analyzers (collected (analyzers.map (·.reported unit asked))) where
  sequentially := analyze_of_stateless stateless asked
  completing completion completes session := by
    obtain ⟨last, ran⟩ := runCompleting_of_stateless stateless completion asked session
    rw [← lookup_range asked completes]
    exact ⟨last, bind_of_ok ran⟩

theorem mem_findings_collected {batches : List (List Diagnostic)}
    {finding : String × Location × String} :
    finding ∈ findings (collected batches) ↔ ∃ batch ∈ batches, finding ∈ findings batch := by
  have sorts : (findings (collected batches)).Perm (findings (distinct batches.flatten)) :=
    (sorted_perm _).map _
  rw [sorts.mem_iff, mem_findings_distinct]
  simp only [mem_findings, List.mem_flatten]
  constructor
  · exact fun ⟨d, ⟨batch, among, member⟩, same⟩ => ⟨batch, among, d, member, same⟩
  · exact fun ⟨batch, among, d, member, same⟩ => ⟨d, ⟨batch, among, member⟩, same⟩

theorem findings_collected_perm {batches reordered : List (List Diagnostic)}
    {texts : String → Text} (placed : ∀ batch ∈ batches, ∀ d ∈ batch, d.IsPlaced texts)
    (permuted : reordered.Perm batches) :
    findings (collected reordered) = findings (collected batches) := by
  have flat := permuted.flatten
  have each : ∀ d ∈ distinct batches.flatten, d.IsPlaced texts := fun d member => by
    obtain ⟨batch, among, member⟩ := List.mem_flatten.mp (mem_of_mem_distinct member)
    exact placed batch among d member
  have each' : ∀ d ∈ distinct reordered.flatten, d.IsPlaced texts := fun d member => by
    obtain ⟨batch, among, member⟩ := List.mem_flatten.mp (mem_of_mem_distinct member)
    exact placed batch (permuted.mem_iff.mp among) d member
  exact findings_sorted_congr each' each (findings_distinct_perm flat)

/-- Where two reports disagree about the column of a span, the first one stays first. -/
example :
    let here := Diagnostic.report Letters.descriptor ⟨"a", 0, 1, 1, 1⟩ ""
    let there := Diagnostic.report Letters.descriptor ⟨"a", 0, 1, 1, 2⟩ ""
    collected [[here], [there]] = [here, there] ∧ collected [[there], [here]] = [there, here] :=
  ⟨by cbv, by cbv⟩

/-- Analyzers that depend on nothing but the unit, some of which may fail, report one and the same
list however they are run: in report order, each finding of those that do not fail once. If lines
and columns are those of the text, they report these findings in any order of registration. -/
theorem analyze_agrees
    (stateless : ∀ analyzer ∈ analyzers, (analyzer.analyze unit).IsStateless)
    (asked : Session σ) :
    ∃ diagnostics, AlwaysReports unit analyzers diagnostics ∧
      (diagnostics.Pairwise fun a b => (order a b).isLE = true) ∧
      (findings diagnostics).Nodup ∧
      (∀ finding, finding ∈ findings diagnostics ↔
        ∃ analyzer ∈ analyzers, ∃ reported,
          ((analyzer.analyze unit).carryOut asked).1 = .ok reported ∧
            finding ∈ findings reported) ∧
      ∀ texts : String → Text,
        (∀ analyzer ∈ analyzers, ∀ reported,
          ((analyzer.analyze unit).carryOut asked).1 = .ok reported →
            ∀ d ∈ reported, d.IsPlaced texts) →
        ∀ others : List (Analyzer σ), others.Perm analyzers →
          ∃ reordered, AlwaysReports unit others reordered ∧
            findings reordered = findings diagnostics := by
  refine ⟨_, alwaysReports_of_stateless stateless asked, pairwise_sorted _, ?_,
    fun finding => ?_, ?_⟩
  · exact ((sorted_perm _).map finding).nodup_iff.mpr (nodup_findings_distinct _)
  · rw [mem_findings_collected]
    constructor
    · rintro ⟨_, among, member⟩
      obtain ⟨analyzer, own, rfl⟩ := List.mem_map.mp among
      obtain ⟨reported, answered, same⟩ := Analyzer.exists_answer member
      exact ⟨analyzer, own, reported, answered, same ▸ member⟩
    · rintro ⟨analyzer, own, reported, answered, member⟩
      refine ⟨_, List.mem_map_of_mem own, ?_⟩
      rwa [Analyzer.reported, answered]
  · intro texts placed others permuted
    have stateless' : ∀ analyzer ∈ others, (analyzer.analyze unit).IsStateless :=
      fun analyzer member => stateless analyzer (permuted.mem_iff.mp member)
    have each : ∀ batch ∈ analyzers.map (·.reported unit asked), ∀ d ∈ batch,
        d.IsPlaced texts := by
      intro batch among d member
      obtain ⟨analyzer, own, rfl⟩ := List.mem_map.mp among
      obtain ⟨reported, answered, same⟩ := Analyzer.exists_answer (List.mem_map_of_mem member)
      exact placed analyzer own reported answered d (same ▸ member)
    exact ⟨_, alwaysReports_of_stateless stateless' asked,
      findings_collected_perm each (permuted.map _)⟩

end Engine

namespace Whispering

/-- An analyzer that fails. -/
def breaking : Analyzer Unit :=
  { (Letters.analyzer 'b' : Analyzer Unit) with
    type := "Breaker"
    analyze := fun _ => .fail (.raised "nothing to see") }

def overheard : Text := "b\na b\n a".toList

def overhearing : List (Analyzer Unit) := [whisperer, breaking, Letters.analyzer 'a']

/-- What counts of the letters is what is reported first; but the letters are the same. -/
theorem analyze_agrees_overhearing :
    ∃ diagnostics reordered,
      Engine.AlwaysReports (Letters.source overheard) overhearing diagnostics ∧
      diagnostics.map (·.severity) = [.hidden, .hidden] ∧
      Engine.AlwaysReports (Letters.source overheard) overhearing.reverse reordered ∧
      reordered.map (·.severity) = [.info, .info] ∧
      Diagnostic.findings reordered = Diagnostic.findings diagnostics := by
  let unit := Letters.source overheard
  have stateless : ∀ analyzer ∈ overhearing, (analyzer.analyze unit).IsStateless := by
    intro analyzer member
    simp only [overhearing, List.mem_cons, List.not_mem_nil, or_false] at member
    rcases member with rfl | rfl | rfl <;> exact ⟨_, fun _ => ⟨rfl, rfl⟩⟩
  have placed : ∀ analyzer ∈ overhearing, ∀ reported,
      ((analyzer.analyze unit).carryOut session).1 = .ok reported →
        ∀ d ∈ reported, d.IsPlaced fun _ => overheard := by
    intro analyzer member reported answered
    simp only [overhearing, List.mem_cons, List.not_mem_nil, or_false] at member
    rcases member with rfl | rfl | rfl <;> cases answered <;> unfold Diagnostic.IsPlaced <;>
      decide +kernel
  obtain ⟨diagnostics, yields, -, -, -, free⟩ := Engine.analyze_agrees stateless session
  obtain ⟨reordered, yields', same⟩ := free _ placed _ (List.reverse_perm overhearing)
  have severities {analyzers : List (Analyzer Unit)} {reported : List Diagnostic}
      (yields : Engine.AlwaysReports unit analyzers reported) :
      Run.peek? (fun found _ => found.map (·.severity)) (Engine.analyze unit analyzers session) =
        some (reported.map (·.severity)) := by
    obtain ⟨last, ran⟩ := yields.sequentially session
    rw [ran, Run.peek?]
  have quiet : some (diagnostics.map (·.severity)) = some [.hidden, .hidden] :=
    (severities yields).symm.trans (by cbv)
  have loud : some (reordered.map (·.severity)) = some [.info, .info] :=
    (severities yields').symm.trans (by cbv)
  exact ⟨diagnostics, reordered, yields, Option.some.inj quiet, yields', Option.some.inj loud, same⟩

end Whispering

end FixLoop
