import FixLoop.Proofs.Rules.Rule
import FixLoop.Proofs.Session.Yielding

/-!
Keepers of rules. An analyzer that reports what breaks a rule and a fixer that offers the edits of
the rule keep it together. With such plugins, each for a rule of its own, it is known what a round
finds in a unit, what a pass over one rule finds, and which edits are chosen for a batch.
-/

namespace FixLoop

variable {σ : Type}

/-- An analyzer and a fixer that see to a lawful rule. -/
structure Keeper (σ : Type) where
  rule : Rule
  analyzer : Analyzer σ
  fixer : Fixer σ
  lawful : rule.Lawful
  severity : rule.descriptor.severity = .info
  declares : analyzer.descriptors = [rule.descriptor]
  analyzes : ∀ unit, analyzer.analyze unit = .answer (rule.diagnostics unit)
  fixableIds : fixer.fixableIds = [rule.id]
  able : fixer.canFixAll rule.id = true
  offers : ∀ unit : SourceUnit, unit.IsTidy → ∀ document ∈ unit.documents,
    ∀ span ∈ rule.spans document.text, fixer.offers (rule.report document span) unit =
      [.answer (some {
        title := rule.descriptor.title, key := rule.id, edits := [rule.edit document span] })]
  fixAll : fixer.fixAll = Offers.fixAll fixer.offers

namespace Keeper

def id (keeper : Keeper σ) : String := keeper.rule.id

/-- The plugins of some keepers. -/
def catalog (keepers : List (Keeper σ)) : Catalog σ where
  analyzers := keepers.map (·.analyzer)
  fixers := keepers.map (·.fixer)

/-- What keepers find in a unit. -/
def found (keepers : List (Keeper σ)) (unit : SourceUnit) : List Diagnostic :=
  Engine.collected (keepers.map (·.rule.diagnostics unit))

variable {keepers : List (Keeper σ)} {keeper : Keeper σ} {unit : SourceUnit}

theorem reports (keeper : Keeper σ) (id : String) :
    keeper.analyzer.reports id = (keeper.id == id) := by
  rw [Analyzer.reports, keeper.declares]
  exact Bool.or_false _

theorem id_of_mem {d : Diagnostic} (member : d ∈ keeper.rule.diagnostics unit) :
    d.id = keeper.id ∧ d.severity = .info := by
  obtain ⟨document, -, span, -, rfl⟩ := Rule.mem_diagnostics.mp member
  exact ⟨rfl, keeper.severity⟩

section

variable (distinct : (keepers.map (·.id)).Nodup) (member : keeper ∈ keepers)

include distinct member

theorem filter_id : keepers.filter (·.id == keeper.id) = [keeper] := by
  induction keepers with
  | nil => cases member
  | cons first rest ih =>
    obtain ⟨apart, distinct⟩ : first.id ∉ rest.map (·.id) ∧ (rest.map (·.id)).Nodup :=
      List.nodup_cons.mp distinct
    rw [List.filter_cons]
    rcases List.mem_cons.mp member with rfl | later
    · have none : rest.filter (·.id == keeper.id) = [] := by
        refine List.filter_eq_nil_iff.mpr fun other among same => apart ?_
        rw [← beq_iff_eq.mp same]
        exact List.mem_map_of_mem among
      rw [if_pos (beq_self_eq_true _), none]
    · have other : ¬ (first.id == keeper.id) = true := fun same =>
        apart (beq_iff_eq.mp same ▸ List.mem_map_of_mem later)
      rw [if_neg other]
      exact ih distinct later

theorem analyzersOf_catalog : (catalog keepers).analyzersOf keeper.id = [keeper.analyzer] := by
  unfold Catalog.analyzersOf catalog
  rw [List.filter_map]
  have own : (fun analyzer : Analyzer σ => analyzer.reports keeper.id) ∘ (·.analyzer) =
      fun other : Keeper σ => other.id == keeper.id := funext fun other => other.reports _
  rw [own, filter_id distinct member, List.map_singleton]

theorem fixersOf_catalog : (catalog keepers).fixersOf keeper.id = [keeper.fixer] := by
  unfold Catalog.fixersOf catalog
  rw [List.filter_map]
  have own : keepers.filter ((fun fixer : Fixer σ =>
      decide (keeper.id ∈ fixer.fixableIds) && fixer.canFixAll keeper.id) ∘ (·.fixer)) =
      keepers.filter (·.id == keeper.id) := by
    apply List.filter_congr
    intro other _
    dsimp only [Function.comp_apply]
    rw [other.fixableIds]
    by_cases same : other.id = keeper.id
    · have able : other.fixer.canFixAll keeper.id = true := same ▸ other.able
      have listed : keeper.id ∈ [other.rule.id] := List.mem_singleton.mpr same.symm
      rw [able, decide_eq_true listed, beq_iff_eq.mpr same]
      rfl
    · have unlisted : keeper.id ∉ [other.rule.id] := fun listed =>
        same (List.mem_singleton.mp listed).symm
      rw [decide_eq_false unlisted, beq_eq_false_iff_ne.mpr same]
      rfl
  rw [own, filter_id distinct member, List.map_singleton]

end

end Keeper

/-- Whether an engine acts on all that keepers of rules report, and its compiler only reports
errors for units of a language. -/
structure Engine.ActsOnAll (engine : Engine σ) (language : String) : Prop where
  compiles : ∀ unit, unit.language = language → ∃ reported,
    engine.compiler.compile unit = .answer reported ∧ ∀ d ∈ reported, d.severity = .error
  severity : engine.config.minimumSeverity = .info
  ignoredIds : engine.config.ignoredIds = []
  fixerOverrides : engine.config.fixerOverrides = []
  actionOverrides : engine.config.actionOverrides = []

namespace Keeper

open Run Diagnostic Engine

variable {engine : Engine σ} {keepers : List (Keeper σ)} {keeper : Keeper σ} {unit : SourceUnit}
  {language : String} {compilerDiagnostics batch : List Diagnostic}

theorem mem_found {d : Diagnostic} :
    d.finding ∈ findings (found keepers unit) ↔
      ∃ keeper ∈ keepers, ∃ own ∈ keeper.rule.diagnostics unit, own.finding = d.finding := by
  have permuted : (findings (found keepers unit)).Perm
      (findings (distinct (keepers.map (·.rule.diagnostics unit)).flatten)) :=
    (sorted_perm _).map _
  rw [permuted.mem_iff, mem_findings_distinct, mem_findings]
  simp only [List.mem_flatten, List.mem_map]
  grind

/-- The identifiers of what keepers find are those of the rules that are broken. -/
theorem mem_ids_found {id : String} : id ∈ (found keepers unit).map (·.id) ↔
    ∃ keeper ∈ keepers, keeper.id = id ∧ keeper.rule.diagnostics unit ≠ [] := by
  constructor
  · intro member
    obtain ⟨d, reported, rfl⟩ := List.mem_map.mp member
    have known : d.finding ∈ findings (found keepers unit) := mem_findings.mpr ⟨d, reported, rfl⟩
    obtain ⟨keeper, among, own, reported, same⟩ := mem_found.mp known
    have id : own.id = d.id := congrArg Prod.fst same
    exact ⟨keeper, among, (id_of_mem reported).1.symm.trans id, List.ne_nil_of_mem reported⟩
  · rintro ⟨keeper, among, rfl, broken⟩
    obtain ⟨own, reported⟩ := List.exists_mem_of_ne_nil _ broken
    obtain ⟨d, member, same⟩ := mem_findings.mp (mem_found.mpr ⟨keeper, among, own, reported, rfl⟩)
    have id : d.id = own.id := congrArg Prod.fst same
    exact List.mem_map.mpr ⟨d, member, id.trans (id_of_mem reported).1⟩

theorem found_eq_nil :
    found keepers unit = [] ↔ ∀ keeper ∈ keepers, keeper.rule.diagnostics unit = [] := by
  constructor
  · intro nothing keeper among
    by_contra broken
    have member := mem_ids_found.mpr ⟨keeper, among, rfl, broken⟩
    rw [nothing] at member
    cases member
  · intro clean
    by_contra some
    obtain ⟨d, member⟩ := List.exists_mem_of_ne_nil _ some
    obtain ⟨keeper, among, -, broken⟩ := mem_ids_found.mp (List.mem_map_of_mem member)
    exact broken (clean keeper among)

section

variable (acts : engine.ActsOnAll language) (distinct : (keepers.map (·.id)).Nodup)

include acts

/-- A round acts on all that keepers find. -/
theorem isFixable_of_found (distinct : (keepers.map (·.id)).Nodup) {d : Diagnostic}
    (member : d ∈ found keepers unit) :
    isFixable engine.config (catalog keepers) d = true := by
  have reported : d ∈ (keepers.map (·.rule.diagnostics unit)).flatten := by
    have kept := (sorted_perm _).mem_iff.mp member
    exact List.mem_of_find?_eq_some (mem_distinct.mp kept)
  obtain ⟨_, listed, reported⟩ := List.mem_flatten.mp reported
  obtain ⟨keeper, among, rfl⟩ := List.mem_map.mp listed
  obtain ⟨own, severity⟩ := id_of_mem reported
  have analyzed : (catalog keepers).hasAnalyzer d.id = true := by
    refine List.any_eq_true.mpr ⟨keeper.analyzer, List.mem_map_of_mem among, ?_⟩
    rw [own, keeper.reports, beq_self_eq_true]
  have fixed : (catalog keepers).hasFixer d.id = true := by
    rw [Catalog.hasFixer, own, fixersOf_catalog distinct among]
    rfl
  rw [isFixable, analyzed, fixed, Config.isSupported, acts.severity, acts.ignoredIds, severity]
  rfl

theorem fixable_yields (distinct : (keepers.map (·.id)).Nodup)
    (errors : ∀ d ∈ compilerDiagnostics, d.severity = .error) :
    (engine.fixable unit (catalog keepers) compilerDiagnostics).Yields (found keepers unit) := by
  have analyzed : (analyze unit (catalog keepers).analyzers).Yields (found keepers unit) :=
    analyze_yields fun keeper _ => keeper.analyzes unit
  have all : (found keepers unit).filter (isFixable engine.config (catalog keepers)) =
      found keepers unit :=
    List.filter_eq_self.mpr fun _ member => isFixable_of_found acts distinct member
  have none : compilerDiagnostics.filter (isFixableWarning engine.config (catalog keepers)) =
      [] := by
    refine List.filter_eq_nil_iff.mpr fun d member warned => ?_
    simp [isFixableWarning, errors d member] at warned
  refine analyzed.bind ?_
  rw [all, none, List.append_nil]
  exact (Yields.forM fun _ _ => .learn _).bind (.pure _)

theorem occurrences_yields (distinct : (keepers.map (·.id)).Nodup) (member : keeper ∈ keepers)
    (tidy : unit.IsTidy) :
    (engine.occurrences unit (catalog keepers) keeper.id compilerDiagnostics).Yields
      (sorted (keeper.rule.diagnostics unit)) := by
  have once : Engine.collected [keeper.rule.diagnostics unit] =
      sorted (keeper.rule.diagnostics unit) := by
    rw [Engine.collected, List.flatten_singleton,
      distinct_of_nodup (keeper.lawful.nodup_findings tidy.distinct)]
  have all : (sorted (keeper.rule.diagnostics unit)).filter (fun d =>
      d.id == keeper.id && engine.config.minimumSeverity ≤ d.severity) =
      sorted (keeper.rule.diagnostics unit) := by
    refine List.filter_eq_self.mpr fun d reported => ?_
    obtain ⟨own, severity⟩ := id_of_mem ((sorted_perm _).mem_iff.mp reported)
    rw [own, severity, acts.severity, beq_self_eq_true]
    rfl
  have analyzed : (analyze unit [keeper.analyzer]).Yields
      (sorted (keeper.rule.diagnostics unit)) := by
    rw [← once]
    have answers : ∀ own ∈ [keeper], own.analyzer.analyze unit =
        .answer (own.rule.diagnostics unit) := fun own _ => own.analyzes unit
    exact analyze_yields answers
  unfold Engine.occurrences
  rw [analyzersOf_catalog distinct member]
  refine analyzed.bind ?_
  dsimp only
  rw [all]
  exact .pure _

end

/-! ### The choice of an action -/

theorem demandTwo_yields (fixer : Fixer σ) (action : FixAction) :
    (Selection.demandTwo fixer [.answer (some action)]).Yields (.clear action) := by
  have first : (Selection.demand fixer [.answer (some action)]).Yields (some action) :=
    (Yields.note _).bind (.call_answer _)
  have second : (Selection.demand fixer []).Yields none := (Yields.note _).bind (.pure _)
  exact first.bind (second.bind (.pure _))

theorem makes (tidy : unit.IsTidy) (among : batch ⊆ keeper.rule.diagnostics unit) {d : Diagnostic}
    (member : d ∈ batch) :
    Offers.Makes keeper.fixer.offers
      { unit, id := keeper.id, key := keeper.id, diagnostics := batch }
      (keeper.rule.editFor unit) d := by
  obtain ⟨document, present, span, broken, rfl⟩ := Rule.mem_diagnostics.mp (among member)
  rw [Offers.Makes, Rule.editFor_report tidy.distinct present]
  exact ⟨rfl, _, keeper.offers unit tidy document present span broken⟩

theorem representative_yields (tidy : unit.IsTidy) (nonempty : batch ≠ [])
    (among : batch ⊆ keeper.rule.diagnostics unit) :
    ∃ action : FixAction, action.key = keeper.id ∧
      (Selection.representative keeper.fixer none keeper.id unit batch []).Yields
        (some action) := by
  obtain ⟨d, rest, rfl⟩ := List.exists_cons_of_ne_nil nonempty
  obtain ⟨document, present, span, broken, rfl⟩ :=
    Rule.mem_diagnostics.mp (among List.mem_cons_self)
  have relevant :
      Selection.isRelevant keeper.id unit (keeper.rule.report document span) = true := by
    have found : unit.document? (keeper.rule.report document span).location.path = some document :=
      SourceUnit.document?_of_mem tidy.distinct present
    rw [Selection.isRelevant, found]
    exact Bool.and_true _ ▸ beq_self_eq_true _
  refine ⟨⟨keeper.rule.descriptor.title, keeper.id, [keeper.rule.edit document span]⟩, rfl, ?_⟩
  unfold Selection.representative Selection.consult
  rw [if_pos relevant, keeper.offers unit tidy document present span broken]
  exact ((Yields.note _).bind (demandTwo_yields _ _)).bind (.pure _)

/-- For a batch of what breaks a rule, an action is chosen that makes the accepted edits. -/
theorem choice_yields (acts : engine.ActsOnAll language) (distinct : (keepers.map (·.id)).Nodup)
    (member : keeper ∈ keepers) (tidy : unit.IsTidy) (nonempty : batch ≠ [])
    (among : batch ⊆ keeper.rule.diagnostics unit) :
    ∃ action : FixAction, action.edits ≠ [] ∧
      TextEdit.Accepted (batch.map (keeper.rule.editFor unit)) action.edits ∧
      (engine.choice unit (catalog keepers) keeper.id batch).Yields (.ok (some action)) := by
  let context : FixAllContext := { unit, id := keeper.id, key := keeper.id, diagnostics := batch }
  have each : ∀ d ∈ context.diagnostics,
      Offers.Makes keeper.fixer.offers context (keeper.rule.editFor unit) d :=
    fun d member => makes tidy among member
  have filled : context.diagnostics ≠ [] := nonempty
  obtain ⟨action, edits, accepts, answers⟩ := Offers.fixAll_of_makes filled each
  obtain ⟨first, key, represents⟩ := representative_yields tidy nonempty among
  refine ⟨action, edits, accepts, ?_⟩
  have chooses : (Selection.choose engine.config keeper.id batch unit [keeper.fixer] none).Yields
      (some (keeper.fixer, first)) := by
    unfold Selection.choose
    rw [acts.fixerOverrides, acts.actionOverrides]
    have eligible : Selection.isEligible none keeper.id keeper.fixer = true := by
      rw [Selection.isEligible, Keeper.id, keeper.able]
      rfl
    refine Yields.checkCancelled.bind ?_
    dsimp only
    rw [List.lookup_nil, if_pos eligible]
    exact represents.bind (.pure _)
  have selects : (Selection.select engine.config keeper.id batch [keeper.fixer] unit).Yields
      (some action) := by
    refine (Yields.note _).bind (chooses.bind ?_)
    dsimp only
    rw [key, keeper.fixAll]
    exact (Yields.note _).bind ((Yields.call answers).bind (.pure _))
  have selected : (engine.selectFix unit (catalog keepers) keeper.id batch).Yields
      (.ok (some action)) := by
    intro workspace session stands
    obtain ⟨last, ran, still⟩ := selects workspace session stands
    refine ⟨last, ?_, still⟩
    rw [selectFix, fixersOf_catalog distinct member, ran]
  exact (Yields.note _).bind ((Yields.forM fun _ _ => .note _).bind selected)

end Keeper

end FixLoop
