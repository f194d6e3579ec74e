import FixLoop.Proofs.Plugin.Builtin
import FixLoop.Proofs.Rules.Fixing
import FixLoop.Proofs.Rules.Landing
import FixLoop.Proofs.Session.Handing
import FixLoop.Proofs.Session.Scope

/-!
Plugins that stand for others. Such a plugin answers as the other one does, or gives up, and leaves
the workspace alone; but it may request cancellation whenever it is called. So what holds with all
plugins that stand for the built-in ones holds wherever a run is cancelled.
-/

namespace FixLoop

variable {σ α β : Type}

/-- Whether a callback leaves the workspace alone and, unless it gives up, answers what another one
answers in whatever session. -/
structure Callback.StandsFor (callback model : Callback σ α) : Prop where
  leaves : callback.LeavesWorkspace
  agrees : ∀ session other answer, (callback.carryOut session).1 = .ok answer →
    (model.carryOut other).1 = .ok answer

structure Analyzer.StandsFor (analyzer model : Analyzer σ) : Prop where
  plugin : analyzer.toPlugin = model.toPlugin
  descriptors : analyzer.descriptors = model.descriptors
  analyze : ∀ unit, (analyzer.analyze unit).StandsFor (model.analyze unit)

structure Fixer.StandsFor (fixer model : Fixer σ) : Prop where
  plugin : fixer.toPlugin = model.toPlugin
  fixableIds : fixer.fixableIds = model.fixableIds
  canFixAll : fixer.canFixAll = model.canFixAll
  offers : ∀ diagnostic unit, List.Forall₂ Callback.StandsFor (fixer.offers diagnostic unit)
    (model.offers diagnostic unit)
  fixAll : ∀ context, (fixer.fixAll context).StandsFor (model.fixAll context)

structure Formatter.StandsFor (formatter model : Formatter σ) : Prop where
  plugin : formatter.toPlugin = model.toPlugin
  format : ∀ unit document, (formatter.format unit document).StandsFor (model.format unit document)

/-- Whether the plugins of an engine, apart from the compiler, stand for the built-in ones. -/
structure Engine.StandsForBuiltin (engine : Engine σ) : Prop where
  analyzers : List.Forall₂ Analyzer.StandsFor engine.analyzers Builtin.analyzers
  fixers : List.Forall₂ Fixer.StandsFor engine.fixers Builtin.fixers
  formatter : engine.formatter.StandsFor Formatting.whitespace

namespace Callback.StandsFor

variable {callback model : Callback σ α} {next then_ : α → Callback σ β}

theorem answer (value : α) : (Callback.answer value : Callback σ α).StandsFor (.answer value) where
  leaves _ := rfl
  agrees _ _ _ answered := answered

/-- A callback that answers the same in every session stands for itself. -/
theorem of_isStateless (stateless : callback.IsStateless) : callback.StandsFor callback := by
  obtain ⟨answer, answers⟩ := stateless
  exact ⟨fun session => (answers session).2, fun session other _ answered =>
    ((answers other).1.trans (answers session).1.symm).trans answered⟩

theorem andThen (first : callback.StandsFor model)
    (rest : ∀ value, (next value).StandsFor (then_ value)) :
    (callback.andThen next).StandsFor (model.andThen then_) where
  leaves := LeavesWorkspace.closed.andThen _ _ _ _ first.leaves fun value => (rest value).leaves
  agrees session other answer answered := by
    rw [carryOut_andThen] at answered ⊢
    cases ran : callback.carryOut session with
    | mk value middle =>
      rw [ran] at answered
      cases value with
      | error failure => cases answered
      | ok value =>
        have same := first.agrees session other value (by rw [ran])
        cases modelled : model.carryOut other with
        | mk given after =>
          rw [modelled] at same
          subst same
          exact (rest value).agrees middle after answer answered

end Callback.StandsFor

namespace Formatter.StandsFor

variable {formatter model : Formatter σ}

theorem edits (stands : formatter.StandsFor model) (unit : SourceUnit) :
    (Formatting.edits formatter unit).StandsFor (Formatting.edits model unit) := by
  unfold Formatting.edits
  rw [stands.plugin]
  split
  · induction unit.documents with
    | nil => exact .answer _
    | cons document rest ih =>
      unfold Formatting.documentEdits
      split
      · exact ih
      · refine (stands.format unit document).andThen fun text => ih.andThen fun more => ?_
        split <;> exact .answer _
  · exact .answer _

end Formatter.StandsFor

namespace Engine.StandsForBuiltin

variable {engine : Engine σ} {keeper : Keeper σ} {unit seen : SourceUnit}

/-- The built-in plugins stand for themselves. -/
theorem of_builtin (analyzers : engine.analyzers = Builtin.analyzers)
    (fixers : engine.fixers = Builtin.fixers)
    (formatter : engine.formatter = Formatting.whitespace) :
    engine.StandsForBuiltin where
  analyzers := by
    rw [analyzers, List.forall₂_same]
    exact fun analyzer member => ⟨rfl, rfl, fun unit =>
      .of_isStateless (Builtin.analyze_isPure member unit).isStateless⟩
  fixers := by
    rw [fixers, List.forall₂_same]
    refine fun fixer member => ⟨rfl, rfl, rfl, fun diagnostic unit => ?_, fun context =>
      .of_isStateless (Builtin.fixAll_isStateless member context)⟩
    exact List.forall₂_same.mpr fun candidate offered =>
      .of_isStateless (Builtin.offers_isPure member diagnostic unit candidate offered).isStateless
  formatter := by
    rw [formatter]
    exact ⟨rfl, fun _ _ => .answer _⟩

theorem exists_analyzer (plugins : engine.StandsForBuiltin) {analyzer : Analyzer σ}
    (member : analyzer ∈ engine.analyzers) :
    ∃ keeper ∈ Builtin.keepers σ, analyzer.StandsFor keeper.analyzer := by
  have all := plugins.analyzers
  rw [Builtin.analyzers_eq, List.forall₂_map_right_iff] at all
  exact exists_of_forall₂ all.flip member

theorem exists_fixer (plugins : engine.StandsForBuiltin) {fixer : Fixer σ}
    (member : fixer ∈ engine.fixers) :
    ∃ keeper ∈ Builtin.keepers σ, fixer.StandsFor keeper.fixer := by
  have all := plugins.fixers
  rw [Builtin.fixers_eq, List.forall₂_map_right_iff] at all
  exact exists_of_forall₂ all.flip member

/-- What the fixer of a rule applies to, its analyzer has reported. -/
theorem analyzersOf_ne_nil (plugins : engine.StandsForBuiltin) (member : keeper ∈ Builtin.keepers σ)
    (supports : keeper.fixer.supports unit.language = true) :
    (engine.catalog unit).analyzersOf keeper.id ≠ [] := by
  have all := plugins.analyzers
  rw [Builtin.analyzers_eq, List.forall₂_map_right_iff] at all
  obtain ⟨analyzer, among, stands⟩ := exists_of_forall₂ all member
  have own : keeper.analyzer.toPlugin.languages = keeper.fixer.toPlugin.languages := by
    simp only [Builtin.keepers, List.mem_cons, List.not_mem_nil, or_false] at member
    rcases member with rfl | rfl | rfl | rfl <;> rfl
  have applies : analyzer.supports unit.language = true := by
    rw [stands.plugin, Plugin.supports, own]
    exact supports
  have reports : analyzer.reports keeper.id = true := by
    rw [Analyzer.reports, stands.descriptors]
    exact (keeper.reports keeper.id).trans (beq_self_eq_true _)
  exact List.ne_nil_of_mem (List.mem_filter.mpr ⟨List.mem_filter.mpr ⟨among, applies⟩, reports⟩)

/-- What can be reported for the identifier of a rule breaks the rule. -/
theorem mem_diagnostics (plugins : engine.StandsForBuiltin) (member : keeper ∈ Builtin.keepers σ)
    {analyzer : Analyzer σ} (among : analyzer ∈ (engine.catalog unit).analyzersOf keeper.id)
    {d : Diagnostic} (reported : analyzer.CanReport seen d) : d ∈ keeper.rule.diagnostics seen := by
  obtain ⟨listed, reports⟩ := List.mem_filter.mp among
  obtain ⟨other, present, stands⟩ := plugins.exists_analyzer (engine.analyzers_catalog unit listed)
  rw [Analyzer.reports, stands.descriptors] at reports
  have same : other.id = keeper.id := beq_iff_eq.mp ((other.reports keeper.id).symm.trans reports)
  obtain rfl : other = keeper :=
    List.inj_on_of_nodup_map (Builtin.distinct_keepers σ) present member same
  obtain ⟨session, diagnostics, last, answered, found⟩ := reported
  have agreed := (stands.analyze seen).agrees session session diagnostics (by rw [answered])
  rw [other.analyzes] at agreed
  cases agreed
  exact found

end Engine.StandsForBuiltin

end FixLoop
