import FixLoop.Proofs.Rules.EmbeddedStatement
import FixLoop.Proofs.Rules.FinalNewline
import FixLoop.Proofs.Rules.TabIndentation
import FixLoop.Proofs.Rules.TrailingWhitespace
import FixLoop.Rules.Builtin

/-!
Fixes that land. For a batch of what a built-in analyzer reports, the fixer of the same rule answers
with edits that land in the snapshot they were computed from, and change its texts as the rule says.
All this takes is that no two documents of the unit have one path.
-/

namespace FixLoop

variable {σ : Type}

namespace Keeper

/-- Whether a keeper offers its edits in every unit whose documents can be told apart, and whether
those that are accepted land. -/
structure IsFirm (keeper : Keeper σ) : Prop where
  lands : keeper.rule.Lands
  offers : ∀ {unit : SourceUnit}, unit.paths.Nodup → ∀ {document}, document ∈ unit.documents →
    ∀ {span}, span ∈ keeper.rule.spans document.text →
      keeper.fixer.offers (keeper.rule.report document span) unit =
        [.answer (some {
          title := keeper.rule.descriptor.title, key := keeper.rule.id
          edits := [keeper.rule.edit document span] })]

namespace IsFirm

variable {keeper : Keeper σ} {context : FixAllContext}

/-- A batch is fixed by edits that land, and that change each text as the rule says. -/
theorem exists_action (firm : keeper.IsFirm) (distinct : context.unit.paths.Nodup)
    (found : context.diagnostics ≠ [])
    (among : context.diagnostics ⊆ keeper.rule.diagnostics context.unit)
    (id : context.id = keeper.id) (key : context.key = keeper.id) :
    ∃ action : FixAction,
      (∀ session : Session σ, ∃ journal, (keeper.fixer.fixAll context).carryOut session =
        (.ok (some action), { session with journal })) ∧
      ∃ next, context.unit.withEdits action.edits = .ok next ∧
        context.unit.Rewritten keeper.rule.mends next := by
  have each : ∀ d ∈ context.diagnostics,
      Offers.Makes keeper.fixer.offers context (keeper.rule.editFor context.unit) d := by
    intro d member
    obtain ⟨document, present, span, broken, rfl⟩ := Rule.mem_diagnostics.mp (among member)
    rw [Offers.Makes, Rule.editFor_report distinct present, id, key]
    exact ⟨rfl, _, firm.offers distinct present broken⟩
  obtain ⟨action, -, accepts, answers⟩ := Offers.fixAll_of_makes found each
  exact ⟨action, fun session => keeper.fixAll ▸ answers session,
    Rule.Lands.withEdits firm.lands keeper.lawful distinct among accepts⟩

/-- For another key than that of the rule nothing is offered. -/
theorem no_action (firm : keeper.IsFirm) (distinct : context.unit.paths.Nodup)
    (among : context.diagnostics ⊆ keeper.rule.diagnostics context.unit)
    (key : context.key ≠ keeper.id) : keeper.fixer.fixAll context = .answer none := by
  rw [keeper.fixAll]
  refine Offers.fixAll_of_strange fun d member => ?_
  obtain ⟨document, present, span, broken, rfl⟩ := Rule.mem_diagnostics.mp (among member)
  exact ⟨_, firm.offers distinct present broken, key.symm⟩

end IsFirm

end Keeper

namespace Builtin

/-- The keepers that the built-in plugins are, in registration order. -/
def keepers (σ : Type) : List (Keeper σ) :=
  [EmbeddedStatement.keeper, TrailingWhitespace.keeper, FinalNewline.keeper, TabIndentation.keeper]

theorem analyzers_eq : (analyzers : List (Analyzer σ)) = (keepers σ).map (·.analyzer) := rfl

theorem fixers_eq : (fixers : List (Fixer σ)) = (keepers σ).map (·.fixer) := rfl

theorem isFirm_keepers : ∀ keeper ∈ keepers σ, keeper.IsFirm := by
  intro keeper member
  simp only [keepers, List.mem_cons, List.not_mem_nil, or_false] at member
  rcases member with rfl | rfl | rfl | rfl
  · exact ⟨EmbeddedStatement.lands, fun distinct _ member _ broken =>
      EmbeddedStatement.offers_report distinct member broken⟩
  · exact ⟨TrailingWhitespace.runs.lands _, fun _ _ _ _ _ => rfl⟩
  · exact ⟨FinalNewline.lands, fun distinct _ member _ broken =>
      FinalNewline.offers_report distinct member broken⟩
  · exact ⟨TabIndentation.runs.lands _, fun distinct _ member _ broken =>
      TabIndentation.offers_report distinct member broken⟩

end Builtin

end FixLoop
