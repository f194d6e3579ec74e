import FixLoop.Formatting
import FixLoop.Proofs.Session.Stateless
import FixLoop.Proofs.Session.Totality
import FixLoop.Rules.Builtin
import FixLoop.Rules.Compilers

/-!
What the built-in plugins keep to. Each candidate of a built-in fixer is computed from the
diagnostic and the snapshot alone, and so is each report, so all of them are stateless.
-/

namespace FixLoop

variable {σ α : Type}

theorem Callback.IsPure.isStateless {callback : Callback σ α} (pure : callback.IsPure) :
    callback.IsStateless := by
  cases callback with
  | answer value => exact ⟨.ok value, fun _ => ⟨rfl, rfl⟩⟩
  | fail failure => exact ⟨.error failure, fun _ => ⟨rfl, rfl⟩⟩
  | _ => exact False.elim pure

namespace Builtin

theorem analyze_isPure {analyzer : Analyzer σ} (member : analyzer ∈ analyzers) (unit : SourceUnit) :
    (analyzer.analyze unit).IsPure := by
  simp only [analyzers, List.mem_cons, List.not_mem_nil, or_false] at member
  rcases member with rfl | rfl | rfl | rfl <;> exact trivial

theorem offers_isPure {fixer : Fixer σ} (member : fixer ∈ fixers) (diagnostic : Diagnostic)
    (unit : SourceUnit) : ∀ candidate ∈ fixer.offers diagnostic unit, candidate.IsPure := by
  intro candidate offered
  simp only [fixers, List.mem_cons, List.not_mem_nil, or_false] at member
  rcases member with rfl | rfl | rfl | rfl
  · change candidate ∈ EmbeddedStatement.offers diagnostic unit at offered
    unfold EmbeddedStatement.offers at offered
    split at offered
    · cases offered
    · split at offered
      · obtain rfl := List.mem_singleton.mp offered
        exact trivial
      · obtain ⟨edit, -, rfl⟩ := List.mem_map.mp offered
        exact trivial
  · obtain rfl := List.mem_singleton.mp offered
    exact trivial
  · obtain ⟨edit, -, rfl⟩ := List.mem_map.mp offered
    exact trivial
  · obtain ⟨edit, -, rfl⟩ := List.mem_map.mp offered
    exact trivial

/-- The built-in fixers combine what they offer. -/
theorem fixAll_eq {fixer : Fixer σ} (member : fixer ∈ fixers) :
    fixer.fixAll = Offers.fixAll fixer.offers := by
  simp only [fixers, List.mem_cons, List.not_mem_nil, or_false] at member
  rcases member with rfl | rfl | rfl | rfl <;> rfl

theorem fixAll_isStateless {fixer : Fixer σ} (member : fixer ∈ fixers) (context : FixAllContext) :
    (fixer.fixAll context).IsStateless := by
  rw [fixAll_eq member]
  exact Callback.IsStateless.closed.fixAll fun diagnostic candidate offered =>
    (offers_isPure member diagnostic context.unit candidate offered).isStateless

theorem statelessPlugins {engine : Engine σ}
    (compiles : ∀ unit, (engine.compiler.compile unit).IsPure)
    (analyzers : engine.analyzers ⊆ analyzers) (fixers : engine.fixers ⊆ fixers) :
    engine.StatelessPlugins where
  compiler unit := (compiles unit).isStateless
  analyzers _ member unit := (analyze_isPure (analyzers member) unit).isStateless
  offers _ member diagnostic unit candidate offered :=
    (offers_isPure (fixers member) diagnostic unit candidate offered).isStateless
  fixAll _ member := fixAll_isStateless (fixers member)

end Builtin

namespace FinalNewline

/-- An engine that only sees to final newlines. -/
def engine (config : Config) : Engine Unit where
  analyzers := [analyzer]
  fixers := [fixer]
  compiler := Compilers.byLanguage fun _ => {}
  formatter := Formatting.whitespace
  config
  passLimit := 4

/-- A unit whose only document does not end with a newline. -/
def unended : SourceUnit where
  id := "a"
  documents := [⟨"a.txt", ['x']⟩]

/-- A session with that unit alone. -/
def session : Session Unit where
  workspace := { units := [⟨unended, unended⟩] }
  memory := ()

variable {config : Config}

theorem statelessPlugins : (engine config).StatelessPlugins :=
  Builtin.statelessPlugins (fun _ => trivial) (by simp [engine, Builtin.analyzers])
    (by simp [engine, Builtin.fixers])

theorem onlyAnalyzersFail (start : Session Unit) : (engine config).OnlyAnalyzersFail start := by
  have answers (diagnostic : Diagnostic) (unit : SourceUnit) :
      ∀ candidate ∈ (offers diagnostic unit : Candidates Unit), candidate.Answers start := by
    intro candidate offered
    obtain ⟨edit, -, rfl⟩ := List.mem_map.mp offered
    exact fun _ _ => ⟨_, rfl⟩
  exact {
    compiler := fun _ _ _ => ⟨_, rfl⟩
    offers := fun own able diagnostic unit => by
      obtain rfl := List.mem_singleton.mp able
      exact answers diagnostic unit
    fixAll := fun own able context => by
      obtain rfl := List.mem_singleton.mp able
      exact (Callback.Answers.closed start).fixAll fun diagnostic => answers diagnostic _ }

end FinalNewline

end FixLoop
