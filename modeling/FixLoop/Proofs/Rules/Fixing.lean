import FixLoop.Formatting
import FixLoop.Proofs.Rules.Normalizing

/-!
Fixing units with the built-in plugins. The rules about white space stay kept whatever else is
mended, so one round mends all of them, whatever the size of batches. Mending them can change what
is code and what is not, and so bring up embedded statements, which a second round mends.
-/

namespace FixLoop

/-- Whether an engine has the built-in plugins and the compiler that chooses by language, and acts
on all that they report. -/
structure Engine.IsBuiltin {σ : Type} (engine : Engine σ) (outcomes : Compilers.Outcomes) :
    Prop where
  analyzers : engine.analyzers = Builtin.analyzers
  fixers : engine.fixers = Builtin.fixers
  compiler : engine.compiler = Compilers.byLanguage outcomes
  severity : engine.config.minimumSeverity = .info
  ignoredIds : engine.config.ignoredIds = []
  fixerOverrides : engine.config.fixerOverrides = []
  actionOverrides : engine.config.actionOverrides = []

namespace Builtin

open Run

variable {σ : Type} {engine : Engine σ} {outcomes : Compilers.Outcomes} {unit : SourceUnit}
  {unitId language : String} {session : Session σ}

theorem severity_of_imbalance {document : Document} {d : Diagnostic}
    (reported : Compilers.imbalanceDiagnostic? document = some d) : d.severity = .error := by
  obtain ⟨imbalance, -, rfl⟩ := Option.map_eq_some_iff.mp reported
  rfl

/-- Units build unless their brackets do not balance, if nothing is said against Python. -/
theorem actsOnAll (builtin : engine.IsBuiltin outcomes)
    (quiet : language = "python" → ∀ document, outcomes document = {}) :
    engine.ActsOnAll language where
  compiles := by
    rintro unit rfl
    rw [builtin.compiler]
    refine ⟨_, rfl, fun d reported => ?_⟩
    split at reported
    · rename_i python
      obtain ⟨document, -, reported⟩ := List.mem_flatMap.mp reported
      rw [quiet python] at reported
      cases reported
    · split at reported
      · cases reported
      · obtain ⟨document, -, imbalance⟩ := List.mem_filterMap.mp reported
        exact severity_of_imbalance imbalance
  severity := builtin.severity
  ignoredIds := builtin.ignoredIds
  fixerOverrides := builtin.fixerOverrides
  actionOverrides := builtin.actionOverrides

theorem catalog_of_not_mem (builtin : engine.IsBuiltin outcomes)
    (plain : unit.language ∉ EmbeddedStatement.languages) :
    engine.catalog unit = Keeper.catalog (whitespaceKeepers σ) := by
  rw [Engine.catalog, Catalog.ofUnit, builtin.analyzers, builtin.fixers]
  have analyzer : ¬ (EmbeddedStatement.analyzer : Analyzer σ).supports unit.language = true :=
    fun listed => plain (of_decide_eq_true listed)
  have fixer : ¬ (EmbeddedStatement.fixer : Fixer σ).supports unit.language = true :=
    fun listed => plain (of_decide_eq_true listed)
  exact congrArg₂ Catalog.mk (List.filter_cons_of_neg analyzer) (List.filter_cons_of_neg fixer)

theorem catalog_of_mem (builtin : engine.IsBuiltin outcomes)
    (braces : unit.language ∈ EmbeddedStatement.languages) :
    engine.catalog unit = Keeper.catalog (EmbeddedStatement.keeper :: whitespaceKeepers σ) := by
  rw [Engine.catalog, Catalog.ofUnit, builtin.analyzers, builtin.fixers]
  have analyzer : (EmbeddedStatement.analyzer : Analyzer σ).supports unit.language = true :=
    decide_eq_true braces
  have fixer : (EmbeddedStatement.fixer : Fixer σ).supports unit.language = true :=
    decide_eq_true braces
  exact congrArg₂ Catalog.mk (List.filter_cons_of_pos analyzer) (List.filter_cons_of_pos fixer)

theorem distinct_keepers (σ : Type) :
    ((EmbeddedStatement.keeper :: whitespaceKeepers σ).map (·.id)).Nodup := by
  change (["CF0001", "CF0002", "CF0003", "CF0004"] : List String).Nodup
  decide

/-- All rules but the one about embedded statements stay kept whatever is mended. -/
theorem stays_keepers : ∀ keeper ∈ EmbeddedStatement.keeper :: whitespaceKeepers σ,
    keeper.id ≠ "CF0001" → ∀ ids,
      keeper.Stays (EmbeddedStatement.keeper :: whitespaceKeepers σ) ids := by
  intro keeper member follows ids other among named apart
  rcases List.mem_cons.mp member with rfl | member
  · exact absurd rfl follows
  · rcases List.mem_cons.mp among with rfl | among
    · simp only [whitespaceKeepers, List.mem_cons, List.not_mem_nil, or_false] at member
      rcases member with rfl | rfl | rfl
      · exact TrailingWhitespace.withstands_embeddedStatement
      · exact FinalNewline.withstands_embeddedStatement
      · exact TabIndentation.withstands_embeddedStatement
    · exact stays_whitespaceKeepers keeper member ids other among named apart

/-- The built-in plugins for a unit keep rules of which at most one is broken when others are
mended. -/
theorem exists_keepers (builtin : engine.IsBuiltin outcomes) (unit : SourceUnit) :
    ∃ keepers : List (Keeper σ), keepers ≠ [] ∧ engine.catalog unit = Keeper.catalog keepers ∧
      (keepers.map (·.id)).Nodup ∧
        ∀ keeper ∈ keepers, keeper.id ≠ "CF0001" → ∀ ids, keeper.Stays keepers ids := by
  by_cases braces : unit.language ∈ EmbeddedStatement.languages
  · exact ⟨_, List.cons_ne_nil _ _, catalog_of_mem builtin braces, distinct_keepers σ,
      stays_keepers⟩
  · exact ⟨_, List.cons_ne_nil _ _, catalog_of_not_mem builtin braces,
      distinct_whitespaceKeepers σ, fun keeper member _ => stays_whitespaceKeepers keeper member⟩

/-- The built-in plugins keep the rules about white space in a text unit, which always builds. -/
theorem keeps_text (builtin : engine.IsBuiltin outcomes) (text : unit.language = "text") :
    engine.catalog unit = Keeper.catalog (whitespaceKeepers σ) ∧
      engine.ActsOnAll unit.language ∧ ¬ engine.CanBlock unit := by
  refine ⟨catalog_of_not_mem builtin ?_, actsOnAll builtin fun python => ?_, ?_⟩
  · rw [text]
    decide
  · exact absurd (text.symm.trans python) (by decide)
  · rintro ⟨reported, some, compiled⟩
    rw [builtin.compiler] at compiled
    change Callback.answer (if unit.language = "python" then _ else if unit.language = "text"
      then _ else _) = _ at compiled
    rw [text, if_neg (by decide), if_pos rfl] at compiled
    exact absurd (Callback.answer.inj compiled).symm some

theorem fixUnit_rewrites (builtin : engine.IsBuiltin outcomes)
    (rounds : 2 ≤ engine.config.maxIterations) (held : session.HasUnit unitId unit)
    (tidy : unit.IsTidy) (text : unit.language = "text") :
    ∃ result next last,
      ComesTo (fun limit => (engine.withLimit limit).fixUnit unitId) session result last ∧
        last.HasUnit unitId next ∧ result.kind = .success ∧ result.iterations ≤ 1 ∧
        result.limitReached = false ∧ result.skipped = [] ∧
        unit.Rewritten (fun text result => result = text.normalized) next := by
  obtain ⟨own, acts, -⟩ := keeps_text builtin text
  obtain ⟨more, enough⟩ : ∃ more, engine.config.maxIterations - 1 = more + 1 :=
    ⟨engine.config.maxIterations - 2, by omega⟩
  obtain ⟨result, next, last, comes, kept, few, limit, skipped, ended⟩ :=
    Engine.fixUnit_settles held own nofun fun begun held => by
      rw [enough]
      exact Engine.rounds_settle_once acts (distinct_whitespaceKeepers σ) held tidy
        fun keeper member => stays_whitespaceKeepers keeper member _
  rcases ended with ⟨success, rewritten⟩ | ⟨-, language, blocks⟩
  · exact ⟨result, next, last, comes, kept, success, few, limit, skipped,
      rewritten.mono fun document member _ chain =>
        normalized_of_brokenIds member (tidy.tidy document member) chain⟩
  · exact absurd blocks (keeps_text builtin (language.trans text)).2.2

/-- A text unit is fixed in one round, which makes all of its texts normal. -/
theorem fixUnit_normalizes (builtin : engine.IsBuiltin outcomes)
    (rounds : 2 ≤ engine.config.maxIterations) (held : session.HasUnit unitId unit)
    (tidy : unit.IsTidy) (text : unit.language = "text") :
    ∃ result last,
      ComesTo (fun limit => (engine.withLimit limit).fixUnit unitId) session result last ∧
        result.kind = .success ∧ result.iterations ≤ 1 ∧ result.limitReached = false ∧
        result.skipped = [] ∧
        ∃ next, last.workspace.snapshot? unitId = some next ∧
          next.documents = unit.documents.map fun document =>
            { document with text := document.text.normalized } := by
  obtain ⟨result, next, last, comes, kept, success, few, limit, skipped, normal⟩ :=
    fixUnit_rewrites builtin rounds held tidy text
  exact ⟨result, last, comes, success, few, limit, skipped, next, kept.present,
    normal.documents_eq⟩

end Builtin

/-- An engine with the built-in plugins. -/
def Engine.builtin (config : Config) : Engine Unit where
  analyzers := Builtin.analyzers
  fixers := Builtin.fixers
  compiler := Compilers.byLanguage fun _ => {}
  formatter := Formatting.whitespace
  config
  passLimit := 4

namespace Untidy

/-- A unit of plain text that breaks all rules about white space. -/
def unit : SourceUnit where
  id := "a"
  language := "text"
  documents := [⟨"a.txt", [' ', '\t', 'x', ' ']⟩]

def session : Session Unit where
  workspace := { units := [⟨unit, unit⟩] }
  memory := ()

theorem fixUnit_normalizes_untidy :
    ∃ result last,
      Run.ComesTo (fun limit => ((Engine.builtin { batchSize := 1 }).withLimit limit).fixUnit "a")
          session result last ∧
        result.kind = .success ∧ result.iterations ≤ 1 ∧ result.limitReached = false ∧
        result.skipped = [] ∧
        ∃ next, last.workspace.snapshot? "a" = some next ∧
          next.documents = [⟨"a.txt", [' ', ' ', ' ', ' ', 'x', '\n']⟩] := by
  have normal : (unit.documents.map fun document =>
      { document with text := document.text.normalized }) =
        [⟨"a.txt", [' ', ' ', ' ', ' ', 'x', '\n']⟩] := by decide +kernel
  have builtin : (Engine.builtin { batchSize := 1 }).IsBuiltin fun _ => {} :=
    ⟨rfl, rfl, rfl, rfl, rfl, rfl, rfl⟩
  have rounds : 2 ≤ (Engine.builtin { batchSize := 1 }).config.maxIterations := by decide
  rw [← normal]
  exact Builtin.fixUnit_normalizes builtin rounds ⟨rfl, rfl⟩ ⟨by decide, by decide⟩ rfl

end Untidy

namespace Builtin

open Run

variable {σ : Type} {engine : Engine σ} {outcomes : Compilers.Outcomes} {unit : SourceUnit}
  {unitId : String} {session : Session σ}

/-- A unit is fixed in two rounds, unless it stops building. -/
theorem fixUnit_ends_within_two (builtin : engine.IsBuiltin outcomes)
    (quiet : unit.language = "python" → ∀ document, outcomes document = {})
    (rounds : 3 ≤ engine.config.maxIterations) (held : session.HasUnit unitId unit)
    (tidy : unit.IsTidy) :
    ∃ result last,
      ComesTo (fun limit => (engine.withLimit limit).fixUnit unitId) session result last ∧
        (result.kind = .success ∨ result.kind = .compilerError) ∧ result.iterations ≤ 2 ∧
        result.limitReached = false ∧ result.skipped = [] := by
  have acts := actsOnAll builtin quiet
  obtain ⟨more, enough⟩ : ∃ more, engine.config.maxIterations - 1 = more + 2 :=
    ⟨engine.config.maxIterations - 3, by omega⟩
  obtain ⟨keepers, some, own, distinct, stay⟩ := exists_keepers builtin unit
  obtain ⟨result, next, last, comes, -, few, limit, skipped, ended⟩ :=
    Engine.fixUnit_settles held own some fun begun held => by
      rw [enough]
      exact Engine.rounds_settle_twice acts distinct held tidy stay
  exact ⟨result, last, comes, ended.imp And.left And.left, few, limit, skipped⟩

end Builtin

namespace Resurfacing

/-- A unit in which a literal swallows a line break, and with it ends where a statement starts, once
the space before the break is gone. -/
def unit : SourceUnit where
  id := "a"
  language := "c"
  documents := [⟨"a.c", "\"\\ \n\" if (a) b;\nc;\n".toList⟩]

def session : Session Unit where
  workspace := { units := [⟨unit, unit⟩] }
  memory := ()

theorem fixUnit_ends_within_two_resurfacing :
    ∃ result last,
      Run.ComesTo (fun limit =>
          ((Engine.builtin { maxIterations := 3 }).withLimit limit).fixUnit "a") session result
          last ∧
        (result.kind = .success ∨ result.kind = .compilerError) ∧ result.iterations ≤ 2 ∧
        result.limitReached = false ∧ result.skipped = [] := by
  have builtin : (Engine.builtin { maxIterations := 3 }).IsBuiltin fun _ => {} :=
    ⟨rfl, rfl, rfl, rfl, rfl, rfl, rfl⟩
  have rounds : 3 ≤ (Engine.builtin { maxIterations := 3 }).config.maxIterations := by decide
  exact Builtin.fixUnit_ends_within_two builtin (fun _ _ => rfl) rounds ⟨rfl, rfl⟩
    ⟨by decide, by decide⟩

end Resurfacing

end FixLoop
