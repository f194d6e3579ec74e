import FixLoop.Proofs.Session.Steps
import FixLoop.Session.Passes

/-!
Asking plugins. Compiling, analyzing and selecting are sequences of calls and notes; so whatever
holds of those, and of sequences of what it holds of, holds of them. Each of these parts of the work
has notes of its own, by which the journal tells what was asked about which snapshot.
-/

namespace FixLoop

namespace Event

/-- Whether an event is noted while a snapshot is compiled and analyzed. -/
def TellsOfReading (unit : SourceUnit) : Event → Prop
  | compiled seen => seen = unit
  | analyzed _ seen => seen = unit
  | analyzerFailed .. | buildError _ | moreBuildErrors _ => True
  | _ => False

/-- Whether an event is noted while the fix for a batch is selected. -/
def TellsOfSelecting (unit : SourceUnit) (id : String) (batch : List Diagnostic) : Event → Prop
  | selecting other given => other = id ∧ given = batch
  | consulted _ _ seen => seen = unit
  | combining _ context => context.unit = unit ∧ context.id = id ∧ context.diagnostics = batch
  | demanded _ | manyFixers .. | manyActions .. | notCombined .. => True
  | _ => False

end Event

namespace Engine

open Run

variable {σ : Type} {engine : Engine σ} {catalog : Catalog σ} {unit : SourceUnit}
  {good : (α : Type) → Run σ α → Prop}

/-- Whether the calls by which a snapshot is compiled and analyzed are in a class of steps. -/
structure Reads (engine : Engine σ) (unit : SourceUnit) (good : (α : Type) → Run σ α → Prop) : Prop
    extends Closed (Event.TellsOfReading unit) good where
  compile : good _ (call (engine.compiler.compile unit))
  analyze : ∀ analyzer ∈ engine.analyzers, good _ (attempt (analyzer.analyze unit))

/-- Whether the calls by which the fix for a batch is selected are in a class of steps, and so are
the ways in which selecting ends early. -/
structure Selects (engine : Engine σ) (unit : SourceUnit) (id : String) (batch : List Diagnostic)
    (good : (α : Type) → Run σ α → Prop) : Prop
    extends Closed (Event.TellsOfSelecting unit id batch) good where
  checked : good _ checkCancelled
  ambiguous : ∀ {α : Type} (ambiguity : Ambiguity), good α (throw (.ambiguous ambiguity))
  offers : ∀ fixer ∈ engine.fixers, ∀ diagnostic, ∀ candidate ∈ fixer.offers diagnostic unit,
    good _ (call candidate)
  fixAll : ∀ fixer ∈ engine.fixers, ∀ context, context.unit = unit →
    good _ (call (fixer.fixAll context))

/-- The check of the build asks no plugin. -/
theorem verifyBuild_good {noted : Event → Prop} (closed : Closed noted good)
    (error : ∀ diagnostic, noted (.buildError diagnostic))
    (more : ∀ count, noted (.moreBuildErrors count)) (diagnostics : List Diagnostic) :
    good _ (engine.verifyBuild diagnostics) := by
  unfold verifyBuild
  refine closed.bind (closed.forM fun _ _ => closed.note _ (error _)) fun _ => ?_
  dsimp only
  split
  · exact closed.bind (closed.note _ (more _)) fun _ => closed.pure _
  · exact closed.pure _

namespace Reads

theorem compile_good (reads : engine.Reads unit good) : good _ (engine.compile unit) :=
  reads.bind (reads.note (.compiled unit) rfl) fun _ =>
    reads.bind reads.compile fun _ => reads.pure _

theorem runAnalyzer_good (reads : engine.Reads unit good) {analyzer : Analyzer σ}
    (member : analyzer ∈ engine.analyzers) : good _ (runAnalyzer unit analyzer) := by
  refine reads.bind (reads.note (.analyzed _ unit) rfl) fun _ => ?_
  refine reads.bind (reads.analyze analyzer member) fun answer => ?_
  cases answer with
  | ok diagnostics => exact reads.pure _
  | error failure =>
    exact reads.bind (reads.note (.analyzerFailed ..) trivial) fun _ => reads.pure _

theorem analyze_good (reads : engine.Reads unit good) {analyzers : List (Analyzer σ)}
    (members : analyzers ⊆ engine.analyzers) : good _ (Engine.analyze unit analyzers) :=
  reads.bind (reads.mapM fun _ member => reads.runAnalyzer_good (members member)) fun _ =>
    reads.pure _

theorem verifyBuild_good (reads : engine.Reads unit good) (diagnostics : List Diagnostic) :
    good _ (engine.verifyBuild diagnostics) :=
  Engine.verifyBuild_good reads.toClosed (fun _ => trivial) (fun _ => trivial) diagnostics

theorem fixable_good (reads : engine.Reads unit good)
    (members : catalog.analyzers ⊆ engine.analyzers) (diagnostics : List Diagnostic) :
    good _ (engine.fixable unit catalog diagnostics) := by
  refine reads.bind (reads.analyze_good members) fun _ => ?_
  exact reads.bind (reads.forM fun _ _ => reads.learn _) fun _ => reads.pure _

theorem occurrences_good (reads : engine.Reads unit good)
    (members : catalog.analyzers ⊆ engine.analyzers) (id : String)
    (diagnostics : List Diagnostic) : good _ (engine.occurrences unit catalog id diagnostics) := by
  have reporting : catalog.analyzersOf id ⊆ engine.analyzers :=
    fun _ member => members (List.mem_filter.mp member).1
  unfold occurrences
  dsimp only
  split
  · exact reads.bind (reads.pure _) fun _ => reads.pure _
  · exact reads.bind (reads.analyze_good reporting) fun _ => reads.pure _

end Reads

end Engine

namespace Selection

open Run

variable {σ : Type} {engine : Engine σ} {unit : SourceUnit} {id : String} {batch : List Diagnostic}
  {good : (α : Type) → Run σ α → Prop} {fixer : Fixer σ} {candidates : Candidates σ}

theorem demandKey_good (selects : engine.Selects unit id batch good) (key : String)
    (each : ∀ candidate ∈ candidates, good _ (call candidate)) :
    good _ (demandKey fixer key candidates) := by
  induction candidates with
  | nil => exact selects.bind (selects.note (.demanded _) trivial) fun _ => selects.pure _
  | cons next rest ih =>
    refine selects.bind (selects.note (.demanded _) trivial) fun _ => ?_
    refine selects.bind (each next (by simp)) fun action => ?_
    cases action with
    | none => exact selects.pure _
    | some action =>
      dsimp only
      split
      · exact selects.pure _
      · exact ih fun other member => each other (by simp [member])

theorem demand_good (selects : engine.Selects unit id batch good)
    (each : ∀ candidate ∈ candidates, good _ (call candidate)) :
    good _ (demand fixer candidates) := by
  cases candidates with
  | nil => exact selects.bind (selects.note (.demanded _) trivial) fun _ => selects.pure _
  | cons next rest =>
    exact selects.bind (selects.note (.demanded _) trivial) fun _ => each next (by simp)

theorem demandTwo_good (selects : engine.Selects unit id batch good)
    (each : ∀ candidate ∈ candidates, good _ (call candidate)) :
    good _ (demandTwo fixer candidates) := by
  refine selects.bind (demand_good selects each) fun first => ?_
  cases first with
  | none => exact selects.pure _
  | some first =>
    have others : ∀ candidate ∈ candidates.drop 1, good _ (call candidate) :=
      fun candidate member => each candidate (List.mem_of_mem_drop member)
    refine selects.bind (demand_good selects others) fun second => ?_
    cases second with
    | none => exact selects.pure _
    | some second =>
      dsimp only
      split <;> exact selects.pure _

theorem consult_good (selects : engine.Selects unit id batch good) (able : fixer ∈ engine.fixers)
    (key? : Option String) (diagnostic : Diagnostic) :
    good _ (consult fixer key? diagnostic unit) := by
  have each := selects.offers fixer able diagnostic
  refine selects.bind (selects.note (.consulted _ _ unit) rfl) fun _ => ?_
  cases key? with
  | none => exact demandTwo_good selects each
  | some key => exact selects.bind (demandKey_good selects key each) fun _ => selects.pure _

theorem representative_good (selects : engine.Selects unit id batch good)
    (able : fixer ∈ engine.fixers) (key? : Option String) (diagnostics : List Diagnostic) :
    ∀ unclear, good _ (representative fixer key? id unit diagnostics unclear) := by
  induction diagnostics with
  | nil =>
    intro unclear
    cases unclear with
    | nil => exact selects.pure _
    | cons pair rest => exact selects.ambiguous _
  | cons diagnostic rest ih =>
    intro unclear
    unfold representative
    split
    · refine selects.bind (consult_good selects able key? diagnostic) fun offer => ?_
      cases offer with
      | nothing => exact ih unclear
      | clear action => exact selects.pure _
      | unclear first second =>
        dsimp only
        split
        · exact ih unclear
        · exact selects.bind (selects.note (.manyActions ..) trivial) fun _ => ih _
    · exact ih unclear

theorem choose_good (selects : engine.Selects unit id batch good) {fixers : List (Fixer σ)}
    (able : fixers ⊆ engine.fixers) :
    ∀ chosen, good _ (choose engine.config id batch unit fixers chosen) := by
  induction fixers with
  | nil => exact fun chosen => selects.pure _
  | cons fixer rest ih =>
    intro chosen
    have others := ih fun _ member => able (List.mem_cons_of_mem _ member)
    refine selects.bind selects.checked fun _ => ?_
    dsimp only
    split
    · have asked := representative_good selects (able List.mem_cons_self)
        (engine.config.actionOverrides.lookup id) batch []
      refine selects.bind asked fun action => ?_
      cases action with
      | none => exact others chosen
      | some action =>
        cases chosen with
        | none => exact others _
        | some pair =>
          dsimp only
          split
          · refine selects.bind (selects.note (.manyFixers ..) trivial) fun _ => ?_
            exact selects.ambiguous _
          · exact others _
    · exact others chosen

/-- The fixer that is chosen is one of those asked. -/
theorem mem_of_choose {config : Config} {fixers : List (Fixer σ)}
    {winner : Option (Fixer σ × FixAction)} :
    ∀ {chosen : Option (Fixer σ × FixAction)} {session last : Session σ},
      choose config id batch unit fixers chosen session = .ok winner last →
      winner = chosen ∨ ∃ pair, winner = some pair ∧ pair.1 ∈ fixers := by
  induction fixers with
  | nil =>
    intro chosen session last ran
    left
    exact (pure_eq_ok.mp ran).1.symm
  | cons fixer rest ih =>
    intro chosen session last ran
    have later {before : Session σ}
        (ran : choose config id batch unit rest chosen before = .ok winner last) :
        winner = chosen ∨ ∃ pair, winner = some pair ∧ pair.1 ∈ fixer :: rest := by
      rcases ih ran with same | ⟨pair, won, member⟩
      · exact .inl same
      · exact .inr ⟨pair, won, List.mem_cons_of_mem _ member⟩
    obtain ⟨_, checked, _, ran⟩ := bind_eq_ok.mp ran
    split at ran
    · obtain ⟨action, asked, _, ran⟩ := bind_eq_ok.mp ran
      cases action with
      | none => exact later ran
      | some action =>
        cases chosen with
        | none =>
          rcases ih ran with won | ⟨pair, won, member⟩
          · exact .inr ⟨(fixer, action), won, List.mem_cons_self ..⟩
          · exact .inr ⟨pair, won, List.mem_cons_of_mem _ member⟩
        | some pair =>
          dsimp only at ran
          split at ran
          · obtain ⟨_, _, _, failed⟩ := bind_eq_ok.mp ran
            cases failed
          · exact later ran
    · exact later ran

/-- The action that is selected is what one of the fixers makes of the batch. -/
theorem combined_of_select {config : Config} {fixers : List (Fixer σ)} {action : FixAction}
    {session last : Session σ}
    (ran : select config id batch fixers unit session = .ok (some action) last) :
    ∃ fixer ∈ fixers, ∃ key before,
      (fixer.fixAll { unit, id, key, diagnostics := batch }).carryOut before =
        (.ok (some action), last) := by
  obtain ⟨_, _, -, ran⟩ := bind_eq_ok.mp ran
  obtain ⟨winner, _, chose, ran⟩ := bind_eq_ok.mp ran
  rcases mem_of_choose chose with none | ⟨⟨fixer, first⟩, won, member⟩
  · subst none
    cases ran
  · subst won
    obtain ⟨_, before, -, ran⟩ := bind_eq_ok.mp ran
    obtain ⟨answer, after, combined, ran⟩ := bind_eq_ok.mp ran
    cases answer with
    | none =>
      obtain ⟨_, _, -, ran⟩ := bind_eq_ok.mp ran
      cases ran
    | some made =>
      cases ran
      exact ⟨fixer, member, first.key, before, call_eq_ok.mp combined⟩

theorem select_good (selects : engine.Selects unit id batch good) {fixers : List (Fixer σ)}
    (able : fixers ⊆ engine.fixers) : good _ (select engine.config id batch fixers unit) := by
  refine selects.bind (selects.note (.selecting id batch) ⟨rfl, rfl⟩) fun _ => ?_
  refine selects.bind_of (choose_good selects able none) fun winner before after ran => ?_
  rcases mem_of_choose ran with none | ⟨⟨fixer, action⟩, won, member⟩
  · subst none
    exact selects.pure _
  · subst won
    refine selects.bind (selects.note (.combining ..) ⟨rfl, rfl, rfl⟩) fun _ => ?_
    refine selects.bind (selects.fixAll fixer (able member) _ rfl) fun answer => ?_
    split
    · exact selects.bind (selects.note (.notCombined ..) trivial) fun _ => selects.pure _
    · exact selects.pure _

end Selection

end FixLoop
