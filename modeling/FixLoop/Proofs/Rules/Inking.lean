import FixLoop.Proofs.Plugin.Standing
import FixLoop.Proofs.Rules.Ink
import FixLoop.Proofs.Workspace.Finishing
import Mathlib

/-!
Runs that change white space only. With the built-in plugins and no banner, a run changes no ink,
wherever it ends: each action that is chosen is a mending of what one rule found in the snapshot in
which it lands, and the formatter is as careful.
-/

namespace FixLoop

/-- The ink of a unit: the paths of its documents, in order, with the ink of their texts. -/
def SourceUnit.ink (unit : SourceUnit) : List (String × Text) :=
  unit.documents.map fun document => (document.path, document.text.ink)

/-- Whether the units of two workspaces have the same ink. -/
def Workspace.SameInk (before after : Workspace) : Prop :=
  ∀ id, (after.snapshot? id).map (·.ink) = (before.snapshot? id).map (·.ink)

/-- Whether no unit of a workspace has two documents with one path. -/
def Workspace.IsDistinct (workspace : Workspace) : Prop :=
  ∀ id unit, workspace.snapshot? id = some unit → unit.paths.Nodup

namespace SourceUnit

variable {unit next : SourceUnit}

theorem map_fst_ink (unit : SourceUnit) : unit.ink.map (·.1) = unit.paths := by
  rw [ink, List.map_map]
  rfl

theorem ink_renewed {renew : Document → Text} {version : Int}
    (kept : ∀ document, (renew document).ink = document.text.ink) :
    (unit.renewed renew version).ink = unit.ink := by
  rw [ink, renewed, List.map_map]
  exact List.map_congr_left fun document _ => congrArg (Prod.mk document.path) (kept document)

theorem Rewritten.ink_eq {how : Text → Text → Prop} (rewritten : Rewritten how unit next)
    (kept : ∀ {text result : Text}, how text result → result.ink = text.ink) :
    next.ink = unit.ink := by
  have changed := rewritten.documents
  unfold ink
  generalize unit.documents = documents, next.documents = others at changed ⊢
  induction changed with
  | nil => rfl
  | cons step _ ih => rw [List.map_cons, List.map_cons, ih, step.1, kept step.2]

end SourceUnit

theorem Formatting.ink_formatted (document : Document) :
    (formatted document).ink = document.text.ink := by
  unfold formatted
  split
  · rfl
  · exact ink_tidy document.text

namespace Workspace.SameInk

variable {before middle after : Workspace} {unit next : SourceUnit}

theorem refl (workspace : Workspace) : workspace.SameInk workspace := fun _ => rfl

theorem trans (first : before.SameInk middle) (second : middle.SameInk after) :
    before.SameInk after :=
  fun id => (second id).trans (first id)

theorem of_replaced (seen : before.snapshot? unit.id = some unit)
    (replaced : after.snapshot? unit.id = some next) (kept : next.ink = unit.ink)
    (others : ∀ other, other ≠ unit.id → after.snapshot? other = before.snapshot? other) :
    before.SameInk after := by
  intro id
  by_cases own : id = unit.id
  · rw [own, seen, replaced, Option.map_some, Option.map_some, kept]
  · rw [others id own]

theorem isDistinct (same : before.SameInk after) (distinct : before.IsDistinct) :
    after.IsDistinct := by
  intro id next found
  have kept := same id
  rw [found] at kept
  obtain ⟨unit, there, ink⟩ := Option.map_eq_some_iff.mp kept.symm
  have paths : unit.paths = next.paths := by
    rw [← SourceUnit.map_fst_ink, ink, SourceUnit.map_fst_ink]
  exact paths ▸ distinct id unit there

end Workspace.SameInk

variable {σ : Type}

/-- Whether a callback changes no ink. -/
def Callback.KeepsInk {α : Type} (callback : Callback σ α) : Prop :=
  ∀ session : Session σ, session.workspace.SameInk (callback.carryOut session).2.workspace

theorem Callback.LeavesWorkspace.keepsInk {α : Type} {callback : Callback σ α}
    (leaves : callback.LeavesWorkspace) : callback.KeepsInk := by
  intro session
  rw [leaves session]
  exact .refl _

namespace Engine

open Run Session Workspace

variable {engine : Engine σ} {start : Workspace} {unitId id : String} {unit base : SourceUnit}
  {allowed : Fault → Session σ → Prop}

theorem call_keepsInk {α : Type} {callback : Callback σ α} (careful : callback.KeepsInk)
    (any : ∀ fault session, allowed fault session) :
    (call callback).Keeps (fun now => start.SameInk now.workspace) allowed := by
  refine .of_final (fun session same => ?_) any
  rw [final_call]
  exact same.trans (careful session)

namespace StandsForBuiltin

variable (plugins : engine.StandsForBuiltin)

include plugins

/-- The action of a fixer for a batch that analyzers reported changes no ink where it lands. -/
theorem ink_fixAll {fixer : Fixer σ} {context : FixAllContext} {action : FixAction}
    {before after : Session σ} {next : SourceUnit} (distinct : context.unit.paths.Nodup)
    (able : fixer ∈ (engine.catalog base).fixersOf context.id) (found : context.diagnostics ≠ [])
    (reported : ∀ d ∈ context.diagnostics, (engine.catalog base).analyzersOf context.id = [] ∨
      ∃ analyzer ∈ (engine.catalog base).analyzersOf context.id, analyzer.CanReport context.unit d)
    (made : (fixer.fixAll context).carryOut before = (.ok (some action), after))
    (edited : context.unit.withEdits action.edits = .ok next) :
    next.ink = context.unit.ink := by
  obtain ⟨listed, fixes⟩ := List.mem_filter.mp able
  obtain ⟨among, supports⟩ := List.mem_filter.mp listed
  obtain ⟨keeper, member, stands⟩ := plugins.exists_fixer among
  rw [stands.fixableIds, keeper.fixableIds, Bool.and_eq_true, decide_eq_true_eq,
    List.mem_singleton] at fixes
  have id : context.id = keeper.id := fixes.1
  rw [stands.plugin] at supports
  rw [id] at reported
  have broken : context.diagnostics ⊆ keeper.rule.diagnostics context.unit := by
    intro d given
    obtain ⟨analyzer, reports, can⟩ :=
      (reported d given).resolve_left (plugins.analyzersOf_ne_nil member supports)
    exact plugins.mem_diagnostics member reports can
  have firm := Builtin.isFirm_keepers keeper member
  have agreed := (stands.fixAll context).agrees before before (some action) (congrArg Prod.fst made)
  by_cases key : context.key = keeper.id
  · obtain ⟨fixed, answers, mended, lands, rewritten⟩ :=
      firm.exists_action distinct found broken id key
    obtain ⟨journal, answered⟩ := answers before
    rw [answered] at agreed
    cases agreed
    obtain rfl : mended = next := Except.ok.inj (lands.symm.trans edited)
    exact rewritten.ink_eq (Builtin.ink_mended member)
  · rw [firm.no_action distinct broken key] at agreed
    cases agreed

variable (compiler : ∀ unit, (engine.compiler.compile unit).KeepsInk)

include compiler

theorem reads_keepInk (unit : SourceUnit) (any : ∀ fault session, allowed fault session) :
    engine.Reads unit fun _ step =>
      step.Keeps (fun now => start.SameInk now.workspace) allowed where
  toClosed := Keeps.closed (fun _ _ _ same => same) fun _ _ same => same
  compile := call_keepsInk (compiler unit) any
  analyze analyzer member := by
    obtain ⟨keeper, -, stands⟩ := plugins.exists_analyzer member
    exact fun session same => same.trans ((stands.analyze unit).leaves.keepsInk session)

omit compiler in
theorem selects_keepInk (unit : SourceUnit) (id : String) (batch : List Diagnostic)
    (any : ∀ fault session, allowed fault session) :
    engine.Selects unit id batch fun _ step =>
      step.Keeps (fun now => start.SameInk now.workspace) allowed where
  toClosed := Keeps.closed (fun _ _ _ same => same) fun _ _ same => same
  checked := (@checkCancelled_keeps σ _ allowed).mono fun _ _ _ _ => any _ _
  ambiguous _ := .throw fun _ _ => any _ _
  offers fixer member diagnostic candidate offered := by
    obtain ⟨keeper, -, stands⟩ := plugins.exists_fixer member
    obtain ⟨model, -, alike⟩ := exists_of_forall₂ (stands.offers diagnostic unit).flip offered
    exact call_keepsInk alike.leaves.keepsInk any
  fixAll fixer member context _ := by
    obtain ⟨keeper, -, stands⟩ := plugins.exists_fixer member
    exact call_keepsInk (stands.fixAll context).leaves.keepsInk any

theorem inspect_keepsInk (unitId id : String) (base : SourceUnit) {session : Session σ}
    (same : start.SameInk session.workspace) :
    start.SameInk (final (engine.inspect unitId (engine.catalog base) id session)).workspace := by
  have any (fault : Fault) (session : Session σ) : orInterrupted (fun _ _ => True) fault session :=
    .inl trivial
  have kept : (engine.inspect unitId (engine.catalog base) id).Keeps
      (fun now => start.SameInk now.workspace) (orInterrupted fun _ _ => True) :=
    inspect_keeps (Keeps.snapshot any) (fun unit => plugins.reads_keepInk compiler unit any)
      (engine.analyzers_catalog base)
  exact kept.final same

omit compiler in
theorem choice_keepsInk {session : Session σ} (batch : List Diagnostic)
    (same : start.SameInk session.workspace) :
    start.SameInk
      (final (engine.choice unit (engine.catalog base) id batch session)).workspace := by
  have kept : (engine.choice unit (engine.catalog base) id batch).Keeps
      (fun now => start.SameInk now.workspace) fun _ _ => True :=
    choice_keeps (fun _ _ _ same => same)
      (plugins.selects_keepInk unit id batch fun _ _ => .inl trivial) (engine.fixers_catalog base)
  exact kept.final same

omit compiler in
/-- The edits that a pass chose for what it found change no ink where they land. -/
theorem landed_keepsInk {survey : Survey} {action : FixAction} {landed : Workspace}
    {session middle prepared : Session σ} (distinct : session.workspace.IsDistinct)
    (inspected : engine.inspect unitId (engine.catalog base) id session = .ok survey middle)
    (builds : survey.errors = []) (found : survey.diagnostics ≠ [])
    (chose : engine.choice survey.unit (engine.catalog base) id
      (batchOf engine.config.batchSize survey.diagnostics) middle =
        .ok (.ok (some action)) prepared)
    (edited : prepared.workspace.tryEdit survey.unit.id survey.unit.version action.edits =
      .ok (true, landed)) :
    prepared.workspace.SameInk landed := by
  obtain ⟨-, seen, examined⟩ := inspect_eq_ok.mp inspected
  obtain rfl := id_of_snapshot? seen
  have grown : session.Grows (fun _ => True) prepared := by
    have reached := Reaches.grows (PluginsNote.of_own engine fun _ _ => trivial)
      (fun _ _ => trivial) (engine.analyzers_catalog base) (engine.fixers_catalog base)
      (.choosing inspected builds)
    rwa [chose] at reached
  obtain ⟨next, present, fits, replaced, others⟩ := grown.landed seen edited
  refine .of_replaced present replaced ?_ others
  obtain ⟨fixer, able, key, before, made⟩ := combined_of_choice chose
  obtain ⟨-, compiled, verified, -, -, blocked | ⟨-, looked⟩⟩ := examine_eq_ok.mp examined
  · exact absurd builds blocked.1
  refine plugins.ink_fixAll ?_ able ?_ (fun d given => ?_) made fits
  · exact distinct _ _ seen
  · exact batchOf_ne_nil found
  · obtain ⟨-, -, origin⟩ := mem_of_occurrences looked (batchOf_sublist.subset given)
    exact origin.imp_left And.left

/-- A pass changes no ink, however it ends. -/
theorem pass_keepsInk (distinct : start.IsDistinct) (state : PassState) {session : Session σ}
    (same : start.SameInk session.workspace) : start.SameInk
      (final (engine.pass unitId (engine.catalog base) id state session)).workspace := by
  have inspecting := plugins.inspect_keepsInk compiler unitId id base same
  have choosing {survey : Survey} {middle : Session σ}
      (inspected : engine.inspect unitId (engine.catalog base) id session = .ok survey middle) :
      start.SameInk (final (engine.choice survey.unit (engine.catalog base) id
        (batchOf engine.config.batchSize survey.diagnostics) middle)).workspace := by
    rw [inspected] at inspecting
    exact plugins.choice_keepsInk _ inspecting
  cases ran : engine.pass unitId (engine.catalog base) id state session with
  | error fault last =>
    rcases pass_of_error ran with failed | ⟨survey, middle, inspected, -, rfl⟩
    · rwa [failed] at inspecting
    · exact choosing inspected
  | ok result last =>
    cases pass_of_ok ran with
    | broken inspected blocked => rwa [inspected] at inspecting
    | cleared inspected builds empty => rwa [inspected] at inspecting
    | stalled inspected builds found repeated => rwa [inspected] at inspecting
    | acted inspected builds found fresh fixed =>
      have chosen := choosing inspected
      cases fixed with
      | ambiguous chose => rwa [chose] at chosen
      | noAction chose => rwa [chose] at chosen
      | emptyAction chose empty => rwa [chose] at chosen
      | rejected chose edits offered =>
        rw [chose] at chosen
        obtain ⟨workspace, tried, rfl⟩ := offer_eq_ok.mp offered
        obtain rfl := eq_of_tryEdit_rejected tried
        exact chosen
      | landed chose edits offered =>
        rw [chose] at chosen
        obtain ⟨workspace, edited, rfl⟩ := offer_eq_ok.mp offered
        exact chosen.trans (plugins.landed_keepsInk (same.isDistinct distinct) inspected builds
          found chose edited)

theorem fixUnit_keepsInk (distinct : start.IsDistinct) :
    (engine.fixUnit unitId).Keeps (fun now => start.SameInk now.workspace) fun _ _ => True := by
  have moves : Moves unitId (fun now : Session σ => start.SameInk now.workspace)
      fun _ _ => True := {
    remark := fun _ _ _ same => same
    snapshot := Keeps.snapshot fun _ _ => trivial
    unfinished := fun _ _ _ => trivial }
  refine moves.fixUnit_keeps_of_pass (fun unit => ?_) fun unit id state => ?_
  · exact plugins.reads_keepInk compiler unit fun _ _ => trivial
  · exact .of_final (fun _ same => plugins.pass_keepsInk compiler distinct state same)
      fun _ _ => .inl trivial

omit compiler in
/-- What is formatted keeps its ink, if it is the snapshot of some earlier session. -/
theorem formatFound_keepsInk (start : Workspace) {session : Session σ}
    (seen : session.workspace.snapshot? unit.id = some unit) (distinct : unit.paths.Nodup) :
    (engine.formatFound unit).Keeps
      (fun now => session.Grows (fun _ => True) now ∧ start.SameInk now.workspace)
      fun _ _ => True := by
  have formats := plugins.formatter.edits unit
  refine formatFound_keeps (fun event calm now ⟨grown, same⟩ =>
    ⟨grown.note calm trivial, same⟩) ?_ fun edits before after given => ?_
  · refine .of_final (fun now ⟨grown, same⟩ => ?_) fun _ _ => trivial
    rw [final_call]
    exact ⟨grown.trans (Callback.notes _ (fun _ _ => trivial) now),
      same.trans (formats.leaves.keepsInk now)⟩
  have answered := formats.agrees before before edits (congrArg Prod.fst (call_eq_ok.mp given))
  rw [Formatting.edits_whitespace] at answered
  obtain rfl : unit.documents.filterMap Formatting.edit? = edits := Except.ok.inj answered
  refine .of_final (fun now ⟨grown, same⟩ => ?_) fun _ _ => trivial
  cases offered : offer unit (unit.documents.filterMap Formatting.edit?) now with
  | error fault last =>
    obtain rfl := offer_eq_error offered
    exact ⟨grown, same⟩
  | ok landed last =>
    obtain ⟨workspace, tried, rfl⟩ := offer_eq_ok.mp offered
    refine ⟨grown.trans (.of_follows (.of_edit .session tried) trivial), ?_⟩
    cases landed with
    | false =>
      obtain rfl := eq_of_tryEdit_rejected tried
      exact same
    | true =>
      obtain ⟨next, present, fits, replaced, others⟩ := grown.landed seen tried
      obtain rfl := Except.ok.inj ((Formatting.withEdits distinct).symm.trans fits)
      exact same.trans (.of_replaced present replaced
        (SourceUnit.ink_renewed Formatting.ink_formatted) others)

omit compiler in
theorem finishUnit_keepsInk (distinct : start.IsDistinct)
    (plain : engine.config.bannerLines = []) :
    (engine.finishUnit unitId).Keeps (fun now => start.SameInk now.workspace) fun _ _ => True := by
  refine .of_final (fun session same => ?_) fun _ _ => trivial
  rw [finishUnit_eq, if_pos plain, pure_bind]
  split
  · rw [formatUnit_eq]
    cases fetched : snapshot unitId session with
    | error fault last =>
      obtain rfl := snapshot_eq_error fetched
      rwa [bind_of_error fetched]
    | ok unit last =>
      obtain ⟨seen, rfl⟩ := snapshot_eq_ok.mp fetched
      obtain rfl := id_of_snapshot? seen
      rw [bind_of_ok fetched]
      have kept := plugins.formatFound_keepsInk start seen
        (same.isDistinct distinct _ _ seen)
      exact (kept.final ⟨.refl session, same⟩).2
  · exact same

/-- With the built-in plugins and without a banner, no run changes anything but white space,
whatever the compiler is and wherever the run is cancelled. -/
theorem remediate_keepsInk (plain : engine.config.bannerLines = [])
    (requested : Option (List String))
    (session : Session σ) (distinct : session.workspace.IsDistinct) :
    session.workspace.SameInk (final (engine.remediate requested session)).workspace := by
  have noted (event : Event) (_ : event.isEffect = false) (now : Session σ)
      (same : session.workspace.SameInk now.workspace) :
      session.workspace.SameInk now.workspace := same
  have fixed (order : List String) (_ : session.workspace.order requested = .ok order) :=
    fixUnits_keeps noted (fun unitId (_ : unitId ∈ order) => Keeps.snapshot fun _ _ => trivial)
      (fun unitId _ => plugins.fixUnit_keepsInk compiler distinct)
      (fun unitId _ => plugins.finishUnit_keepsInk distinct plain) order.length 1 {}
  have kept := final_remediate noted (.refl session.workspace) fixed
  exact kept

end StandsForBuiltin

end Engine

namespace Impatient

/-! The built-in plugins with a compiler that requests cancellation in the second unit. -/

def engine : Engine Nat where
  analyzers := Builtin.analyzers
  fixers := Builtin.fixers
  compiler := {
    type := "Impatient", package := "plugins"
    compile := fun _ => .retrieve fun calls =>
      if calls = 4 then .cancel (.answer []) else .remember (calls + 1) (.answer []) }
  formatter := Formatting.whitespace
  config := { (default : Config) with format := .bool true }
  passLimit := 4

def source (id : String) (text : Text) : SourceUnit where
  id
  documents := [⟨id, text⟩]

def session : Session Nat where
  workspace := { units := [
    ⟨source "a" ['x', '\u00A0', ' ', '\n'], source "a" ['x', '\u00A0', ' ', '\n']⟩,
    ⟨source "b" ['y', ' ', '\n'], source "b" ['y', ' ', '\n']⟩] }
  memory := 0

/-- The texts of a workspace. -/
def texts (workspace : Workspace) : List (List Text) :=
  workspace.units.map fun tracked => tracked.current.documents.map (·.text)

theorem compile_keepsInk (unit : SourceUnit) : (engine.compiler.compile unit).KeepsInk := by
  refine Callback.LeavesWorkspace.keepsInk fun session => ?_
  change ((if session.memory = 4 then Callback.cancel (.answer [])
    else .remember (session.memory + 1) (.answer [])).carryOut session).2.workspace = _
  split
  · unfold Callback.carryOut
    split <;> rfl
  · rfl

theorem remediate_keepsInk_impatient :
    ∃ report last, engine.remediate none session = .ok report last ∧
      report.cancelled = true ∧
      texts last.workspace = [[['x', '\n']], [['y', ' ', '\n']]] ∧
      session.workspace.SameInk last.workspace := by
  have ordered : session.workspace.order none = .ok ["a", "b"] := by cbv
  have placed : Engine.unitOrder none session = .ok ["a", "b"] session := by
    rw [Engine.unitOrder, ordered]
  have evaluated : Run.peek? (fun report last => (report.cancelled, texts last.workspace))
      (engine.remediate none session) =
        some (true, [[['x', '\n']], [['y', ' ', '\n']]]) := by
    rw [Engine.remediate, Run.bind_of_ok placed]
    decide +kernel
  obtain ⟨report, last, ran, seen⟩ := Run.peek?_eq_some.mp evaluated
  obtain ⟨cancelled, texts⟩ := Prod.mk.inj seen
  have distinct : session.workspace.IsDistinct := by
    intro id unit found
    obtain ⟨tracked, among, rfl⟩ := Option.map_eq_some_iff.mp found
    have member := List.mem_of_find?_eq_some among
    simp only [session, List.mem_cons, List.not_mem_nil, or_false] at member
    rcases member with rfl | rfl <;> exact List.nodup_singleton _
  have plugins : engine.StandsForBuiltin := .of_builtin rfl rfl rfl
  have kept := plugins.remediate_keepsInk compile_keepsInk rfl none session distinct
  rw [ran] at kept
  exact ⟨report, last, ran, cancelled, texts, kept⟩

end Impatient

end FixLoop
