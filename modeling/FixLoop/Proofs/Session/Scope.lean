import FixLoop.Proofs.Session.Stopping
import FixLoop.Proofs.Workspace.Continuing
import FixLoop.Proofs.Workspace.Ordering

/-!
What a run touches. If no plugin edits the workspace, work on a unit is about that unit alone, so a
report accounts for all that a run did: its results follow the order of the units, and what has no
result, or was skipped, is as it was.
-/

namespace FixLoop

variable {σ : Type}

/-- Whether the workspace of a session differs from that of an earlier one in a unit at most. -/
def Session.Spares (unitId : String) (start now : Session σ) : Prop :=
  ∀ other, other ≠ unitId → now.workspace.snapshot? other = start.workspace.snapshot? other

theorem Session.Spares.trans {unitId : String} {start middle now : Session σ}
    (first : start.Spares unitId middle) (second : middle.Spares unitId now) :
    start.Spares unitId now :=
  fun other different => (second other different).trans (first other different)

/-- Whether a report accounts for all that a run over units, in their order, did to a workspace. -/
structure RunReport.Covers (report : RunReport) (order : List String) (before after : Workspace) :
    Prop where
  inOrder : report.results.map (·.unitId) <+: order
  untouched : ∀ id, (∀ result ∈ report.results, result.unitId = id → result.kind = .skipped) →
    after.snapshot? id = before.snapshot? id
  /-- A unit that does not build is the last one. -/
  building : ∀ result ∈ report.results.dropLast, result.kind ≠ .compilerError
  aborted : report.aborted = true ↔ report.cancelled = false ∧
    ∃ result, report.results.getLast? = some result ∧ result.kind = .compilerError
  complete : report.cancelled = false → report.aborted = false →
    report.results.map (·.unitId) = order

namespace RunReport.Covers

variable {report : RunReport} {result : UnitResult} {results : List UnitResult} {unitId : String}
  {order : List String} {before middle after : Workspace} {cancelled : Bool}

/-- A run that visits no unit. -/
theorem nil (workspace : Workspace) (stopped : cancelled = false → order = []) :
    Covers { cancelled } order workspace workspace where
  inOrder := List.nil_prefix
  untouched _ _ := rfl
  building _ member := absurd member List.not_mem_nil
  aborted := by simp
  complete running _ := (stopped running).symm

/-- A run that ends with its first unit, because cancellation is noticed there or it does not
build. -/
theorem single (named : result.unitId = unitId) (worked : result.kind ≠ .skipped)
    (broken : cancelled = false → result.kind = .compilerError)
    (spared : ∀ id, id ≠ unitId → after.snapshot? id = before.snapshot? id) :
    Covers { results := [result], cancelled, aborted := !cancelled } (unitId :: order) before
      after where
  inOrder := by simp [named]
  untouched id silent := spared id fun own =>
    worked (silent result (List.mem_singleton_self _) (named.trans own.symm))
  building _ member := absurd member List.not_mem_nil
  aborted := by simpa using broken
  complete running goesOn := by simp_all

/-- A run that goes on after its first unit. -/
theorem cons (named : result.unitId = unitId) (builds : result.kind ≠ .compilerError)
    (spared : ∀ id, (id = unitId → result.kind = .skipped) →
      middle.snapshot? id = before.snapshot? id)
    (rest : report.Covers order middle after) :
    Covers { report with results := result :: report.results } (unitId :: order) before after where
  inOrder := by simpa [named] using rest.inOrder
  untouched id silent := by
    obtain ⟨first, others⟩ := List.forall_mem_cons.mp silent
    exact (rest.untouched id others).trans
      (spared id fun own => first (named.trans own.symm))
  building := by
    cases later : report.results with
    | nil => simp
    | cons second others =>
      rw [List.dropLast_cons_cons]
      exact List.forall_mem_cons.mpr ⟨builds, later ▸ rest.building⟩
  aborted := by
    refine rest.aborted.trans (and_congr_right fun _ => ?_)
    cases later : report.results with
    | nil => simpa using builds
    | cons second others => rw [List.getLast?_cons_cons]
  complete running goesOn := by
    rw [List.map_cons, named, rest.complete running goesOn]

end RunReport.Covers

theorem Callback.LeavesWorkspace.closed :
    Callback.Closed fun _ (callback : Callback σ _) => callback.LeavesWorkspace where
  answer _ _ _ := rfl
  andThen _ _ callback next first rest := by
    intro session
    have left := first session
    rw [carryOut_andThen]
    cases ran : callback.carryOut session with
    | mk answer middle =>
      rw [ran] at left
      cases answer with
      | ok value => exact (rest value middle).trans left
      | error failure => exact left
  defer _ _ _ _ rest session := rest _

namespace Engine

open Run Session

variable {engine : Engine σ} {unitId : String} {session last : Session σ} {result : UnitResult}
  {total position : Nat} {order : List String} {state final : RunState} {stops : List (Stop σ)}

theorem StatelessPlugins.leavesWorkspace (plugins : engine.StatelessPlugins) :
    engine.LeavesWorkspace := by
  have leaves {α : Type} {callback : Callback σ α} (stateless : callback.IsStateless) :
      callback.LeavesWorkspace := by
    obtain ⟨answer, answers⟩ := stateless
    exact fun session => (answers session).2
  exact {
    compiler := fun unit => leaves (plugins.compiler unit)
    analyzers := fun analyzer member unit => leaves (plugins.analyzers analyzer member unit)
    offers := fun fixer able diagnostic unit candidate offered =>
      leaves (plugins.offers fixer able diagnostic unit candidate offered)
    fixAll := fun fixer able context => leaves (plugins.fixAll fixer able context) }

/-- The result of a unit that was worked on is its own. -/
theorem fixUnit_names (ran : engine.fixUnit unitId session = .ok result last) :
    result.unitId = unitId ∧ result.kind ≠ .skipped := by
  rw [fixUnit_eq] at ran
  obtain ⟨unit, _, fetched, ran⟩ := bind_eq_ok.mp ran
  obtain ⟨found, rfl⟩ := snapshot_eq_ok.mp fetched
  have own := Workspace.id_of_snapshot? found
  obtain ⟨_, _, learnt, ran⟩ := bind_eq_ok.mp ran
  split at ran
  · obtain ⟨_, _, noted, ran⟩ := bind_eq_ok.mp ran
    obtain ⟨rfl, -⟩ := pure_eq_ok.mp ran
    exact ⟨own, nofun⟩
  · split at ran
    · obtain ⟨_, _, noted, ran⟩ := bind_eq_ok.mp ran
      obtain ⟨rfl, -⟩ := pure_eq_ok.mp ran
      exact ⟨own, nofun⟩
    · obtain ⟨⟨progress, ending⟩, _, fixed, ran⟩ := bind_eq_ok.mp ran
      obtain ⟨_, _, noted, ran⟩ := bind_eq_ok.mp ran
      obtain ⟨rfl, -⟩ := pure_eq_ok.mp ran
      refine ⟨own, ?_⟩
      change ending.kind ≠ .skipped
      cases ending <;> nofun

theorem fixUnit_spares (aloof : engine.LeavesWorkspace)
    (ran : engine.fixUnit unitId session = .ok result last) : session.Spares unitId last := by
  have heeds := fixUnit_heeds aloof unitId session
  rw [ran, final_ok] at heeds
  obtain ⟨news, follows, prompt, -⟩ := heeds
  intro other different
  refine follows.untouched other (List.countP_eq_zero.mpr fun event member => ?_)
  simp [prompt.own event member other different]

theorem offer_spares (start : Session σ) {unit : SourceUnit} (own : unit.id = unitId)
    (edits : List TextEdit) :
    (offer unit edits).Keeps (start.Spares unitId) fun _ _ => True := by
  refine .of_final (fun now spared => ?_) fun _ _ => trivial
  cases offered : offer unit edits now with
  | error fault last =>
    obtain rfl := offer_eq_error offered
    exact spared
  | ok landed last =>
    obtain ⟨workspace, tried, rfl⟩ := offer_eq_ok.mp offered
    subst own
    intro other different
    cases landed with
    | false =>
      obtain rfl := Workspace.eq_of_tryEdit_rejected tried
      exact spared other different
    | true =>
      obtain ⟨_, _, -, -, -, -, others⟩ := Workspace.snapshot?_of_landed tried
      exact (others other different).trans (spared other different)

theorem finishUnit_spares
    (format : ∀ unit document, (engine.formatter.format unit document).LeavesWorkspace)
    (ran : engine.finishUnit unitId session = .ok () last) : session.Spares unitId last := by
  have called (unit : SourceUnit) :
      (call (Formatting.edits engine.formatter unit)).Keeps (session.Spares unitId)
        fun _ _ => True := by
    refine .of_final (fun now spared => ?_) fun _ _ => trivial
    have left := Callback.LeavesWorkspace.closed.formats format unit now
    rw [final_call]
    exact fun other different => by rw [left, spared other different]
  have keeps : (engine.finishUnit unitId).Keeps (session.Spares unitId) fun _ _ => True :=
    finishUnit_keeps (fun _ _ _ spared => spared) (Keeps.snapshot fun _ _ => trivial)
      (fun unit edits own => offer_spares session own edits) called
  exact keeps.of_ok (fun _ _ => rfl) ran

/-- The rest of a run is accounted for by the results that it adds. -/
theorem Tour.covers (tour : engine.Tour total position order state session stops final last)
    (aloof : engine.LeavesWorkspace)
    (format : ∀ unit document, (engine.formatter.format unit document).LeavesWorkspace)
    (running : state.cancelled = false) (going : state.aborted = false) :
    ∃ results, final.results = state.results ++ results ∧
      RunReport.Covers { results, cancelled := final.cancelled, aborted := final.aborted } order
        session.workspace last.workspace := by
  induction tour with
  | done =>
    refine ⟨[], (List.append_nil _).symm, ?_⟩
    rw [going]
    exact .nil _ fun _ => rfl
  | cancelled requested =>
    refine ⟨[], (List.append_nil _).symm, ?_⟩
    rw [going]
    exact .nil _ nofun
  | skipped _ found _ later ih =>
    obtain ⟨results, added, covers⟩ := ih running going
    refine ⟨_ :: results, added.trans (List.append_assoc ..), ?_⟩
    exact covers.cons (Workspace.id_of_snapshot? found) (by simp) fun _ _ => rfl
  | interrupted _ _ _ fixed requested =>
    obtain ⟨named, worked⟩ := fixUnit_names fixed
    have spared := fixUnit_spares aloof fixed
    refine ⟨[_], rfl, ?_⟩
    dsimp only [RunState.add]
    rw [going]
    exact .single named worked nofun spared
  | aborted _ _ _ fixed still broken =>
    obtain ⟨named, worked⟩ := fixUnit_names fixed
    have spared := fixUnit_spares aloof fixed
    refine ⟨[_], rfl, ?_⟩
    dsimp only [RunState.add]
    rw [running]
    exact .single named worked (fun _ => broken) spared
  | next _ _ _ fixed still builds finishing later ih =>
    obtain ⟨named, worked⟩ := fixUnit_names fixed
    have spared := (fixUnit_spares aloof fixed).trans (finishUnit_spares format finishing)
    obtain ⟨results, added, covers⟩ := ih running going
    refine ⟨_ :: results, added.trans (List.append_assoc ..), ?_⟩
    exact covers.cons named builds fun id own => spared id fun same => worked (own same)

/-- The units of a workspace stay the same ones through a run, however it ends. -/
theorem remediate_continues (engine : Engine σ) (requested : Option (List String))
    (session : Session σ) :
    session.workspace.Continues (Run.final (engine.remediate requested session)).workspace := by
  have stable := Session.continues_stable (σ := σ) session.workspace
  have noted (event : Event) (_ : event.isEffect = false) := stable.note event
  have fixes (unitId : String) :
      engine.Fixes unitId (fun now => session.workspace.Continues now.workspace)
        fun fault _ => fault ≠ .cancelled := .of_stable stable
  have fixed (order : List String) (_ : session.workspace.order requested = .ok order) :=
    fixUnits_keeps noted (fun unitId _ => (fixes unitId).snapshot)
      (fun unitId (_ : unitId ∈ order) => (fixes unitId).fixUnit_keeps)
      (fun unitId _ => finishUnit_keeps noted (fixes unitId).snapshot (fixes unitId).offer
        fun _ => stable.call _ fun _ _ _ _ _ => nofun) order.length 1 {}
  have kept := final_remediate noted (.refl session.workspace) fixed
  exact kept

/-- A run touches only what it reports, if no plugin edits the workspace itself: the results follow
the order of the requested units, of which there is one for each if nothing ended the run early, and
only units with a result that is not of a skipped one can have another snapshot. -/
theorem remediate_touches {requested : Option (List String)} {report : RunReport}
    (aloof : engine.LeavesWorkspace)
    (format : ∀ unit document, (engine.formatter.format unit document).LeavesWorkspace)
    (ran : engine.remediate requested session = .ok report last) :
    ∃ order, session.workspace.order requested = .ok order ∧
      report.Covers order session.workspace last.workspace ∧
      (report.cancelled = false → report.aborted = false →
        ∀ id ∈ requested.getD session.workspace.ids,
          (report.results.map (·.unitId)).count id = 1) ∧
      session.workspace.Continues last.workspace := by
  obtain ⟨order, stops, final, finished, ordered, tour, results, cancelled, aborted, rfl⟩ :=
    remediate_of_ok ran
  obtain ⟨added, known, covers⟩ := tour.covers aloof format rfl rfl
  have covers : report.Covers order session.workspace finished.workspace := by
    rw [List.nil_append] at known
    cases report
    subst results cancelled aborted known
    exact { covers with }
  refine ⟨order, ordered, covers, fun running going id asked => ?_, ?_⟩
  · rw [covers.complete running going]
    exact List.count_eq_one_of_mem (Workspace.nodup_order ordered)
      ((Workspace.mem_order ordered id).mpr asked)
  · have continued := engine.remediate_continues requested session
    rwa [ran] at continued

end Engine

namespace Excluding

/-! The plugins that open a bracket, which leave out one of three units and break the next one. -/

def engine : Engine Unit :=
  { Opening.engine with config := { (default : Config) with excludeUnits := ["a"] } }

def session : Session Unit where
  workspace := { units := ["a", "b", "c"].map fun id => ⟨Opening.source id, Opening.source id⟩ }
  memory := ()

theorem remediate_touches_excluding :
    ∃ report last, engine.remediate none session = .ok report last ∧
      report.results.map (fun result => (result.unitId, result.kind)) =
        [("a", .skipped), ("b", .compilerError)] ∧
      last.workspace.snapshot? "b" ≠ session.workspace.snapshot? "b" ∧
      last.workspace.snapshot? "a" = session.workspace.snapshot? "a" ∧
      last.workspace.snapshot? "c" = session.workspace.snapshot? "c" ∧
      session.workspace.Continues last.workspace := by
  have evaluated : Run.peek? (fun report last =>
      (report.results.map fun result => (result.unitId, result.kind),
        (last.workspace.snapshot? "b").map (·.version)))
      (engine.remediate none session) =
        some ([("a", .skipped), ("b", .compilerError)], some 1) := by cbv
  obtain ⟨report, last, ran, seen⟩ := Run.peek?_eq_some.mp evaluated
  obtain ⟨results, landed⟩ := by simpa only [Prod.mk.injEq] using seen
  have plain := Opening.statelessPlugins
  have aloof : engine.LeavesWorkspace := Engine.StatelessPlugins.leavesWorkspace {
    compiler := plain.compiler
    analyzers := plain.analyzers
    offers := plain.offers
    fixAll := plain.fixAll }
  obtain ⟨order, -, covers, -, continues⟩ := Engine.remediate_touches aloof (fun _ _ _ => rfl) ran
  have silent {id : String} (apart : id ≠ "b") :
      last.workspace.snapshot? id = session.workspace.snapshot? id := by
    refine covers.untouched id fun result member named => ?_
    have among : (result.unitId, result.kind) ∈ [("a", UnitKind.skipped), ("b", .compilerError)] :=
      results ▸ List.mem_map_of_mem member
    subst named
    simp only [List.mem_cons, Prod.mk.injEq, List.not_mem_nil, or_false] at among
    exact (among.resolve_right fun second => apart second.1).2
  refine ⟨report, last, ran, results, fun same => ?_, silent (by decide), silent (by decide),
    continues⟩
  rw [same] at landed
  exact absurd landed (by decide)

end Excluding

end FixLoop
