import FixLoop.Proofs.Session.Scope
import FixLoop.Proofs.Session.Yielding

/-!
Runs made of work on units. If working on a unit that is ready leaves it done, a run over units that
are ready leaves all of them done, since work on one unit leaves the others as they are.
-/

namespace FixLoop

namespace Engine

open Run

variable {σ : Type} {engine : Engine σ} {next : SourceUnit} {unitId : String}
  {session last : Session σ}

/-- What working on a unit comes to: fixing it succeeds within some number of passes, and then it is
finished. -/
structure WorksOut (engine : Engine σ) (unitId : String) (session : Session σ)
    (result : UnitResult) (next : SourceUnit) (last : Session σ) : Prop where
  works : ∃ middle,
    ComesTo (fun limit => (engine.withLimit limit).fixUnit unitId) session result middle ∧
      middle.cancellation.isRequested = false ∧ engine.finishUnit unitId middle = .ok () last
  builds : result.kind ≠ .compilerError
  held : last.HasUnit unitId next

theorem WorksOut.spares {result : UnitResult}
    (out : engine.WorksOut unitId session result next last) (aloof : engine.LeavesWorkspace)
    (format : ∀ unit document, (engine.formatter.format unit document).LeavesWorkspace) :
    result.unitId = unitId ∧ session.Spares unitId last := by
  obtain ⟨middle, ⟨enough, fixed⟩, -, finishing⟩ := out.works
  have ran := fixed enough (Nat.le_refl _)
  have aloof : (engine.withLimit enough).LeavesWorkspace :=
    ⟨aloof.compiler, aloof.analyzers, aloof.offers, aloof.fixAll⟩
  exact ⟨(fixUnit_names ran).1,
    (fixUnit_spares aloof ran).trans (finishUnit_spares format finishing)⟩

/-- Whether working on a unit that is ready leaves it done, with a result that something is known
about. -/
structure Works (engine : Engine σ) (ready done : SourceUnit → Prop) (about : UnitResult → Prop)
    (inv : Workspace → Prop) : Prop where
  work : ∀ {unitId : String} {unit : SourceUnit} {session : Session σ},
    session.HasUnit unitId unit → ready unit → inv session.workspace →
      ∃ result next last, engine.WorksOut unitId session result next last ∧ done next ∧
        about result ∧ inv last.workspace

/-- Whether a workspace has a unit, which is as it should be if it is admitted. -/
def Provides (engine : Engine σ) (workspace : Workspace) (fits : SourceUnit → Prop)
    (id : String) : Prop :=
  ∃ unit, workspace.snapshot? id = some unit ∧
    (engine.config.admitsUnit unit.displayName = true → fits unit)

/-- What a run over units in order comes to if each of them can be worked on. -/
structure Completes (engine : Engine σ) (order : List String) (done : SourceUnit → Prop)
    (about : UnitResult → Prop) (inv : Workspace → Prop) (state final : RunState)
    (session last : Session σ) : Prop where
  running : last.cancellation.isRequested = false
  done : ∀ id ∈ order, engine.Provides last.workspace done id
  others : ∀ id, id ∉ order → last.workspace.snapshot? id = session.workspace.snapshot? id
  inv : inv last.workspace
  results : ∃ added, final.results = state.results ++ added ∧ added.map (·.unitId) = order ∧
    ∀ result ∈ added, about result

section

variable {ready done : SourceUnit → Prop} {about : UnitResult → Prop} {inv : Workspace → Prop}
  {order : List String} {state final : RunState}

theorem Completes.cons {between : Session σ} {result : UnitResult}
    (rest : engine.Completes order done about inv (state.add result) final between last)
    (apart : unitId ∉ order) (named : result.unitId = unitId) (known : about result)
    (provided : engine.Provides between.workspace done unitId)
    (spared : session.Spares unitId between) :
    engine.Completes (unitId :: order) done about inv state final session last where
  running := rest.running
  done := by
    refine List.forall_mem_cons.mpr ⟨?_, rest.done⟩
    obtain ⟨unit, found, fits⟩ := provided
    exact ⟨unit, (rest.others unitId apart).trans found, fits⟩
  others id missing := by
    obtain ⟨other, missing⟩ := List.ne_and_not_mem_of_not_mem_cons missing
    exact (rest.others id missing).trans (spared id other)
  inv := rest.inv
  results := by
    obtain ⟨added, results, names, all⟩ := rest.results
    refine ⟨result :: added, results.trans (List.append_assoc ..), ?_, ?_⟩
    · rw [List.map_cons, named, names]
    · exact List.forall_mem_cons.mpr ⟨known, all⟩

variable (works : engine.Works ready done about inv) (aloof : engine.LeavesWorkspace)
  (format : ∀ unit document, (engine.formatter.format unit document).LeavesWorkspace)
  (skipped : ∀ unitId unitName, about { unitId, unitName, kind := .skipped })
  (provided : ∀ id ∈ order, engine.Provides session.workspace ready id)
  (running : session.cancellation.isRequested = false) (holds : inv session.workspace)

include works aloof format skipped provided running holds

/-- If units that are ready can be worked on, all those of an order can. -/
theorem Works.completes (once : order.Nodup) (total position : Nat) (state : RunState) :
    ∃ stops final last enough,
      (∀ limit, enough ≤ limit →
        (engine.withLimit limit).Tour total position order state session stops final last) ∧
      engine.Completes order done about inv state final session last := by
  induction order generalizing position state session with
  | nil =>
    refine ⟨[], state, session, 0, fun _ _ => .done, running, nofun, fun _ _ => rfl, holds, [], ?_⟩
    exact ⟨(List.append_nil _).symm, rfl, nofun⟩
  | cons unitId rest ih =>
    obtain ⟨apart, once⟩ := List.nodup_cons.mp once
    obtain ⟨⟨unit, found, able⟩, provided⟩ := List.forall_mem_cons.mp provided
    -- The units that follow are as they were, since work on a unit is about that unit alone.
    have later {between : Session σ} (spared : session.Spares unitId between) :
        ∀ id ∈ rest, engine.Provides between.workspace ready id := by
      intro id member
      have other : id ≠ unitId := fun same => apart (same ▸ member)
      obtain ⟨unit, found, able⟩ := provided id member
      exact ⟨unit, (spared id other).trans found, able⟩
    cases admitted : engine.config.admitsUnit unit.displayName with
    | true =>
      have held : (session.started unit position total).HasUnit unitId unit := ⟨running, found⟩
      obtain ⟨result, next, after, out, finished, known, still⟩ :=
        works.work held (able admitted) holds
      obtain ⟨named, spared⟩ := out.spares aloof format
      obtain ⟨middle, ⟨more, fixed⟩, going, finishing⟩ := out.works
      let between : Session σ :=
        { after with journal := .unitDone unit.displayName :: after.journal }
      have present : between.workspace.snapshot? unitId = some next := out.held.present
      have spared : session.Spares unitId between := spared
      obtain ⟨stops, final, last, enough, tours, completes⟩ :=
        ih (later spared) out.held.running still once (position + 1) (state.add result)
      refine ⟨⟨unitId, result, session.started unit position total, middle⟩ :: stops, final, last,
        max more enough, fun limit large => ?_,
        completes.cons apart named known ⟨next, present, fun _ => finished⟩ spared⟩
      have ran := fixed limit (Nat.le_trans (Nat.le_max_left ..) large)
      have rests := tours limit (Nat.le_trans (Nat.le_max_right ..) large)
      exact .next running found admitted ran going out.builds finishing rests
    | false =>
      let result : UnitResult :=
        { unitId := unit.id, unitName := unit.displayName, kind := .skipped }
      let between : Session σ := { session with
        journal := .unitSkipped unit.displayName position total :: session.journal }
      have spared : session.Spares unitId between := fun _ _ => rfl
      have refused : ¬ engine.config.admitsUnit unit.displayName = true := by simp [admitted]
      obtain ⟨stops, final, last, enough, tours, completes⟩ :=
        ih (later spared) running holds once (position + 1) (state.add result)
      refine ⟨stops, final, last, enough, fun limit large => ?_,
        completes.cons apart (Workspace.id_of_snapshot? found) (skipped _ _)
          ⟨unit, found, fun set => absurd set refused⟩ spared⟩
      exact .skipped running found admitted (tours limit large)

/-- A whole run comes to a report if units that are ready can be worked on. -/
theorem Works.remediates {requested : Option (List String)}
    (ordered : session.workspace.order requested = .ok order) :
    ∃ report last,
      ComesTo (fun limit => (engine.withLimit limit).remediate requested) session report last ∧
        report.results.map (·.unitId) = order ∧ (∀ result ∈ report.results, about result) ∧
        last.cancellation.isRequested = false ∧ inv last.workspace ∧
        ∀ id ∈ order, engine.Provides last.workspace done id := by
  let begun := engine.begun session
  have provided : ∀ id ∈ order, engine.Provides begun.workspace ready id := provided
  obtain ⟨stops, final, last, enough, tours, completes⟩ :=
    works.completes aloof format skipped provided running holds (Workspace.nodup_order ordered)
      order.length 1 {}
  obtain ⟨added, results, names, all⟩ := completes.results
  obtain rfl : final.results = added := results
  exact ⟨final.report last.known, _,
    ⟨enough, fun limit large => remediate_of_tour ordered (tours limit large)⟩, names, all,
    completes.running, completes.inv, completes.done⟩

end

end Engine

end FixLoop
