import FixLoop.Proofs.Findings
import FixLoop.Proofs.Plugin.Letters
import FixLoop.Proofs.Session.Calling
import FixLoop.Proofs.Session.Halting
import FixLoop.Proofs.Session.Stateless
import Mathlib

/-!
Runs without batches. If there is no batch size, a pass leaves nothing for another one to fix, so
only edits that were refused lead to a second pass, and from there none leads to a third. This is so
whatever plugins answer, and whatever they do to the workspace meanwhile; hence no limit is needed
for passes, and all runs come to an end.
-/

namespace FixLoop

/-- Whether an event tells of an edit set of an engine that landed. -/
def Event.isOwnLanding : Event → Bool
  | edited author _ _ _ landed => author == .session && landed
  | _ => false

theorem Event.isOwnLanding_of_isQuiet {event : Event} (quiet : event.isQuiet = true) :
    event.isOwnLanding = false := by
  cases event with
  | edited author unitId version edits landed =>
    cases landed with
    | false => simp [isOwnLanding]
    | true => simp [isQuiet] at quiet
  | _ => rfl

theorem Event.isOwnLanding_of_isOfPlugin {event : Event} (own : event.isOfPlugin = true) :
    event.isOwnLanding = false := by
  cases event with
  | edited author unitId version edits landed =>
    obtain rfl : author = .plugin := by simpa [isOfPlugin] using own
    rfl
  | _ => rfl

/-- Among events that tell of none, no edit set of an engine landed. -/
theorem countP_isOwnLanding_eq_zero {news : List Event}
    (none : ∀ event ∈ news, event.isOwnLanding = false) : news.countP (·.isOwnLanding) = 0 :=
  List.countP_eq_zero.mpr fun event member => by simp [none event member]

namespace Engine

open Run Session

variable {σ : Type} {engine : Engine σ} {unitId id : String} {catalog : Catalog σ}
  {state next : PassState} {session last : Session σ} {count : Nat} {outcome : FixOutcome}
  {result : EStateM.Result Fault (Session σ) FixOutcome}

/-- A pass counts what it lands, which is one edit set at most. -/
theorem pass_lands (engine : Engine σ) (unitId : String) (catalog : Catalog σ) (id : String)
    (state : PassState) (session : Session σ) :
    ∃ news, session.Follows (final (engine.pass unitId catalog id state session)) news ∧
      news.countP (·.isOwnLanding) ≤ 1 ∧
      ∀ value last, engine.pass unitId catalog id state session = .ok value last →
        value.batches = state.batches + news.countP (·.isOwnLanding) := by
  obtain ⟨reached, reaches, ends⟩ :=
    (engine.withPlugins catalog).pass_ends unitId catalog id state session
  obtain ⟨earlier, follows, none⟩ := reaches.grows
    (.of_own _ fun _ => Event.isOwnLanding_of_isOfPlugin) (fun _ => Event.isOwnLanding_of_isQuiet)
    (List.Subset.refl _) (List.Subset.refl _)
  have before := countP_isOwnLanding_eq_zero none
  change Ends id unitId state reached (engine.pass unitId catalog id state session) at ends
  generalize engine.pass unitId catalog id state session = result at ends
  cases ends with
  | refused grown counted =>
    obtain ⟨later, goesOn, refusals⟩ := grown
    have after := countP_isOwnLanding_eq_zero fun event member =>
      Event.isOwnLanding_of_isQuiet (Event.isQuiet_of_isRefusal (refusals event member))
    refine ⟨_, follows.trans goesOn, ?_⟩
    rw [List.countP_append, before, after]
    exact ⟨Nat.zero_le _, counted⟩
  | landed lands counted =>
    obtain ⟨title, name, version, edits, goesOn⟩ := lands
    refine ⟨_, follows.trans goesOn, ?_⟩
    rw [List.countP_append, before]
    refine ⟨le_refl _, fun value last ran => ?_⟩
    cases ran
    exact counted

theorem pass_lands_of_error {fault : Fault}
    (ran : engine.pass unitId catalog id state session = .error fault last) :
    ∃ news, session.Follows last news ∧ news.countP (·.isOwnLanding) ≤ 1 := by
  obtain ⟨news, follows, once, -⟩ := engine.pass_lands unitId catalog id state session
  rw [ran] at follows
  exact ⟨news, follows, once⟩

theorem pass_lands_of_ok {value : PassResult}
    (ran : engine.pass unitId catalog id state session = .ok value last) :
    ∃ news, session.Follows last news ∧ news.countP (·.isOwnLanding) ≤ 1 ∧
      value.batches = state.batches + news.countP (·.isOwnLanding) := by
  obtain ⟨news, follows, once, counted⟩ := engine.pass_lands unitId catalog id state session
  rw [ran] at follows
  exact ⟨news, follows, once, counted _ _ ran⟩

/-- Passes that end without a fault have counted what landed. -/
theorem Passes.counts (passes : engine.Passes unitId catalog id count state session result) :
    ∃ news, session.Follows (final result) news ∧ ∀ outcome last, result = .ok outcome last →
      outcome.batches = state.batches + news.countP (·.isOwnLanding) := by
  induction passes with
  | failed ran =>
    obtain ⟨news, follows, -⟩ := pass_lands_of_error ran
    exact ⟨news, follows, fun _ _ => nofun⟩
  | done ran =>
    obtain ⟨news, follows, -, counted⟩ := pass_lands_of_ok ran
    refine ⟨news, follows, fun other after same => ?_⟩
    cases same
    exact counted
  | @again _ _ next _ _ _ ran later ih =>
    obtain ⟨earlier, follows, -, counted⟩ := pass_lands_of_ok ran
    obtain ⟨news, goesOn, counts⟩ := ih
    refine ⟨_, follows.trans goesOn, fun outcome last same => ?_⟩
    have first : next.batches = _ := counted
    rw [counts outcome last same, first, List.countP_append]
    omega

/-- A pass with nothing to compare its report with does not stall. -/
theorem pass_not_stalled (forgotten : state.previous = [])
    (ran : engine.pass unitId catalog id state session = .ok (.done outcome) last) :
    outcome.ending.status ≠ .stalled := by
  have step := pass_of_ok ran
  generalize same : PassResult.done outcome = result at step
  cases step with
  | broken inspected blocked =>
    cases same
    exact nofun
  | cleared inspected builds empty =>
    cases same
    dsimp only
    split <;> exact nofun
  | stalled inspected builds found repeated =>
    rw [forgotten, Diagnostic.not_sameFindings_nil found] at repeated
    cases repeated
  | acted inspected builds found fresh fixed =>
    cases fixed with
    | rejected chose edits offered =>
      unfold afterConflict at same
      split at same <;> cases same
      exact nofun
    | landed chose edits offered =>
      unfold afterLanding at same
      split at same <;> cases same
      exact nofun
    | _ =>
      cases same
      exact nofun

section

variable (unbatched : engine.config.batchSize = 0)

include unbatched

/-- Only a first rejection is followed by another pass, which starts afresh. -/
theorem again_of_unbatched
    (ran : engine.pass unitId catalog id state session = .ok (.again next) last) :
    state.retried = false ∧
      next = { previous := [], batches := state.batches, retried := true } := by
  have step := pass_of_ok ran
  generalize same : PassResult.again next = result at step
  cases step with
  | acted inspected builds found fresh fixed =>
    cases fixed with
    | rejected chose edits offered =>
      unfold afterConflict at same
      split at same
      · cases same
      · next first =>
        cases same
        exact ⟨Bool.eq_false_iff.mpr first, rfl⟩
    | landed chose edits offered =>
      have whole : ∀ diagnostics, isLimited engine.config.batchSize diagnostics = false := by
        simp [isLimited, unbatched]
      rw [afterLanding, whole] at same
      cases same
    | _ => cases same
  | _ => cases same

theorem Passes.count_le (passes : engine.Passes unitId catalog id count state session result) :
    count ≤ if state.retried then 1 else 2 := by
  induction passes with
  | failed ran => split <;> omega
  | done ran => split <;> omega
  | again ran later ih =>
    obtain ⟨first, rfl⟩ := again_of_unbatched unbatched ran
    rw [if_pos rfl] at ih
    simp only [first, Bool.false_eq_true, if_false]
    omega

/-- Nothing lands in a pass that is followed by another. -/
theorem Passes.lands_once (passes : engine.Passes unitId catalog id count state session result) :
    ∃ news, session.Follows (final result) news ∧ news.countP (·.isOwnLanding) ≤ 1 := by
  induction passes with
  | failed ran => exact pass_lands_of_error ran
  | done ran =>
    obtain ⟨news, follows, once, -⟩ := pass_lands_of_ok ran
    exact ⟨news, follows, once⟩
  | @again _ state _ _ _ _ ran later ih =>
    obtain ⟨earlier, follows, -, counted⟩ := pass_lands_of_ok ran
    obtain ⟨news, goesOn, once⟩ := ih
    obtain ⟨-, rfl⟩ := again_of_unbatched unbatched ran
    have none : state.batches = state.batches + _ := counted
    refine ⟨_, follows.trans goesOn, ?_⟩
    rw [List.countP_append]
    omega

theorem Passes.not_stalled (passes : engine.Passes unitId catalog id count state session result)
    (forgotten : state.previous = []) :
    ∀ outcome last, result = .ok outcome last → outcome.ending.status ≠ .stalled := by
  induction passes with
  | failed ran => exact fun _ _ => nofun
  | done ran =>
    intro outcome last same
    cases same
    exact pass_not_stalled forgotten ran
  | again ran later ih =>
    obtain ⟨-, rfl⟩ := again_of_unbatched unbatched ran
    exact ih rfl

theorem exists_passes (state : PassState) (session : Session σ) :
    ∃ count result, engine.Passes unitId catalog id count state session result := by
  have ends (state : PassState) (session : Session σ)
      (again : ∀ next middle, engine.pass unitId catalog id state session =
          .ok (.again next) middle →
        ∃ count result, engine.Passes unitId catalog id count next middle result) :
      ∃ count result, engine.Passes unitId catalog id count state session result := by
    cases ran : engine.pass unitId catalog id state session with
    | error fault last => exact ⟨1, _, .failed ran⟩
    | ok result middle =>
      cases result with
      | done outcome => exact ⟨1, _, .done ran⟩
      | again next =>
        obtain ⟨count, result, later⟩ := again next middle ran
        exact ⟨count + 1, result, .again ran later⟩
  refine ends state session fun next middle ran => ends next middle fun _ _ rerun => ?_
  obtain ⟨-, rfl⟩ := again_of_unbatched unbatched ran
  cases (again_of_unbatched unbatched rerun).1

end

/-- How fixing an identifier goes without batches: there are at most two passes, of which one edit
set at most lands; and any limit of at least as many passes comes to this. -/
structure FixedOnce (engine : Engine σ) (unitId : String) (catalog : Catalog σ) (id : String)
    (session : Session σ) (result : EStateM.Result Fault (Session σ) FixOutcome) : Prop where
  twice : ∃ count ≤ 2, engine.Passes unitId catalog id count {} session result
  once : ∃ news, session.Follows (final result) news ∧ news.countP (·.isOwnLanding) ≤ 1
  reported : ∀ outcome last, result = .ok outcome last →
    outcome.batches ≤ 1 ∧ outcome.ending.status ≠ .stalled
  unlimited : ∀ limit, 2 ≤ limit →
    (engine.withLimit limit).fixDiagnostic unitId catalog id session = result

section

variable (unbatched : engine.config.batchSize = 0)

include unbatched

theorem exists_fixedOnce (unitId : String) (catalog : Catalog σ) (id : String)
    (session : Session σ) : ∃ result, engine.FixedOnce unitId catalog id session result := by
  obtain ⟨count, result, passes⟩ :
      ∃ count result, engine.Passes unitId catalog id count {} session result :=
    exists_passes unbatched {} session
  have twice : count ≤ 2 := passes.count_le unbatched
  obtain ⟨news, follows, once⟩ := passes.lands_once unbatched
  obtain ⟨_, again, counts⟩ := passes.counts
  obtain rfl := List.append_cancel_right (follows.journal.symm.trans again.journal)
  refine ⟨result, ⟨count, twice, passes⟩, ⟨news, follows, once⟩, fun outcome last ran => ?_,
    fun limit enough => ?_⟩
  · have counted : outcome.batches = 0 + _ := counts outcome last ran
    exact ⟨by omega, passes.not_stalled unbatched rfl outcome last ran⟩
  · rw [fixDiagnostic_withLimit]
    exact passes.passes_eq (twice.trans enough)

theorem fixDiagnostic_finishes {limit : Nat} (enough : 2 ≤ limit) (unitId : String)
    (catalog : Catalog σ) (id : String) :
    ((engine.withLimit limit).fixDiagnostic unitId catalog id).Finishes := by
  intro session last
  obtain ⟨result, once⟩ := exists_fixedOnce unbatched unitId catalog id session
  obtain ⟨count, -, passes⟩ := once.twice
  rw [once.unlimited limit enough]
  exact passes.finish last

/-- Without batches, fixing an identifier takes at most two passes, lands at most one edit set,
counts at most one batch and does not stall. Fixing a unit takes at most as many rounds as are
configured, each of which calls for identifiers that it found, in ascending order and each at most
once. Hence a whole run comes to an end, to the same one whatever the limit for passes, if it is two
at least. -/
theorem unbatched_halts :
    (∀ unitId catalog id session, ∃ result, engine.FixedOnce unitId catalog id session result) ∧
      (∀ unitId session, ∃ logs,
        engine.UnitCalls unitId session logs (final (engine.fixUnit unitId session)) ∧
          logs.length ≤ engine.config.maxIterations ∧
          ∀ log ∈ logs, log.called.Pairwise (· < ·) ∧
            ∀ id ∈ log.called, id ∈ log.diagnostics.map (·.id)) ∧
      ∀ requested session limit, 2 ≤ limit →
        (engine.withLimit limit).remediate requested session =
            (engine.withLimit 2).remediate requested session ∧
          ∀ last, (engine.withLimit limit).remediate requested session ≠
            .error .unfinished last := by
  refine ⟨exists_fixedOnce unbatched, fun unitId session => ?_,
    fun requested session limit enough => ⟨?_, ?_⟩⟩
  · obtain ⟨logs, calls⟩ := engine.fixUnit_calls unitId session
    exact ⟨logs, calls, calls.length_le, calls.ascending⟩
  · have same (unitId : String) (catalog : Catalog σ) (id : String) :
        (engine.withLimit limit).fixDiagnostic unitId catalog id =
          (engine.withLimit 2).fixDiagnostic unitId catalog id := by
      funext session
      obtain ⟨result, once⟩ := exists_fixedOnce unbatched unitId catalog id session
      rw [once.unlimited limit enough, once.unlimited 2 (le_refl _)]
    rw [remediate_congr same]
  · exact remediate_finishes (fixDiagnostic_finishes unbatched enough) requested session

end

end Engine

namespace Meddling

/-! A fixer that edits the workspace itself before it answers, so that its answer is out of date. -/

def offers : Offers Unit := fun diagnostic unit =>
  (Letters.replacing 'q' diagnostic unit).map fun candidate =>
    .edit unit.id unit.version [{ path := "a", start := 0, stop := 0, text := [' '] }] fun _ =>
      candidate

def engine : Engine Unit where
  analyzers := [Letters.analyzer 'p']
  fixers := [Letters.fixer offers]
  compiler := { type := "Silent", package := "plugins", compile := fun _ => .answer [] }
  formatter := Formatting.whitespace
  config := default
  passLimit := 4

def catalog : Catalog Unit := engine.catalog (Letters.source ['p'])

/-- Its edits are refused twice, and nothing lands but what the fixer does itself. One pass would
not be enough, but two are, and so is any greater limit. -/
theorem unbatched_halts_meddling :
    (∃ last, (engine.withLimit 1).fixDiagnostic "a" catalog "X1" (Letters.session ['p']) =
        .error .unfinished last) ∧
      (∃ last, (∀ limit, 2 ≤ limit → (engine.withLimit limit).fixDiagnostic "a" catalog "X1"
          (Letters.session ['p']) = .ok ⟨0, .conflict⟩ last) ∧
        last.workspace.snapshot? "a" =
          some { Letters.source [' ', ' ', 'p'] with version := 2 }) ∧
      ∀ last, engine.remediate none (Letters.session ['p']) ≠ .error .unfinished last := by
  have first : (Run.outcome ((engine.withLimit 1).fixDiagnostic "a" catalog "X1"
      (Letters.session ['p']))).1 = .error .unfinished := by cbv
  have evaluated : Run.peek? (fun outcome last => (outcome, last.workspace.snapshot? "a"))
      ((engine.withLimit 2).fixDiagnostic "a" catalog "X1" (Letters.session ['p'])) =
        some (⟨0, .conflict⟩, some { Letters.source [' ', ' ', 'p'] with version := 2 }) := by
    cbv
  obtain ⟨early, unfinished, -⟩ := Run.outcome_eq_error.mp (Prod.ext first rfl)
  obtain ⟨outcome, last, second, seen⟩ := Run.peek?_eq_some.mp evaluated
  obtain ⟨rfl, present⟩ := Prod.mk.inj seen
  obtain ⟨fixes, -, runs⟩ := @Engine.unbatched_halts Unit engine rfl
  obtain ⟨result, once⟩ := fixes "a" catalog "X1" (Letters.session ['p'])
  obtain rfl := second.symm.trans (once.unlimited 2 (le_refl _))
  exact ⟨⟨early, unfinished⟩, ⟨last, once.unlimited, present⟩,
    (runs none (Letters.session ['p']) 4 (by decide)).2⟩

end Meddling

end FixLoop
