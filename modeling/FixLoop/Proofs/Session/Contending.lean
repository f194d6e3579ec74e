import FixLoop.Formatting
import FixLoop.Proofs.Plugin.Letters
import FixLoop.Proofs.Session.Halting
import FixLoop.Proofs.Session.Journal
import Mathlib

/-!
Contention. While passes are made over an identifier, others may edit the workspace too: plugins
when they are called, and rivals between the steps of a pass. Edits of the passes are then refused
if the unit has moved on since its snapshot was fetched. One refusal makes no difference; it takes a
second one for the passes to end in a conflict, and two rivals for that unless edits do not fit.
-/

namespace FixLoop

namespace Event

/-- Whether an event tells of an edit set that an engine offered. -/
def isOffer : Event → Bool
  | edited author .. => author == .session
  | _ => false

/-- Whether an event tells of an edit set that landed on a unit, and that no engine offered. -/
def isRival (unitId : String) (event : Event) : Bool := event.landsOn unitId && !event.isOffer

theorem isOffer_of_isOfPlugin {event : Event} (own : event.isOfPlugin = true) :
    event.isOffer = false := by
  cases event with
  | edited author unitId version edits landed =>
    obtain rfl : author = .plugin := by simpa [isOfPlugin] using own
    rfl
  | _ => rfl

theorem isOffer_of_isRemark {event : Event} (remark : event.isRemark = true) :
    event.isOffer = false := by
  cases event <;> first | rfl | cases remark

theorem isOffer_of_tellsOfReading {event : Event} {unit : SourceUnit}
    (tells : event.TellsOfReading unit) : event.isOffer = false := by
  cases event <;> first | rfl | cases tells

theorem isOffer_of_tellsOfSelecting {event : Event} {unit : SourceUnit} {id : String}
    {batch : List Diagnostic} (tells : event.TellsOfSelecting unit id batch) :
    event.isOffer = false := by
  cases event <;> first | rfl | cases tells

end Event

/-- Whether a workspace accepts edits that were computed from a snapshot. -/
def Workspace.accepts (workspace : Workspace) (unit : SourceUnit) (edits : List TextEdit) : Bool :=
  match workspace.tryEdit unit.id unit.version edits with
  | .ok (landed, _) => landed
  | .error _ => false

/-- Whether a session follows another one while no engine offers anything. -/
def Session.Drifts {σ : Type} (start now : Session σ) : Prop :=
  start.Grows (fun event => event.isOffer = false) now

/-- What others do in the course of a pass, before each of its steps. -/
structure Rivals (σ : Type) where
  fetching : Callback σ Unit := .answer ()
  examining : Callback σ Unit := .answer ()
  choosing : Callback σ Unit := .answer ()
  offering : Callback σ Unit := .answer ()

/-- An action that a pass offered to the workspace, with the sessions in which it fetched the
snapshot, offered the edits and went on. -/
structure Attempt (σ : Type) where
  unit : SourceUnit
  action : FixAction
  fetched : Session σ
  offered : Session σ
  after : Session σ

namespace Attempt

variable {σ : Type}

def landed (attempt : Attempt σ) : Bool :=
  attempt.offered.workspace.accepts attempt.unit attempt.action.edits

/-- What the journal tells of an attempt. -/
def event (attempt : Attempt σ) : Event :=
  .edited .session attempt.unit.id attempt.unit.version attempt.action.edits attempt.landed

/-- Whether the action of an attempt is what a fixer made of its snapshot. -/
def IsComputed (catalog : Catalog σ) (id : String) (attempt : Attempt σ) : Prop :=
  ∃ fixer ∈ catalog.fixersOf id, ∃ key batch before after,
    (fixer.fixAll { unit := attempt.unit, id, key, diagnostics := batch }).carryOut before =
      (.ok (some attempt.action), after)

/-- Whether an attempt is for a snapshot of a unit, and touches nothing else. -/
structure IsExact (unitId : String) (catalog : Catalog σ) (id : String) (attempt : Attempt σ) :
    Prop where
  fetched : attempt.fetched.workspace.snapshot? unitId = some attempt.unit
  computed : attempt.IsComputed catalog id
  refused : attempt.landed = false → attempt.after.workspace = attempt.offered.workspace
  landed : attempt.landed = true →
    attempt.offered.workspace.snapshot? unitId = some attempt.unit ∧
      ∃ next, attempt.unit.withEdits attempt.action.edits = .ok next ∧
        attempt.after.workspace.snapshot? unitId = some next ∧
        ∀ other, other ≠ unitId →
          attempt.after.workspace.snapshot? other = attempt.offered.workspace.snapshot? other

/-- Whether an attempt is made in a pass that starts with a session. -/
structure IsMade (unitId : String) (catalog : Catalog σ) (id : String)
    (session : Session σ) (attempt : Attempt σ) : Prop where
  started : session.Drifts attempt.fetched
  fetched : attempt.fetched.workspace.snapshot? unitId = some attempt.unit
  computed : attempt.IsComputed catalog id
  meanwhile : attempt.fetched.Drifts attempt.offered
  tried : attempt.offered.workspace.tryEdit attempt.unit.id attempt.unit.version
    attempt.action.edits = .ok (attempt.landed, attempt.after.workspace)
  noted : ∃ notes, attempt.offered.Follows attempt.after (notes ++ [attempt.event]) ∧
    ∀ event ∈ notes, event.isOffer = false

/-- Whether the edits of an attempt can be made to the snapshot that they were computed from. -/
def Fits (attempt : Attempt σ) : Prop :=
  ∃ next, attempt.unit.withEdits attempt.action.edits = .ok next

namespace IsMade

variable {unitId id : String} {catalog : Catalog σ} {session : Session σ} {attempt : Attempt σ}

theorem id_eq (made : attempt.IsMade unitId catalog id session) : attempt.unit.id = unitId :=
  Workspace.id_of_snapshot? made.fetched

/-- Edits that are refused change nothing, and since versions only grow, those that land do so in
the snapshot that they were computed from. -/
theorem isExact (made : attempt.IsMade unitId catalog id session) :
    attempt.IsExact unitId catalog id where
  fetched := made.fetched
  computed := made.computed
  refused refused := by
    have tried := made.tried
    rw [refused] at tried
    exact Workspace.eq_of_tryEdit_rejected tried
  landed landed := by
    have tried := made.tried
    have present := made.fetched
    have own := made.id_eq
    subst own
    rw [landed] at tried
    obtain ⟨next, standing, edited, replaced, others⟩ := made.meanwhile.landed present tried
    exact ⟨standing, next, edited, replaced, others⟩

/-- Edits that would fit are refused only if a rival was faster. -/
theorem countP_landsOn_pos (made : attempt.IsMade unitId catalog id session) (fits : attempt.Fits)
    {news : List Event} (follows : attempt.fetched.Follows attempt.offered news)
    (refused : attempt.landed = false) : 0 < news.countP (·.landsOn unitId) := by
  by_contra none
  have standing := (follows.untouched unitId (by omega)).trans made.fetched
  obtain ⟨next, fits⟩ := fits
  have own := made.id_eq
  subst own
  have lands := Workspace.tryEdit_eq_landed.mpr ⟨attempt.unit, next, standing, rfl, fits, rfl⟩
  have tried := made.tried
  rw [refused, lands] at tried
  cases tried

end IsMade

end Attempt

namespace Engine

open Run Session

variable {σ α β : Type}

/-! ### Passes amid rivals -/

/-- A step before which others act. -/
def amid (others : Callback σ Unit) (step : Run σ α) : Run σ α := do
  let _ ← attempt others
  step

/-- Fetches the latest snapshot of a unit, unless cancellation is requested. -/
def fetch (unitId : String) : Run σ (Session σ × SourceUnit) := do
  checkCancelled
  let unit ← snapshot unitId
  return (← get, unit)

/-- What passes come to if there is nothing to fix, or no fixing it. -/
def settled? (state : PassState) (survey : Survey) : Option FixOutcome :=
  if !survey.errors.isEmpty then some ⟨state.batches, .buildFailed survey.errors⟩
  else if survey.diagnostics.isEmpty then
    some ⟨state.batches, if state.batches = 0 then .nothingToFix else .fixed⟩
  else if Diagnostic.sameFindings survey.diagnostics state.previous then
    some ⟨state.batches, .stalled survey.diagnostics.length⟩
  else none

/-- The attempt that is made of what was chosen, if that has edits. -/
def attemptOf (unit : SourceUnit) (fetched offered after : Session σ) :
    Except Ambiguity (Option FixAction) → Option (Attempt σ)
  | .ok (some action) =>
    if action.edits.isEmpty then none else some { unit, action, fetched, offered, after }
  | _ => none

/-- A step that offers what was chosen, with a record of the attempt. -/
def record (fetched : Session σ) (unit : SourceUnit)
    (answer : Except Ambiguity (Option FixAction)) (step : Run σ PassResult) :
    Run σ (Option (Attempt σ) × PassResult) := do
  let offered ← get
  let result ← step
  return (attemptOf unit fetched offered (← get) answer, result)

/-- A pass in whose course others act. -/
def passAmid (engine : Engine σ) (rivals : Rivals σ) (unitId : String) (catalog : Catalog σ)
    (id : String) (state : PassState) : Run σ (Option (Attempt σ) × PassResult) := do
  let (fetched, unit) ← amid rivals.fetching (fetch unitId)
  let survey ← amid rivals.examining <|
    engine.examine unit (engine.occurrences unit catalog id)
  match settled? state survey with
  | some outcome => return (none, .done outcome)
  | none =>
    let answer ← amid rivals.choosing <|
      engine.choice survey.unit catalog id (batchOf engine.config.batchSize survey.diagnostics)
    amid rivals.offering <| record fetched survey.unit answer <|
      commit survey.unit id (isLimited engine.config.batchSize survey.diagnostics)
        survey.diagnostics state answer

/-- Passes over an identifier in whose course others act, with all attempts to land edits. They may
be given up at any time. -/
inductive Contested (engine : Engine σ) (unitId : String) (catalog : Catalog σ) (id : String) :
    PassState → Session σ → List (Attempt σ) → EStateM.Result Fault (Session σ) FixOutcome →
      Prop where
  | givenUp {state : PassState} {session : Session σ} :
    Contested engine unitId catalog id state session [] (.error .unfinished session)
  | failed {state : PassState} {session last : Session σ} {fault : Fault} {rivals : Rivals σ}
      (ran : engine.passAmid rivals unitId catalog id state session = .error fault last) :
    Contested engine unitId catalog id state session [] (.error fault last)
  | done {state : PassState} {session last : Session σ} {outcome : FixOutcome}
      {rivals : Rivals σ} {attempt? : Option (Attempt σ)}
      (ran : engine.passAmid rivals unitId catalog id state session =
        .ok (attempt?, .done outcome) last) :
    Contested engine unitId catalog id state session attempt?.toList (.ok outcome last)
  | again {state next : PassState} {session middle : Session σ} {rivals : Rivals σ}
      {attempt? : Option (Attempt σ)} {attempts : List (Attempt σ)}
      {result : EStateM.Result Fault (Session σ) FixOutcome}
      (ran : engine.passAmid rivals unitId catalog id state session =
        .ok (attempt?, .again next) middle)
      (later : Contested engine unitId catalog id next middle attempts result) :
    Contested engine unitId catalog id state session (attempt?.toList ++ attempts) result

variable {engine : Engine σ} {unitId id : String} {catalog : Catalog σ} {unit : SourceUnit}
  {state next : PassState} {session last : Session σ} {rivals : Rivals σ}
  {diagnostics : List Diagnostic} {result : EStateM.Result Fault (Session σ) FixOutcome}
  {attempts : List (Attempt σ)}

theorem settle_eq (engine : Engine σ) (catalog : Catalog σ) (id : String) (state : PassState)
    (survey : Survey) :
    engine.settle catalog id state survey =
      match settled? state survey with
      | some outcome => return .done outcome
      | none => engine.fixBatch survey.unit catalog id survey.diagnostics state := by
  unfold settle settled?
  split
  · rfl
  split
  · rfl
  split <;> rfl

theorem amid_idle (step : Run σ α) : amid (.answer ()) step = step := rfl

theorem map_record (fetched : Session σ) (unit : SourceUnit)
    (answer : Except Ambiguity (Option FixAction)) (step : Run σ PassResult) :
    Prod.snd <$> record fetched unit answer step = step := by
  simp only [record, map_bind, map_pure]
  exact bind_pure step

/-- Where nobody else acts, a pass is a pass. -/
theorem map_passAmid (engine : Engine σ) (unitId : String) (catalog : Catalog σ) (id : String)
    (state : PassState) :
    Prod.snd <$> engine.passAmid {} unitId catalog id state =
      engine.pass unitId catalog id state := by
  rw [pass_eq]
  simp only [passAmid, amid_idle, map_bind, inspect, fetch, bind_assoc, pure_bind]
  congr 1
  funext _
  congr 1
  funext unit fetched
  refine congrFun (congrArg (engine.examine unit _ >>= ·) (funext fun survey => ?_)) fetched
  rw [settle_eq]
  cases settled? state survey with
  | some outcome => rfl
  | none => simp only [map_bind, map_record, fixBatch_eq]

/-! ### What a pass amid rivals comes to -/

variable {others : Callback σ Unit} {step : Run σ α}

theorem drifts_amid (others : Callback σ Unit)
    (drifts : ∀ session : Session σ, session.Drifts (final (step session))) (session : Session σ) :
    session.Drifts (final (amid others step session)) :=
  (others.notes (fun _ => Event.isOffer_of_isOfPlugin) session).trans (drifts _)

theorem snapshot_of_fetch {fetched : Session σ}
    (ran : fetch unitId session = .ok (fetched, unit) last) :
    fetched = last ∧ last.workspace.snapshot? unitId = some unit := by
  obtain ⟨_, _, checked, ran⟩ := bind_eq_ok.mp ran
  obtain ⟨-, rfl⟩ := checkCancelled_eq_ok.mp checked
  obtain ⟨unit, _, found, ran⟩ := bind_eq_ok.mp ran
  obtain ⟨present, rfl⟩ := snapshot_eq_ok.mp found
  cases ran
  exact ⟨rfl, present⟩

theorem drifts_fetch (unitId : String) (session : Session σ) :
    session.Drifts (final (fetch unitId session)) := by
  refine final_bind (fun fault last failed => ?_) fun _ middle checked => ?_
  · unfold checkCancelled at failed
    split at failed <;> cases failed
    exact .refl _
  · obtain ⟨-, rfl⟩ := checkCancelled_eq_ok.mp checked
    refine final_bind (fun fault last failed => ?_) fun unit middle fetched => ?_
    · rw [snapshot_eq_error failed]
      exact .refl _
    · obtain ⟨-, rfl⟩ := snapshot_eq_ok.mp fetched
      exact .refl _

theorem drifts_examine (engine : Engine σ) (unit : SourceUnit) (catalog : Catalog σ) (id : String)
    (session : Session σ) :
    session.Drifts (final (engine.examine unit (engine.occurrences unit catalog id) session)) := by
  have plugins : (engine.withPlugins catalog).PluginsNote fun event => event.isOffer = false :=
    .of_own _ fun _ => Event.isOffer_of_isOfPlugin
  have grows ⦃before after : Session σ⦄ : session.Drifts before →
      before.Grows (fun event => event.isOffer = false) after → session.Drifts after := Grows.trans
  have reads : (engine.withPlugins catalog).Reads unit fun _ step =>
      step.Keeps session.Drifts fun _ _ => True :=
    plugins.reads grows (fun _ => Event.isOffer_of_tellsOfReading) fun _ _ => trivial
  exact (reads.examine_good (reads.occurrences_good (List.Subset.refl _) id)).final (.refl session)

theorem drifts_choice (engine : Engine σ) (unit : SourceUnit) (catalog : Catalog σ) (id : String)
    (batch : List Diagnostic) (session : Session σ) :
    session.Drifts (final (engine.choice unit catalog id batch session)) :=
  have plugins : (engine.withPlugins catalog).PluginsNote fun event => event.isOffer = false :=
    .of_own _ fun _ => Event.isOffer_of_isOfPlugin
  plugins.choice_grows (fun _ => Event.isOffer_of_isRemark)
    (fun _ => Event.isOffer_of_tellsOfSelecting) (List.Subset.refl _) session

/-- How a pass amid rivals ends. -/
inductive PassEnd (unitId : String) (catalog : Catalog σ) (id : String) (state : PassState)
    (session : Session σ) :
    EStateM.Result Fault (Session σ) (Option (Attempt σ) × PassResult) → Prop where
  | failed {fault : Fault} {last : Session σ} (drifts : session.Drifts last) :
    PassEnd unitId catalog id state session (.error fault last)
  | settled {outcome : FixOutcome} {last : Session σ} (drifts : session.Drifts last)
      (agreed : outcome.ending ≠ .conflict) :
    PassEnd unitId catalog id state session (.ok (none, .done outcome) last)
  | offered {attempt : Attempt σ} {value : PassResult} {limited : Bool}
      {diagnostics : List Diagnostic} (made : attempt.IsMade unitId catalog id session)
      (goes : value =
        if attempt.landed then afterLanding limited diagnostics state else afterConflict state) :
    PassEnd unitId catalog id state session (.ok (some attempt, value) attempt.after)

theorem ending_ne_of_settled {survey : Survey} {outcome : FixOutcome}
    (settled : settled? state survey = some outcome) : outcome.ending ≠ .conflict := by
  unfold settled? at settled
  split at settled
  · cases settled
    exact nofun
  split at settled
  · cases settled
    dsimp only
    split <;> exact nofun
  split at settled
  · cases settled
    exact nofun
  · cases settled

section

variable {fetched : Session σ} {answer : Except Ambiguity (Option FixAction)}
  {committing : Run σ PassResult}

theorem record_of_ok {result : PassResult} (ran : committing session = .ok result last) :
    record fetched unit answer committing session =
      .ok (attemptOf unit fetched session last answer, result) last :=
  bind_of_ok ran

theorem record_of_error {fault : Fault} (ran : committing session = .error fault last) :
    record fetched unit answer committing session = .error fault last :=
  bind_eq_error.mpr (.inr ⟨session, session, rfl, bind_of_error ran⟩)

end

theorem calm_notesOf {action : FixAction} {landed : Bool} {event : Event}
    (noted : event ∈ notesOf unit id action landed) :
    event.isEffect = false ∧ event.isOffer = false := by
  unfold notesOf at noted
  split at noted
  · rcases List.mem_cons.mp noted with rfl | noted
    · exact ⟨rfl, rfl⟩
    · obtain rfl := List.mem_singleton.mp noted
      exact ⟨rfl, rfl⟩
  · obtain rfl := List.mem_singleton.mp noted
    exact ⟨rfl, rfl⟩

/-- How offering what was chosen ends. -/
theorem record_ends {fetched before chosen offering : Session σ} {limited : Bool}
    {answer : Except Ambiguity (Option FixAction)} {batch : List Diagnostic}
    (started : session.Drifts fetched)
    (present : fetched.workspace.snapshot? unitId = some unit)
    (chose : engine.choice unit catalog id batch before = .ok answer chosen)
    (meanwhile : fetched.Drifts offering) :
    PassEnd unitId catalog id state session (record fetched unit answer
      (commit unit id limited diagnostics state answer) offering) := by
  have drifts : session.Drifts offering := started.trans meanwhile
  match answer, chose with
  | .error ambiguity, _ => exact .settled drifts nofun
  | .ok none, _ => exact .settled drifts nofun
  | .ok (some action), chose =>
    by_cases empty : action.edits = []
    · rw [record_of_ok (commit_of_empty empty), attemptOf, if_pos (by simpa using empty)]
      exact .settled drifts nofun
    cases offered : offer unit action.edits offering with
    | error fault last =>
      rw [record_of_error (commit_of_error empty offered), offer_eq_error offered]
      exact .failed drifts
    | ok landed after =>
      obtain ⟨workspace, tried, rfl⟩ := offer_eq_ok.mp offered
      rw [record_of_ok (commit_eq empty offered), attemptOf, if_neg (by simpa using empty)]
      obtain ⟨fixer, able, key, before, fixes⟩ := combined_of_choice chose
      have accepted : offering.workspace.accepts unit action.edits = landed := by
        unfold Workspace.accepts
        rw [tried]
      obtain rfl := accepted
      refine .offered ⟨started, present, ⟨fixer, able, key, batch, before, _, fixes⟩, meanwhile,
        tried, notesOf unit id action (offering.workspace.accepts unit action.edits), ?_, ?_⟩ rfl
      · exact (Follows.of_edit .session tried).trans
          (.of_notes _ fun event noted => (calm_notesOf noted).1)
      · exact fun event noted => (calm_notesOf noted).2

/-- However rivals act, a pass offers edits at most once, and last. -/
theorem passAmid_ends (engine : Engine σ) (rivals : Rivals σ) (unitId : String)
    (catalog : Catalog σ) (id : String) (state : PassState) (session : Session σ) :
    PassEnd unitId catalog id state session
      (engine.passAmid rivals unitId catalog id state session) := by
  unfold passAmid
  have started := drifts_amid rivals.fetching (drifts_fetch unitId) session
  cases fetching : amid rivals.fetching (fetch unitId) session with
  | error fault last =>
    rw [fetching] at started
    rw [bind_of_error fetching]
    exact .failed started
  | ok found begun =>
  obtain ⟨fetched, unit⟩ := found
  obtain ⟨rfl, present⟩ := snapshot_of_fetch fetching
  rw [bind_of_ok fetching]
  rw [fetching, final_ok] at started
  dsimp only
  have examined := drifts_amid rivals.examining (drifts_examine engine unit catalog id) fetched
  cases examining : amid rivals.examining
      (engine.examine unit (engine.occurrences unit catalog id)) fetched with
  | error fault last =>
    rw [examining] at examined
    rw [bind_of_error examining]
    exact .failed (started.trans examined)
  | ok survey middle =>
  rw [bind_of_ok examining]
  rw [examining, final_ok] at examined
  obtain rfl : survey.unit = unit := (examine_eq_ok.mp examining).1
  cases settled : settled? state survey with
  | some outcome => exact .settled (started.trans examined) (ending_ne_of_settled settled)
  | none =>
  dsimp only
  have chosen := drifts_amid rivals.choosing (drifts_choice engine survey.unit catalog id
    (batchOf engine.config.batchSize survey.diagnostics)) middle
  cases choosing : amid rivals.choosing (engine.choice survey.unit catalog id
      (batchOf engine.config.batchSize survey.diagnostics)) middle with
  | error fault last =>
    rw [choosing] at chosen
    rw [bind_of_error choosing]
    exact .failed (started.trans (examined.trans chosen))
  | ok answer last =>
  rw [bind_of_ok choosing]
  rw [choosing, final_ok] at chosen
  have offering := rivals.offering.notes (fun _ => Event.isOffer_of_isOfPlugin) last
  exact record_ends started present choosing ((examined.trans chosen).trans offering)

theorem passEnd_of_ran {ended : EStateM.Result Fault (Session σ) (Option (Attempt σ) × PassResult)}
    (ran : engine.passAmid rivals unitId catalog id state session = ended) :
    PassEnd unitId catalog id state session ended :=
  ran ▸ engine.passAmid_ends rivals unitId catalog id state session

/-! ### All passes -/

/-- What is known of the events between two sessions, with all attempts made meanwhile. -/
structure Ledger (unitId : String) (session last : Session σ) (attempts : List (Attempt σ))
    (news : List Event) : Prop where
  follows : session.Follows last news
  offers : news.filter (·.isOffer) = (attempts.map (·.event)).reverse
  rivals : (∀ attempt ∈ attempts, attempt.Fits) →
    attempts.countP (!·.landed) ≤ news.countP (·.isRival unitId)

theorem filter_isOffer_eq_nil {news : List Event} (none : ∀ event ∈ news, event.isOffer = false) :
    news.filter (·.isOffer) = [] :=
  List.filter_eq_nil_iff.mpr fun event member => by simp [none event member]

namespace Ledger

variable {middle : Session σ} {attempt : Attempt σ} {attempts more : List (Attempt σ)}
  {earlier later : List Event}

theorem of_drifts (drifts : session.Drifts last) :
    ∃ news, Ledger unitId session last [] news := by
  obtain ⟨news, follows, none⟩ := drifts
  exact ⟨news, follows, filter_isOffer_eq_nil none, fun _ => Nat.zero_le _⟩

theorem of_made (made : attempt.IsMade unitId catalog id session) :
    ∃ news, Ledger unitId session attempt.after [attempt] news := by
  obtain ⟨first, start, none⟩ := made.started
  obtain ⟨second, meanwhile, still⟩ := made.meanwhile
  obtain ⟨notes, noted, quiet⟩ := made.noted
  refine ⟨_, (start.trans meanwhile).trans noted, ?_, fun fits => ?_⟩
  · rw [List.filter_append, List.filter_append, List.filter_append, filter_isOffer_eq_nil quiet,
      filter_isOffer_eq_nil none, filter_isOffer_eq_nil still]
    rfl
  · have fits := fits attempt (List.mem_singleton_self attempt)
    have rivals : second.countP (·.isRival unitId) = second.countP (·.landsOn unitId) :=
      List.countP_congr fun event member => by simp [Event.isRival, still event member]
    simp only [List.countP_append, rivals, List.countP_singleton]
    cases refused : attempt.landed with
    | true => exact Nat.zero_le _
    | false =>
      have faster := made.countP_landsOn_pos fits meanwhile refused
      simp only [Bool.not_false, if_true]
      omega

theorem trans (first : Ledger unitId session middle attempts earlier)
    (second : Ledger unitId middle last more later) :
    Ledger unitId session last (attempts ++ more) (later ++ earlier) where
  follows := first.follows.trans second.follows
  offers := by
    rw [List.filter_append, first.offers, second.offers, List.map_append, List.reverse_append]
  rivals fits := by
    have before := first.rivals fun attempt member => fits attempt (List.mem_append_left _ member)
    have after := second.rivals fun attempt member => fits attempt (List.mem_append_right _ member)
    rw [List.countP_append, List.countP_append]
    omega

end Ledger

variable {attempt? : Option (Attempt σ)} {value : PassResult} {outcome : FixOutcome}

/-- Whether passes end in a conflict. -/
def Conflicts (result : EStateM.Result Fault (Session σ) FixOutcome) : Prop :=
  ∃ outcome last, result = .ok outcome last ∧ outcome.ending.status = .applyConflict

theorem conflicts_ok : Conflicts (.ok outcome last) ↔ outcome.ending = .conflict := by
  constructor
  · rintro ⟨_, _, same, status⟩
    cases same
    cases ended : outcome.ending <;> rw [ended] at status <;> first | rfl | cases status
  · exact fun ended => ⟨outcome, last, rfl, by rw [ended, FixEnding.status]⟩

theorem not_conflicts_error {fault : Fault} :
    ¬ Conflicts (.error fault last : EStateM.Result Fault (Session σ) FixOutcome) := by
  rintro ⟨_, _, same, -⟩
  cases same

/-- How many attempts were refused, with the one before the first of these passes if there was
one. -/
def refusals (state : PassState) (attempts : List (Attempt σ)) : Nat :=
  attempts.countP (!·.landed) + state.retried.toNat

/-- What refusals lead to. -/
structure Refusing (state : PassState) (attempts : List (Attempt σ))
    (result : EStateM.Result Fault (Session σ) FixOutcome) : Prop where
  twice : refusals state attempts ≤ 2
  conflicts : Conflicts result ↔ refusals state attempts = 2
  ends : Conflicts result → ∃ attempt, attempts.getLast? = some attempt ∧
    attempt.landed = false ∧ final result = attempt.after

theorem Refusing.of_agreed (none : attempts.countP (!·.landed) = 0) (agreed : ¬ Conflicts result) :
    Refusing state attempts result := by
  have fewer : refusals state attempts ≤ 1 := by
    rw [refusals, none, Nat.zero_add]
    exact Bool.toNat_le state.retried
  exact ⟨by omega, iff_of_false agreed (by omega), fun conflicts => absurd conflicts agreed⟩

namespace PassEnd

theorem ledger (ended : PassEnd unitId catalog id state session (.ok (attempt?, value) last)) :
    ∃ news, Ledger unitId session last attempt?.toList news := by
  cases ended with
  | settled drifts agreed => exact Ledger.of_drifts drifts
  | offered made goes => exact Ledger.of_made made

theorem made (ended : PassEnd unitId catalog id state session (.ok (attempt?, value) last)) :
    ∀ attempt ∈ attempt?.toList, ∃ begun, attempt.IsMade unitId catalog id begun := by
  cases ended with
  | settled drifts agreed => exact nofun
  | offered made goes =>
    intro attempt member
    obtain rfl := List.mem_singleton.mp member
    exact ⟨session, made⟩

/-- A pass that is the last one ends in a conflict if its edits are the second to be refused. -/
theorem refusing_done
    (ended : PassEnd unitId catalog id state session (.ok (attempt?, .done outcome) last)) :
    Refusing state attempt?.toList (.ok outcome last) := by
  cases ended with
  | settled drifts agreed => exact .of_agreed rfl (mt conflicts_ok.mp agreed)
  | @offered attempt _ limited diagnostics made goes =>
    rw [Option.toList_some]
    cases landed : attempt.landed with
    | true =>
      rw [landed, if_pos rfl, afterLanding] at goes
      split at goes <;> cases goes
      exact .of_agreed (by simp [landed]) (mt conflicts_ok.mp nofun)
    | false =>
      rw [landed, if_neg Bool.false_ne_true, afterConflict] at goes
      split at goes <;> cases goes
      rename_i retried
      have second : refusals state [attempt] = 2 := by simp [refusals, landed, retried]
      exact ⟨Nat.le_of_eq second, iff_of_true (conflicts_ok.mpr rfl) second,
        fun _ => ⟨attempt, rfl, landed, rfl⟩⟩

/-- A pass that is followed by another leaves it to that one to count on. -/
theorem refusals_again (attempts : List (Attempt σ))
    (ended : PassEnd unitId catalog id state session (.ok (attempt?, .again next) last)) :
    refusals state (attempt?.toList ++ attempts) = refusals next attempts := by
  cases ended with
  | @offered attempt _ limited diagnostics made goes =>
    rw [Option.toList_some, refusals, List.countP_append, List.countP_singleton]
    cases landed : attempt.landed with
    | true =>
      rw [landed, if_pos rfl, afterLanding] at goes
      split at goes <;> cases goes
      simp [refusals]
    | false =>
      rw [landed, if_neg Bool.false_ne_true, afterConflict] at goes
      split at goes <;> cases goes
      rename_i first
      simp [refusals, first, Nat.add_comm]

end PassEnd

namespace Contested

theorem ledger (contested : engine.Contested unitId catalog id state session attempts result) :
    ∃ news, Ledger unitId session (final result) attempts news := by
  induction contested with
  | givenUp => exact Ledger.of_drifts (.refl _)
  | failed ran =>
    cases passEnd_of_ran ran with
    | failed drifts => exact Ledger.of_drifts drifts
  | done ran => exact (passEnd_of_ran ran).ledger
  | again ran later ih =>
    obtain ⟨earlier, first⟩ := (passEnd_of_ran ran).ledger
    obtain ⟨later, second⟩ := ih
    exact ⟨_, first.trans second⟩

/-- The second refusal ends passes in a conflict, and nothing else does. -/
theorem refusing (contested : engine.Contested unitId catalog id state session attempts result) :
    Refusing state attempts result := by
  induction contested with
  | givenUp => exact .of_agreed rfl not_conflicts_error
  | failed ran => exact .of_agreed rfl not_conflicts_error
  | done ran => exact (passEnd_of_ran ran).refusing_done
  | again ran later ih =>
    have counted := (passEnd_of_ran ran).refusals_again
    refine ⟨counted _ ▸ ih.twice, counted _ ▸ ih.conflicts, fun conflicts => ?_⟩
    obtain ⟨attempt, last, refused, after⟩ := ih.ends conflicts
    refine ⟨attempt, ?_, refused, after⟩
    rw [List.getLast?_append, last, Option.some_or]

/-- Every attempt is made in one of the passes. -/
theorem made (contested : engine.Contested unitId catalog id state session attempts result) :
    ∀ attempt ∈ attempts, ∃ begun, attempt.IsMade unitId catalog id begun := by
  induction contested with
  | givenUp => exact nofun
  | failed ran => exact nofun
  | done ran => exact (passEnd_of_ran ran).made
  | again ran later ih =>
    exact fun attempt member =>
      (List.mem_append.mp member).elim ((passEnd_of_ran ran).made attempt) (ih attempt)

end Contested

/-- Where nobody else acts, a pass comes to what it would come to anyway. -/
theorem pass_of_passAmid (engine : Engine σ) (unitId : String) (catalog : Catalog σ) (id : String)
    (state : PassState) (session : Session σ) :
    engine.pass unitId catalog id state session =
      match engine.passAmid {} unitId catalog id state session with
      | .ok (_, value) last => .ok value last
      | .error fault last => .error fault last := by
  rw [← map_passAmid, map_eq_pure_bind]
  cases ran : engine.passAmid {} unitId catalog id state session with
  | ok value last => exact bind_of_ok ran
  | error fault last => exact bind_of_error ran

/-- Where nobody else acts, there is nothing but passes to see. -/
theorem exists_contested (engine : Engine σ) (unitId : String) (catalog : Catalog σ) (id : String)
    (limit : Nat) (state : PassState) (session : Session σ) :
    ∃ attempts, engine.Contested unitId catalog id state session attempts
      (engine.passes unitId catalog id limit state session) := by
  induction limit generalizing state session with
  | zero =>
    rw [passes_zero]
    by_cases requested : session.cancellation.isRequested = true
    · have unfetched : fetch unitId session = .error .cancelled session :=
        bind_of_error (checkCancelled_of_requested requested)
      have ran : engine.passAmid {} unitId catalog id state session =
          .error .cancelled session := by
        unfold passAmid
        rw [amid_idle, bind_of_error unfetched]
      rw [if_pos requested]
      exact ⟨[], .failed ran⟩
    · rw [if_neg requested]
      exact ⟨[], .givenUp⟩
  | succ limit ih =>
    have passed := engine.pass_of_passAmid unitId catalog id state session
    unfold passes
    cases ran : engine.passAmid {} unitId catalog id state session with
    | error fault last =>
      rw [ran] at passed
      rw [bind_of_error passed]
      exact ⟨[], .failed ran⟩
    | ok found last =>
      obtain ⟨attempt?, value⟩ := found
      rw [ran] at passed
      rw [bind_of_ok passed]
      cases value with
      | done outcome => exact ⟨_, .done ran⟩
      | again next =>
        obtain ⟨attempts, later⟩ := ih next last
        exact ⟨_, .again ran later⟩

/-- Passes with rivals of their own, as many as there are, and the attempts that they make. -/
def contest (engine : Engine σ) (unitId : String) (catalog : Catalog σ) (id : String) :
    List (Rivals σ) → PassState → Session σ →
      List (Attempt σ) × EStateM.Result Fault (Session σ) FixOutcome
  | [], _, session => ([], .error .unfinished session)
  | rivals :: others, state, session =>
    match engine.passAmid rivals unitId catalog id state session with
    | .error fault last => ([], .error fault last)
    | .ok (attempt?, .done outcome) last => (attempt?.toList, .ok outcome last)
    | .ok (attempt?, .again next) last =>
      let (attempts, result) := engine.contest unitId catalog id others next last
      (attempt?.toList ++ attempts, result)

theorem contested_contest (all : List (Rivals σ)) :
    engine.Contested unitId catalog id state session
      (engine.contest unitId catalog id all state session).1
      (engine.contest unitId catalog id all state session).2 := by
  induction all generalizing state session with
  | nil => exact .givenUp
  | cons rivals others ih =>
    unfold contest
    split
    · exact .failed ‹_›
    · exact .done ‹_›
    · exact .again ‹_› ih

/-- However others act while an identifier is fixed, at most two edit sets are refused. What is
refused changes nothing, and what lands does so in the snapshot that it was computed from. Fixing
ends in a conflict as soon as a second one is refused, and only then; so it does not if all edits
fit and no more than one edit set of others lands on the unit. -/
theorem fixDiagnostic_withstands (engine : Engine σ) (unitId : String) (catalog : Catalog σ)
    (id : String) (session : Session σ) :
    (∃ attempts, engine.Contested unitId catalog id {} session attempts
        (engine.fixDiagnostic unitId catalog id session)) ∧
      ∀ attempts result, engine.Contested unitId catalog id {} session attempts result →
        ∃ news, session.Follows (final result) news ∧
          news.filter (·.isOffer) = (attempts.map (·.event)).reverse ∧
          (∀ attempt ∈ attempts, attempt.IsExact unitId catalog id) ∧
          attempts.countP (!·.landed) ≤ 2 ∧
          (Conflicts result ↔ attempts.countP (!·.landed) = 2) ∧
          (Conflicts result → ∃ attempt, attempts.getLast? = some attempt ∧
            attempt.landed = false ∧ final result = attempt.after) ∧
          ((∀ attempt ∈ attempts, attempt.Fits) → news.countP (·.isRival unitId) ≤ 1 →
            ¬ Conflicts result) := by
  refine ⟨engine.exists_contested unitId catalog id _ {} session,
    fun attempts result contested => ?_⟩
  obtain ⟨news, ledger⟩ := contested.ledger
  obtain ⟨twice, conflicts, ends⟩ := contested.refusing
  refine ⟨news, ledger.follows, ledger.offers, fun attempt member => ?_, twice, conflicts, ends,
    fun fit fewer conflict => ?_⟩
  · obtain ⟨begun, made⟩ := contested.made attempt member
    exact made.isExact
  · have refused : attempts.countP (!·.landed) = 2 := conflicts.mp conflict
    have rivals := ledger.rivals fit
    omega

end Engine

namespace Contending

/-! Letters that are replaced while others write in front of them. -/

def engine : Engine Unit where
  analyzers := [Letters.analyzer 'p']
  fixers := [Letters.fixer (Letters.replacing 'q')]
  compiler := { type := "Silent", package := "plugins", compile := fun _ => .answer [] }
  formatter := Formatting.whitespace
  config := default
  passLimit := 4

def catalog : Catalog Unit := engine.catalog (Letters.source ['p'])

/-- Writes a space in front of a unit that has a version, before a fix is offered. -/
def rivals (version : Int) : Rivals Unit where
  offering := .edit "a" version [{ path := "a", start := 0, stop := 0, text := [' '] }] fun _ =>
    .answer ()

def contest (all : List (Rivals Unit)) :
    List (Attempt Unit) × EStateM.Result Fault (Session Unit) FixOutcome :=
  engine.contest "a" catalog "X1" all {} (Letters.session ['p'])

theorem contested (all : List (Rivals Unit)) :
    engine.Contested "a" catalog "X1" {} (Letters.session ['p']) (contest all).1 (contest all).2 :=
  Engine.contested_contest all

/-- If one of the others writes during the first pass, the letter is replaced in the second; if
another one writes during that too, it is not. -/
theorem fixDiagnostic_withstands_one :
    (∃ attempts result,
        engine.Contested "a" catalog "X1" {} (Letters.session ['p']) attempts result ∧
          attempts.map (·.landed) = [false, true] ∧ ¬ Engine.Conflicts result) ∧
      ∃ attempts result,
        engine.Contested "a" catalog "X1" {} (Letters.session ['p']) attempts result ∧
          attempts.map (·.landed) = [false, false] ∧ Engine.Conflicts result := by
  obtain ⟨-, withstands⟩ :=
    engine.fixDiagnostic_withstands "a" catalog "X1" (Letters.session ['p'])
  constructor
  · have landed : (contest [rivals 0, {}]).1.map (·.landed) = [false, true] := by cbv
    have fits : ∀ attempt ∈ (contest [rivals 0, {}]).1,
        (attempt.unit.withEdits attempt.action.edits).toOption.isSome = true :=
      List.all_eq_true.mp (by cbv)
    have written : (Run.final (contest [rivals 0, {}]).2).journal.countP (·.isRival "a") = 1 := by
      cbv
    obtain ⟨news, follows, -, -, -, -, -, agree⟩ := withstands _ _ (contested [rivals 0, {}])
    have whole : (Run.final (contest [rivals 0, {}]).2).journal = news :=
      follows.journal.trans (List.append_nil news)
    rw [whole] at written
    refine ⟨_, _, contested _, landed, agree (fun attempt member => ?_) (Nat.le_of_eq written)⟩
    unfold Attempt.Fits
    have fit := fits attempt member
    cases edited : attempt.unit.withEdits attempt.action.edits with
    | ok next => exact ⟨next, rfl⟩
    | error fault =>
      rw [edited] at fit
      cases fit
  · have landed : (contest [rivals 0, rivals 1]).1.map (·.landed) = [false, false] := by cbv
    obtain ⟨-, -, -, -, -, conflicts, -⟩ := withstands _ _ (contested [rivals 0, rivals 1])
    have twice : ((contest [rivals 0, rivals 1]).1.map (·.landed)).countP (!·) = 2 := by
      rw [landed]
      rfl
    rw [List.countP_map] at twice
    exact ⟨_, _, contested _, landed, conflicts.mpr twice⟩

end Contending

end FixLoop
