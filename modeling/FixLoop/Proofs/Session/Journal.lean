import FixLoop.Proofs.Session.Passing

/-!
What a journal tells. Between two sessions of one run lie the events that were noted meanwhile. Each
edit set that landed is one of them, and so is each request for cancellation; hence the versions of
the units, which units were left alone, and whether the run is to stop, can be read off the journal.
-/

namespace FixLoop

/-- An item of two lists, one after the other, is an item of the first or of the second. -/
theorem append_eq_append_cons {α : Type} {later earlier newer older : List α} {item : α}
    (split : later ++ earlier = newer ++ item :: older) :
    (∃ rest, later = newer ++ item :: rest ∧ older = rest ++ earlier) ∨
      ∃ rest, newer = later ++ rest ∧ earlier = rest ++ item :: older := by
  rcases List.append_eq_append_iff.mp split with ⟨rest, rfl, within⟩ | ⟨rest, rfl, beyond⟩
  · exact .inr ⟨rest, rfl, within⟩
  · cases rest with
    | nil => exact .inr ⟨[], by simp, by simpa using beyond.symm⟩
    | cons first rest =>
      obtain ⟨rfl, same⟩ := List.cons.inj beyond
      exact .inl ⟨rest, rfl, same⟩

namespace Event

/-- Whether an event tells of an edit set that landed. -/
def isLanding : Event → Bool
  | edited _ _ _ _ landed => landed
  | _ => false

/-- Whether an event tells of an edit set that landed on a unit. -/
def landsOn (unitId : String) : Event → Bool
  | edited _ other _ _ landed => landed && other == unitId
  | _ => false

/-- Whether an event comes with a change of the workspace or of the signal. -/
def isEffect : Event → Bool
  | edited _ _ _ _ landed => landed
  | cancelRequested => true
  | _ => false

/-- Whether an event is noted by a callback. -/
def isOfPlugin : Event → Bool
  | edited author .. => author == .plugin
  | deferred .. | cancelRequested => true
  | _ => false

/-- Whether an event is noted by an engine itself while nothing lands. -/
def isQuiet : Event → Bool
  | edited author _ _ _ landed => author == .session && !landed
  | deferred .. | cancelRequested | fixed .. => false
  | _ => true

/-- Whether an event tells that edits of an engine were refused. -/
def isRefusal : Event → Bool
  | edited author _ _ _ landed => author == .session && !landed
  | rejected .. => true
  | _ => false

theorem isQuiet_of_isRefusal {event : Event} (refusal : event.isRefusal = true) :
    event.isQuiet = true := by
  cases event <;> first | exact refusal | rfl

theorem isQuiet_of_isRemark {event : Event} (remark : event.isRemark = true) :
    event.isQuiet = true := by
  cases event <;> first | rfl | cases remark

theorem isQuiet_of_tellsOfReading {unit : SourceUnit} {event : Event}
    (tells : event.TellsOfReading unit) : event.isQuiet = true := by
  cases event <;> first | rfl | cases tells

theorem isQuiet_of_tellsOfSelecting {unit : SourceUnit} {id : String} {batch : List Diagnostic}
    {event : Event} (tells : event.TellsOfSelecting unit id batch) : event.isQuiet = true := by
  cases event <;> first | rfl | cases tells

theorem isEffect_of_isQuiet {event : Event} (quiet : event.isQuiet = true) :
    event.isEffect = false := by
  cases event with
  | edited author unitId version edits landed =>
    cases landed with
    | false => rfl
    | true => simp [isQuiet] at quiet
  | _ => first | rfl | cases quiet

theorem isLanding_of_not_isEffect {event : Event} (calm : event.isEffect = false) :
    event.isLanding = false := by
  cases event <;> first | rfl | exact calm

theorem landsOn_of_not_isLanding {event : Event} (unitId : String)
    (none : event.isLanding = false) : event.landsOn unitId = false := by
  cases event with
  | edited author other version edits landed =>
    obtain rfl : landed = false := none
    rfl
  | _ => rfl

end Event

/-- How often a unit was changed, as its version tells. -/
def Workspace.revision (workspace : Workspace) (unitId : String) : Int :=
  (workspace.snapshot? unitId).elim 0 (·.version)

variable {σ α : Type}

/-- Whether a session follows another one with some events, the newest first. -/
structure Session.Follows (start now : Session σ) (news : List Event) : Prop where
  journal : now.journal = news ++ start.journal
  revision : ∀ unitId, now.workspace.revision unitId =
    start.workspace.revision unitId + news.countP (·.landsOn unitId)
  untouched : ∀ unitId, news.countP (·.landsOn unitId) = 0 →
    now.workspace.snapshot? unitId = start.workspace.snapshot? unitId
  requested : now.cancellation.isRequested = true ↔
    start.cancellation.isRequested = true ∨ .cancelRequested ∈ news

namespace Session

variable {start middle now last session : Session σ} {news earlier later : List Event}
  {event : Event}

namespace Follows

theorem refl (session : Session σ) : session.Follows session [] where
  journal := rfl
  revision _ := by simp
  untouched _ _ := rfl
  requested := by simp

theorem trans (first : start.Follows middle earlier) (second : middle.Follows last later) :
    start.Follows last (later ++ earlier) where
  journal := by rw [second.journal, first.journal, List.append_assoc]
  revision unitId := by
    rw [second.revision, first.revision, List.countP_append]
    omega
  untouched unitId none := by
    rw [List.countP_append] at none
    rw [second.untouched unitId (by omega), first.untouched unitId (by omega)]
  requested := by
    rw [second.requested, first.requested, List.mem_append, or_assoc, or_comm (a := _ ∈ earlier)]

theorem of_note (session : Session σ) (calm : event.isEffect = false) :
    session.Follows { session with journal := event :: session.journal } [event] where
  journal := rfl
  revision unitId := by
    have missed := Event.landsOn_of_not_isLanding unitId (Event.isLanding_of_not_isEffect calm)
    simp [missed]
  untouched _ _ := rfl
  requested := by
    have other : event ≠ .cancelRequested := by
      rintro rfl
      cases calm
    simp [other.symm]

theorem of_notes (session : Session σ) (calm : ∀ event ∈ news, event.isEffect = false) :
    session.Follows { session with journal := news ++ session.journal } news := by
  induction news with
  | nil => exact .refl session
  | cons event rest ih =>
    exact (ih fun other member => calm other (List.mem_cons_of_mem _ member)).trans
      (of_note _ (calm event List.mem_cons_self))

theorem of_known (session : Session σ) (known : List (String × Descriptor)) :
    session.Follows { session with known } [] where
  journal := rfl
  revision _ := by simp
  untouched _ _ := rfl
  requested := by simp

theorem of_memory (session : Session σ) (memory : σ) :
    session.Follows { session with memory } [] where
  journal := rfl
  revision _ := by simp
  untouched _ _ := rfl
  requested := by simp

theorem of_edit {unitId : String} {version : Int} {edits : List TextEdit} {landed : Bool}
    {workspace : Workspace} (author : Author)
    (edited : session.workspace.tryEdit unitId version edits = .ok (landed, workspace)) :
    session.Follows { session with
      workspace
      journal := .edited author unitId version edits landed :: session.journal }
      [.edited author unitId version edits landed] := by
  cases landed with
  | false =>
    obtain rfl := Workspace.eq_of_tryEdit_rejected edited
    exact of_note session rfl
  | true =>
    obtain ⟨current, next, found, -, fits, after, others⟩ := Workspace.snapshot?_of_landed edited
    have counted (other : String) :
        [Event.edited author unitId version edits true].countP (·.landsOn other) =
          if other = unitId then 1 else 0 := by
      by_cases own : other = unitId
      · simp [Event.landsOn, own]
      · simp [Event.landsOn, own, Ne.symm own]
    constructor
    case journal => rfl
    case requested => simp
    case untouched =>
      intro other none
      refine others other fun own => ?_
      rw [counted, if_pos own] at none
      cases none
    case revision =>
      intro other
      rw [counted]
      unfold Workspace.revision
      by_cases own : other = unitId
      · subst own
        simp [found, after, SourceUnit.version_withEdits fits]
      · simp [others other own, own]

theorem of_cancel {cancellation : Cancellation}
    (given : session.cancellation.request? = some cancellation) :
    session.Follows { session with
      cancellation
      journal := .cancelRequested :: session.journal } [.cancelRequested] where
  journal := rfl
  revision _ := by simp [Event.landsOn]
  untouched _ _ := rfl
  requested := by
    have granted : cancellation.isRequested = true := by
      cases standing : session.cancellation <;> rw [standing] at given <;> cases given <;> rfl
    simp [granted]

/-- An event in a journal that was noted after a session is one of those that followed. -/
theorem split_news {newer older : List Event} (follows : start.Follows now news)
    (split : now.journal = newer ++ event :: older) (inside : start.journal <:+ older) :
    ∃ rest, news = newer ++ event :: rest ∧ older = rest ++ start.journal := by
  obtain ⟨rest, rfl⟩ := inside
  refine ⟨rest, List.append_cancel_right (follows.journal.symm.trans ?_), rfl⟩
  rw [split, List.append_assoc, List.cons_append]

end Follows

/-- Whether a session follows another one with events of some kind. -/
def Grows (may : Event → Prop) (start now : Session σ) : Prop :=
  ∃ news, start.Follows now news ∧ ∀ event ∈ news, may event

namespace Grows

variable {may : Event → Prop}

theorem refl (session : Session σ) : session.Grows may session := ⟨[], .refl session, by simp⟩

theorem trans (first : start.Grows may middle) (second : middle.Grows may last) :
    start.Grows may last := by
  obtain ⟨earlier, follows, allowed⟩ := first
  obtain ⟨later, goesOn, stillAllowed⟩ := second
  refine ⟨later ++ earlier, follows.trans goesOn, fun event member => ?_⟩
  exact (List.mem_append.mp member).elim (stillAllowed event) (allowed event)

theorem mono {weaker : Event → Prop} (grown : start.Grows may now)
    (weaken : ∀ event, may event → weaker event) : start.Grows weaker now := by
  obtain ⟨news, follows, allowed⟩ := grown
  exact ⟨news, follows, fun event member => weaken event (allowed event member)⟩

theorem of_follows (follows : start.Follows now [event]) (allowed : may event) :
    start.Grows may now := ⟨[event], follows, by simpa using allowed⟩

theorem note (grown : start.Grows may now) (calm : event.isEffect = false) (allowed : may event) :
    start.Grows may { now with journal := event :: now.journal } :=
  grown.trans (.of_follows (.of_note now calm) allowed)

theorem notes (grown : start.Grows may now) (calm : ∀ event ∈ news, event.isEffect = false)
    (allowed : ∀ event ∈ news, may event) :
    start.Grows may { now with journal := news ++ now.journal } :=
  grown.trans ⟨news, .of_notes now calm, allowed⟩

theorem learn (grown : start.Grows may now) (known : List (String × Descriptor)) :
    start.Grows may { now with known } :=
  grown.trans ⟨[], .of_known now known, by simp⟩

/-- Versions only grow, so edits land in no other snapshot than the one they were computed from. -/
theorem landed {unit : SourceUnit} {edits : List TextEdit} {after : Workspace}
    (grown : start.Grows may now) (seen : start.workspace.snapshot? unit.id = some unit)
    (landed : now.workspace.tryEdit unit.id unit.version edits = .ok (true, after)) :
    ∃ next, now.workspace.snapshot? unit.id = some unit ∧ unit.withEdits edits = .ok next ∧
      after.snapshot? unit.id = some next ∧
      ∀ other, other ≠ unit.id → after.snapshot? other = now.workspace.snapshot? other := by
  obtain ⟨current, next, found, fresh, edited, replaced, others⟩ :=
    Workspace.snapshot?_of_landed landed
  obtain ⟨news, follows, -⟩ := grown
  have grew := follows.revision unit.id
  have none : news.countP (·.landsOn unit.id) = 0 := by
    simp only [Workspace.revision, seen, found, Option.elim_some] at grew
    omega
  obtain rfl : current = unit :=
    Option.some.inj (found.symm.trans ((follows.untouched _ none).trans seen))
  exact ⟨next, found, edited, replaced, others⟩

end Grows

end Session

/-- Whether a callback notes events of some kind only. -/
def Callback.Notes (may : Event → Prop) (callback : Callback σ α) : Prop :=
  ∀ session : Session σ, session.Grows may (callback.carryOut session).2

/-- Whether a callback leaves the workspace as it is. -/
def Callback.LeavesWorkspace (callback : Callback σ α) : Prop :=
  ∀ session : Session σ, (callback.carryOut session).2.workspace = session.workspace

namespace Callback

/-- Whatever a callback does is noted. -/
theorem notes (callback : Callback σ α) {may : Event → Prop}
    (own : ∀ event : Event, event.isOfPlugin = true → may event) : callback.Notes may := by
  induction callback with
  | answer value => exact fun session => .refl session
  | fail failure => exact fun session => .refl session
  | look ask ih => exact fun session => ih _ session
  | retrieve ask ih => exact fun session => ih _ session
  | remember memory rest ih =>
    intro session
    have grown : session.Grows may { session with memory } :=
      ⟨[], .of_memory session memory, by simp⟩
    exact grown.trans (ih _)
  | edit unitId version edits ask ih =>
    intro session
    unfold carryOut
    split
    · exact .refl session
    · rename_i landed workspace edited
      exact (Session.Grows.of_follows (.of_edit .plugin edited) (own _ rfl)).trans (ih landed _)
  | cancel rest ih =>
    intro session
    unfold carryOut
    split
    · exact .refl session
    · rename_i cancellation given
      exact (Session.Grows.of_follows (.of_cancel given) (own _ rfl)).trans (ih _)
  | defer count id rest ih =>
    intro session
    exact ((Session.Grows.refl session).note rfl (own (.deferred count id) rfl)).trans (ih _)

/-- Versions only grow, so nothing landed if the workspace is as it was. -/
theorem LeavesWorkspace.notes_own {callback : Callback σ α} (leaves : callback.LeavesWorkspace) :
    callback.Notes fun event => event.isOfPlugin = true ∧ event.isLanding = false := by
  intro session
  have noted : callback.Notes fun event => event.isOfPlugin = true :=
    callback.notes fun _ own => own
  obtain ⟨news, follows, own⟩ := noted session
  have counted (unitId : String) : news.countP (·.landsOn unitId) = 0 := by
    have same := follows.revision unitId
    rw [leaves session] at same
    omega
  refine ⟨news, follows, fun event member => ⟨own event member, ?_⟩⟩
  cases event with
  | edited author unitId version edits landed =>
    have missed := List.countP_eq_zero.mp (counted unitId) _ member
    simpa [Event.landsOn, Event.isLanding] using missed
  | _ => rfl

theorem LeavesWorkspace.notes {callback : Callback σ α} (leaves : callback.LeavesWorkspace) :
    callback.Notes fun event => event.isLanding = false :=
  fun session => (leaves.notes_own session).mono fun _ calm => calm.2

end Callback

/-- Whether a session follows another one with a fix of an identifier that landed. -/
def Session.Lands (id unitId : String) (before now : Session σ) : Prop :=
  ∃ title name version edits, before.Follows now
    [.fixed id unitId, .applied title (List.length edits) name,
      .edited .session unitId version edits true]

/-- How often a batch was fixed after a pass. -/
def PassResult.batches : PassResult → Nat
  | .again state => state.batches
  | .done outcome => outcome.batches

namespace Engine

open Run Session

variable {engine : Engine σ} {may : Event → Prop} {catalog : Catalog σ} {unitId id : String}
  {state : PassState} {session start : Session σ} {allowed : Fault → Session σ → Prop}

/-- Whether plugins note events of some kind only. -/
structure PluginsNote (engine : Engine σ) (may : Event → Prop) : Prop where
  compiler : ∀ unit, (engine.compiler.compile unit).Notes may
  analyzers : ∀ analyzer ∈ engine.analyzers, ∀ unit, (analyzer.analyze unit).Notes may
  offers : ∀ fixer ∈ engine.fixers, ∀ diagnostic unit,
    ∀ candidate ∈ fixer.offers diagnostic unit, candidate.Notes may
  fixAll : ∀ fixer ∈ engine.fixers, ∀ context, (fixer.fixAll context).Notes may

namespace PluginsNote

theorem of_own (engine : Engine σ) (own : ∀ event : Event, event.isOfPlugin = true → may event) :
    engine.PluginsNote may where
  compiler _ := Callback.notes _ own
  analyzers _ _ _ := Callback.notes _ own
  offers _ _ _ _ _ _ := Callback.notes _ own
  fixAll _ _ _ := Callback.notes _ own

section

/-! Invariants that survive events of the kind. -/

variable {inv : Session σ → Prop}
  (grows : ∀ ⦃before after⦄, inv before → before.Grows may after → inv after)

include grows

theorem call_keeps {callback : Callback σ α} (notes : callback.Notes may)
    (any : ∀ fault session, allowed fault session) : (call callback).Keeps inv allowed := by
  refine .of_final (fun session holds => ?_) any
  rw [final_call]
  exact grows holds (notes session)

theorem attempt_keeps {callback : Callback σ α} (notes : callback.Notes may) :
    (attempt callback).Keeps inv allowed :=
  fun session holds => grows holds (notes session)

theorem closed {noted : Event → Prop} (quiet : ∀ event, noted event → event.isQuiet = true)
    (tells : ∀ event, noted event → may event) :
    Closed noted fun _ step => step.Keeps inv allowed :=
  Keeps.closed
    (fun event told session holds => grows holds <| (Grows.refl session).note
      (Event.isEffect_of_isQuiet (quiet event told)) (tells event told))
    fun known session holds => grows holds ((Grows.refl session).learn known)

theorem reads (plugins : engine.PluginsNote may) {unit : SourceUnit}
    (tells : ∀ event : Event, event.TellsOfReading unit → may event)
    (any : ∀ fault session, allowed fault session) :
    engine.Reads unit fun _ step => step.Keeps inv allowed where
  toClosed := closed grows (fun _ => Event.isQuiet_of_tellsOfReading) tells
  compile := call_keeps grows (plugins.compiler unit) any
  analyze analyzer member := attempt_keeps grows (plugins.analyzers analyzer member unit)

theorem selects (plugins : engine.PluginsNote may) {unit : SourceUnit} {batch : List Diagnostic}
    (tells : ∀ event : Event, event.TellsOfSelecting unit id batch → may event)
    (any : ∀ fault session, allowed fault session) :
    engine.Selects unit id batch fun _ step => step.Keeps inv allowed where
  toClosed := closed grows (fun _ => Event.isQuiet_of_tellsOfSelecting) tells
  checked := (@checkCancelled_keeps σ _ allowed).mono fun _ _ _ _ => any _ _
  ambiguous _ := .throw fun _ _ => any _ _
  offers fixer able diagnostic candidate offered :=
    call_keeps grows (plugins.offers fixer able diagnostic unit candidate offered) any
  fixAll fixer able context _ := call_keeps grows (plugins.fixAll fixer able context) any

end

/-- An inspection notes what reading and plugins note. -/
theorem inspect_grows (plugins : engine.PluginsNote may) (unitId id : String)
    (tells : ∀ (event : Event) unit, event.TellsOfReading unit → may event)
    (members : catalog.analyzers ⊆ engine.analyzers) (session : Session σ) :
    session.Grows may (final (engine.inspect unitId catalog id session)) := by
  have any (fault : Fault) (session : Session σ) : orInterrupted (fun _ _ => True) fault session :=
    .inl trivial
  have grows ⦃before after : Session σ⦄ : session.Grows may before → before.Grows may after →
      session.Grows may after := Grows.trans
  have reads (unit : SourceUnit) := reads grows plugins (fun event => tells event unit) any
  exact (inspect_keeps (Keeps.snapshot any) reads members).final (.refl session)

/-- A survey notes what remarks, reading and plugins note. -/
theorem survey_grows (plugins : engine.PluginsNote may) (unitId : String) (rounds : Nat)
    (remarks : ∀ event : Event, event.isRemark = true → may event)
    (tells : ∀ (event : Event) unit, event.TellsOfReading unit → may event)
    (members : catalog.analyzers ⊆ engine.analyzers) (session : Session σ) :
    session.Grows may (final (engine.survey unitId catalog rounds session)) := by
  have grows ⦃before after : Session σ⦄ : session.Grows may before → before.Grows may after →
      session.Grows may after := Grows.trans
  have remarked {event : Event} (remark : event.isRemark = true) :
      (note event : Run σ Unit).Keeps (session.Grows may) fun _ _ => True :=
    .note fun _ grown => grown.note (Event.isEffect_of_isQuiet (Event.isQuiet_of_isRemark remark))
      (remarks event remark)
  have kept : (engine.survey unitId catalog rounds).Keeps (session.Grows may) fun _ _ => True := by
    refine (Keeps.snapshot fun _ _ => trivial).bind fun unit => (remarked rfl).bind fun _ => ?_
    have reads := reads grows plugins (fun event => tells event unit) fun _ _ => trivial
    exact reads.examine_good fun diagnostics =>
      (remarked rfl).bind fun _ => reads.fixable_good members diagnostics
  exact kept.final (.refl session)

/-- Choosing an action notes what remarks, selecting and plugins note. -/
theorem choice_grows (plugins : engine.PluginsNote may) {unit : SourceUnit}
    {batch : List Diagnostic}
    (remarks : ∀ event : Event, event.isRemark = true → may event)
    (tells : ∀ event : Event, event.TellsOfSelecting unit id batch → may event)
    (members : catalog.fixers ⊆ engine.fixers) (session : Session σ) :
    session.Grows may (final (engine.choice unit catalog id batch session)) := by
  have kept : (engine.choice unit catalog id batch).Keeps (session.Grows may) fun _ _ => True :=
    choice_keeps (fun event remark _ grown => grown.note
      (Event.isEffect_of_isQuiet (Event.isQuiet_of_isRemark remark)) (remarks event remark))
      (selects (fun _ _ => Grows.trans) plugins tells fun _ _ => .inl trivial) members
  exact kept.final (.refl session)

/-- Fixing a unit keeps what survives events of the kind and passes. -/
theorem fixUnit_keeps (plugins : engine.PluginsNote may)
    (own : ∀ event : Event, event.isQuiet = true → may event) {inv : Session σ → Prop}
    (grows : ∀ ⦃before after⦄, inv before → before.Grows may after → inv after)
    (pass : ∀ unit id state session, inv session →
      inv (final (engine.pass unitId (engine.catalog unit) id state session))) :
    (engine.fixUnit unitId).Keeps inv fun _ _ => True := by
  have moves : Moves unitId inv fun _ _ => True := {
    remark := fun event remark session holds => grows holds <| (Grows.refl session).note
      (Event.isEffect_of_isQuiet (Event.isQuiet_of_isRemark remark))
      (own event (Event.isQuiet_of_isRemark remark))
    snapshot := Keeps.snapshot fun _ _ => trivial
    unfinished := fun _ _ _ => trivial }
  refine moves.fixUnit_keeps_of_pass (fun unit => ?_) fun unit id state => ?_
  · exact reads grows plugins
      (fun event tells => own event (Event.isQuiet_of_tellsOfReading tells)) fun _ _ => trivial
  · exact .of_final (pass unit id state) fun _ _ => .inl trivial

end PluginsNote

/-- The sessions that a pass can reach before it offers edits: where its inspection ends, or where
the choice of an action does. -/
inductive Reaches (engine : Engine σ) (unitId : String) (catalog : Catalog σ) (id : String)
    (session : Session σ) : Session σ → Prop where
  | inspecting :
    Reaches engine unitId catalog id session (final (engine.inspect unitId catalog id session))
  | choosing {survey : Survey} {middle : Session σ}
      (inspected : engine.inspect unitId catalog id session = .ok survey middle)
      (builds : survey.errors = []) :
    Reaches engine unitId catalog id session (final (engine.choice survey.unit catalog id
      (batchOf engine.config.batchSize survey.diagnostics) middle))

/-- How a pass ends from there: its edits are refused, if there are any, or they land. -/
inductive Ends (id unitId : String) (state : PassState) (reached : Session σ) :
    EStateM.Result Fault (Session σ) PassResult → Prop where
  | refused {result : EStateM.Result Fault (Session σ) PassResult}
      (grown : reached.Grows (fun event => event.isRefusal = true) (final result))
      (counted : ∀ value last, result = .ok value last → value.batches = state.batches) :
    Ends id unitId state reached result
  | landed {value : PassResult} {last : Session σ} (lands : reached.Lands id unitId last)
      (counted : value.batches = state.batches + 1) :
    Ends id unitId state reached (.ok value last)

theorem Reaches.grows {reached : Session σ} (plugins : engine.PluginsNote may)
    (own : ∀ event : Event, event.isQuiet = true → may event)
    (analyzers : catalog.analyzers ⊆ engine.analyzers) (fixers : catalog.fixers ⊆ engine.fixers)
    (reaches : engine.Reaches unitId catalog id session reached) : session.Grows may reached := by
  have inspects := plugins.inspect_grows unitId id
    (fun event _ tells => own event (Event.isQuiet_of_tellsOfReading tells)) analyzers session
  cases reaches with
  | inspecting => exact inspects
  | choosing inspected builds =>
    rw [inspected, final_ok] at inspects
    exact inspects.trans (plugins.choice_grows
      (fun event remark => own event (Event.isQuiet_of_isRemark remark))
      (fun event tells => own event (Event.isQuiet_of_tellsOfSelecting tells)) fixers _)

/-- A pass that ends where it got to has offered no edits. -/
theorem Ends.of_still {value : PassResult} {reached last : Session σ} (same : reached = last)
    (counted : value.batches = state.batches) : Ends id unitId state reached (.ok value last) := by
  subst same
  refine .refused (.refl reached) fun _ _ ended => ?_
  cases ended
  exact counted

/-- Fixing a batch ends from where the choice of an action does. -/
theorem BatchStep.ends {unit : SourceUnit} {diagnostics : List Diagnostic} {result : PassResult}
    {last : Session σ}
    (fixed : engine.BatchStep unit catalog id diagnostics state session result last) :
    Ends id unit.id state (final (engine.choice unit catalog id
      (batchOf engine.config.batchSize diagnostics) session)) (.ok result last) := by
  cases fixed with
  | ambiguous chose => exact .of_still (by rw [chose, final_ok]) rfl
  | noAction chose => exact .of_still (by rw [chose, final_ok]) rfl
  | emptyAction chose empty => exact .of_still (by rw [chose, final_ok]) rfl
  | @rejected action prepared _ chose edits offered =>
    obtain ⟨workspace, tried, rfl⟩ := offer_eq_ok.mp offered
    have refused : prepared.Grows (fun event => event.isRefusal = true) _ :=
      .of_follows (.of_edit .session tried) rfl
    rw [chose, final_ok]
    refine .refused (refused.note rfl rfl) fun _ _ same => ?_
    cases same
    unfold afterConflict
    split <;> rfl
  | @landed action _ _ chose edits offered =>
    obtain ⟨workspace, tried, rfl⟩ := offer_eq_ok.mp offered
    have edit := Session.Follows.of_edit .session tried
    rw [chose, final_ok]
    refine .landed ⟨action.title, unit.displayName, unit.version, action.edits,
      (edit.trans (.of_note _ rfl)).trans (.of_note _ rfl)⟩ ?_
    unfold afterLanding
    split <;> rfl

theorem pass_ends (engine : Engine σ) (unitId : String) (catalog : Catalog σ) (id : String)
    (state : PassState) (session : Session σ) :
    ∃ reached, engine.Reaches unitId catalog id session reached ∧
      Ends id unitId state reached (engine.pass unitId catalog id state session) := by
  cases ran : engine.pass unitId catalog id state session with
  | error fault last =>
    -- What fails does so before any edits are offered, or when the unit to edit is not there.
    have still : Ends id unitId state last (.error fault last) :=
      .refused (.refl last) fun _ _ same => nomatch same
    rcases pass_of_error ran with failed | ⟨survey, middle, inspected, builds, rfl⟩
    · have reached : final (engine.inspect unitId catalog id session) = last := by
        rw [failed, final_error]
      exact ⟨last, reached ▸ .inspecting, still⟩
    · exact ⟨_, .choosing inspected builds, still⟩
  | ok result last =>
    have stopped {survey : Survey}
        (inspected : engine.inspect unitId catalog id session = .ok survey last)
        (counted : result.batches = state.batches) :
        ∃ reached, engine.Reaches unitId catalog id session reached ∧
          Ends id unitId state reached (.ok result last) :=
      ⟨_, .inspecting, .of_still (by rw [inspected, final_ok]) counted⟩
    cases pass_of_ok ran with
    | broken inspected blocked => exact stopped inspected rfl
    | cleared inspected builds empty => exact stopped inspected rfl
    | stalled inspected builds found repeated => exact stopped inspected rfl
    | acted inspected builds found fresh fixed =>
      obtain rfl := Workspace.id_of_snapshot? (inspect_eq_ok.mp inspected).2.1
      exact ⟨_, .choosing inspected builds, fixed.ends⟩

end Engine

end FixLoop
