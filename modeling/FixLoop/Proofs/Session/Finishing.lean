import FixLoop.Proofs.Session.Journal
import FixLoop.Session.Remediation

/-!
What a whole run keeps. Beyond fixing its units one after another, a run adds banners and formats.
Both edit the snapshot that they start from, so what they keep is concluded from what offering those
edits does.
-/

namespace FixLoop

namespace Engine

open Run

variable {σ : Type} {engine : Engine σ} {unitId : String} {unit : SourceUnit}
  {inv : Session σ → Prop} {allowed : Fault → Session σ → Prop}

/-- Offers edits, if there are any, each of which is noted, and so is that they do not land. -/
def offerEach (unit : SourceUnit) (edits : List TextEdit) (each : TextEdit → Event)
    (refused : Event) : Run σ Unit := do
  if edits.isEmpty then return
  edits.forM fun edit => note (each edit)
  if !(← offer unit edits) then note refused

/-- What adding a banner does with the snapshot that it starts from. -/
def addBannerFound (engine : Engine σ) (unit : SourceUnit) : Run σ Unit :=
  offerEach unit (Banner.edits unit engine.config.bannerLines) (.bannerAdded ·.path)
    (.bannerRejected unit.displayName)

/-- What formatting does with the snapshot that it starts from. -/
def formatFound (engine : Engine σ) (unit : SourceUnit) : Run σ Unit := do
  note (.formatting unit.displayName engine.formatter.displayName)
  let edits ← call (Formatting.edits engine.formatter unit)
  offerEach unit edits (.formatted ·.path) (.formattingRejected unit.displayName)

theorem addBanner_eq (engine : Engine σ) (unitId : String) :
    engine.addBanner unitId = snapshot unitId >>= engine.addBannerFound := rfl

theorem formatUnit_eq (engine : Engine σ) (unitId : String) :
    engine.formatUnit unitId = snapshot unitId >>= engine.formatFound := rfl

theorem finishUnit_eq (engine : Engine σ) (unitId : String) :
    engine.finishUnit unitId =
      (if engine.config.bannerLines = [] then pure () else engine.addBanner unitId) >>= fun _ =>
        if engine.config.format.isTruthy then engine.formatUnit unitId else pure () := by
  unfold finishUnit
  cases engine.config.bannerLines <;> rfl

section

variable (noted : ∀ event : Event, event.isEffect = false → ∀ session, inv session →
  inv { session with journal := event :: session.journal })

include noted

theorem offerEach_keeps {edits : List TextEdit} {each : TextEdit → Event} {refused : Event}
    (calm : ∀ edit, (each edit).isEffect = false) (still : refused.isEffect = false)
    (offers : (offer unit edits).Keeps inv allowed) :
    (offerEach unit edits each refused).Keeps inv allowed := by
  unfold offerEach
  split
  · exact .pure _
  · refine (Keeps.forM fun edit _ => .note (noted _ (calm edit))).bind fun _ => ?_
    refine offers.bind fun landed => ?_
    split
    · exact .note (noted _ still)
    · exact .pure _

theorem addBannerFound_keeps
    (offers : (offer unit (Banner.edits unit engine.config.bannerLines)).Keeps inv allowed) :
    (engine.addBannerFound unit).Keeps inv allowed :=
  offerEach_keeps noted (fun _ => rfl) rfl offers

theorem formatFound_keeps
    (format : (call (Formatting.edits engine.formatter unit)).Keeps inv allowed)
    (offers : ∀ edits before after,
      call (Formatting.edits engine.formatter unit) before = .ok edits after →
      (offer unit edits).Keeps inv allowed) :
    (engine.formatFound unit).Keeps inv allowed := by
  refine (Keeps.note (noted _ rfl)).bind fun _ => format.bind_of fun edits before after given => ?_
  exact offerEach_keeps noted (fun _ => rfl) rfl (offers edits before after given)

/-- What is done after a unit was fixed keeps an invariant that notes and edits of the unit keep. -/
theorem finishUnit_keeps (present : (snapshot unitId : Run σ SourceUnit).Keeps inv allowed)
    (offers : ∀ unit edits, unit.id = unitId → (offer unit edits).Keeps inv allowed)
    (format : ∀ unit, (call (Formatting.edits engine.formatter unit)).Keeps inv allowed) :
    (engine.finishUnit unitId).Keeps inv allowed := by
  have addsBanner : (engine.addBanner unitId).Keeps inv allowed :=
    present.bind_of fun unit _ _ found => addBannerFound_keeps noted
      (offers unit _ (Workspace.id_of_snapshot? (snapshot_eq_ok.mp found).1))
  have formats : (engine.formatUnit unitId).Keeps inv allowed :=
    present.bind_of fun unit _ _ found => formatFound_keeps noted (format unit) fun edits _ _ _ =>
      offers unit edits (Workspace.id_of_snapshot? (snapshot_eq_ok.mp found).1)
  rw [finishUnit_eq]
  refine Keeps.bind ?_ fun _ => ?_
  · split
    · exact .pure _
    · exact addsBanner
  · split
    · exact formats
    · exact .pure _

/-- Fixing units in order keeps an invariant that fixing and finishing each of them does. -/
theorem fixUnits_keeps {order : List String}
    (present : ∀ unitId ∈ order, (snapshot unitId : Run σ SourceUnit).Keeps inv allowed)
    (fixes : ∀ unitId ∈ order, (engine.fixUnit unitId).Keeps inv allowed)
    (finishes : ∀ unitId ∈ order, (engine.finishUnit unitId).Keeps inv allowed) (total : Nat) :
    ∀ position state, (engine.fixUnits total position order state).Keeps inv allowed := by
  have noted {event : Event} (calm : event.isEffect = false) :
      (note event : Run σ Unit).Keeps inv allowed := .note (noted event calm)
  induction order with
  | nil => exact fun position state => .pure _
  | cons unitId rest ih =>
    intro position state
    have later := ih (fun other member => present other (List.mem_cons_of_mem _ member))
      (fun other member => fixes other (List.mem_cons_of_mem _ member))
      fun other member => finishes other (List.mem_cons_of_mem _ member)
    refine Keeps.isCancelled.bind fun cancelled => ?_
    split
    · exact .pure _
    · refine (present unitId List.mem_cons_self).bind fun unit => ?_
      split
      · refine (noted rfl).bind fun _ => (fixes unitId List.mem_cons_self).bind fun result => ?_
        refine Keeps.isCancelled.bind fun cancelled => ?_
        split
        · exact .pure _
        · split
          · exact .pure _
          · refine (finishes unitId List.mem_cons_self).bind fun _ => ?_
            exact (noted rfl).bind fun _ => later _ _
      · exact (noted rfl).bind fun _ => later _ _

/-- Once its units are ordered, a run keeps an invariant that fixing them in order does. -/
theorem remediate_keeps {requested : Option (List String)} {order : List String}
    {start : Session σ} (ordered : start.workspace.order requested = .ok order)
    (fixed : (engine.fixUnits order.length 1 order {}).Keeps inv allowed) :
    ∃ rest : Run σ RunReport, rest.Keeps inv allowed ∧
      engine.remediate requested start = rest start := by
  have noted {event : Event} (calm : event.isEffect = false) :
      (note event : Run σ Unit).Keeps inv allowed := .note (noted event calm)
  have placed : unitOrder requested start = .ok order start := by rw [unitOrder, ordered]
  refine ⟨_, ?_, bind_of_ok placed⟩
  refine (Keeps.forM fun _ _ => noted rfl).bind fun _ => ?_
  refine (Keeps.forM fun _ _ => noted rfl).bind fun _ => ?_
  refine fixed.bind fun state => (noted rfl).bind fun _ => ?_
  exact Keeps.get.bind fun now => .pure _

/-- Wherever a run ends, it has kept what fixing its units in order keeps. -/
theorem final_remediate {requested : Option (List String)} {start : Session σ} (holds : inv start)
    (fixed : ∀ order, start.workspace.order requested = .ok order →
      (engine.fixUnits order.length 1 order {}).Keeps inv allowed) :
    inv (final (engine.remediate requested start)) := by
  cases ordered : start.workspace.order requested with
  | error fault =>
    have failed : engine.remediate requested start = .error (.workspace fault) start :=
      bind_of_error (by rw [unitOrder, ordered])
    rwa [failed]
  | ok order =>
    obtain ⟨rest, keeps, same⟩ := remediate_keeps noted ordered (fixed order ordered)
    rw [same]
    exact keeps.final holds

end

end Engine

end FixLoop
