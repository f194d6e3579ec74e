import FixLoop.Proofs.Session.Finishing
import FixLoop.Proofs.Session.Yielding
import FixLoop.Proofs.Workspace.Finishing

/-!
What finishing does to a unit. With the formatter used by default both its steps have an answer: the
unit has the text of every document with its banner, and formatted, and where that is how a document
is already, nothing is done.
-/

namespace FixLoop

namespace Engine

open Run

variable {σ : Type} {engine : Engine σ} {unit : SourceUnit} {unitId : String}
  {session : Session σ}

/-- Edits that renew documents land, and if no document needs one, nothing is done. -/
theorem offerEach_renews {edit? : Document → Option TextEdit} {renew : Document → Text}
    {each : TextEdit → Event} {refused : Event} (held : session.HasUnit unit.id unit)
    (distinct : unit.paths.Nodup)
    (path : ∀ document edit, edit? document = some edit → edit.path = document.path)
    (applies : ∀ document, TextEdit.apply document.text (edit? document).toList =
      .ok (renew document)) :
    ∃ version last,
      offerEach unit (unit.documents.filterMap edit?) each refused session = .ok () last ∧
        last.HasUnit unit.id (unit.renewed renew version) ∧
          ((∀ document ∈ unit.documents, edit? document = none) →
            last.Stands session.workspace) := by
  have still : session.Stands session.workspace := ⟨held.running, rfl⟩
  by_cases none : unit.documents.filterMap edit? = []
  · have same : ∀ document ∈ unit.documents, renew document = document.text := by
      intro document member
      have applied := applies document
      rw [List.filterMap_eq_nil_iff.mp none document member] at applied
      exact (Except.ok.inj ((TextEdit.apply_nil _).symm.trans applied)).symm
    refine ⟨unit.version, session, by rw [none]; rfl, ?_, fun _ => still⟩
    rwa [SourceUnit.renewed_of_eq same]
  · have fits := SourceUnit.withEdits_filterMap path distinct fun document _ => applies document
    have notes : ((unit.documents.filterMap edit?).forM fun edit =>
        note (each edit) : Run σ Unit).Yields () := .forM fun _ _ => .note _
    obtain ⟨noted, ran, stands⟩ := notes _ session still
    obtain ⟨last, offered, signal, landed⟩ := offer_of_fits (held.of_stands stands).present fits
    refine ⟨_, last, ?_, ⟨signal ▸ stands.running, landed⟩, fun idle => ?_⟩
    · rw [offerEach, if_neg (by simpa using none)]
      exact (bind_of_ok ran).trans (bind_of_ok offered)
    · exact absurd (List.filterMap_eq_nil_iff.mpr idle) none

/-- The text of a document with the banner for its language, if there is one to add. -/
def bannered (engine : Engine σ) (language : String) (document : Document) : Text :=
  if engine.config.bannerLines = [] then document.text
  else Banner.bannered (Banner.render language engine.config.bannerLines) document

/-- The text of a document when it is formatted, if it is to be. -/
def formatted (engine : Engine σ) (document : Document) : Text :=
  if engine.config.format.isTruthy then Formatting.formatted document else document.text

/-- The text that finishing leaves in a document. -/
def finished (engine : Engine σ) (language : String) (document : Document) : Text :=
  engine.formatted { document with text := engine.bannered language document }

/-- Whether no banner has to be added to a document. -/
def HasBanner (engine : Engine σ) (language : String) (document : Document) : Prop :=
  engine.config.bannerLines ≠ [] →
    Banner.edit? (Banner.render language engine.config.bannerLines) document = none

/-- Whether formatting does not change a document. -/
def HasFormat (engine : Engine σ) (document : Document) : Prop :=
  engine.config.format.isTruthy = true → Formatting.edit? document = none

section

variable (held : session.HasUnit unitId unit) (distinct : unit.paths.Nodup)

include held distinct

theorem addBanner_renews : ∃ version last,
    (if engine.config.bannerLines = [] then pure () else engine.addBanner unitId) session =
        .ok () last ∧
      last.HasUnit unitId (unit.renewed (engine.bannered unit.language) version) ∧
        ((∀ document ∈ unit.documents, engine.HasBanner unit.language document) →
          last.Stands session.workspace) := by
  by_cases none : engine.config.bannerLines = []
  · have same : unit.renewed (engine.bannered unit.language) unit.version = unit :=
      SourceUnit.renewed_of_eq fun _ _ => if_pos none
    refine ⟨unit.version, session, by rw [if_pos none]; rfl, ?_, fun _ => ⟨held.running, rfl⟩⟩
    rwa [same]
  · have same : engine.bannered unit.language =
        Banner.bannered (Banner.render unit.language engine.config.bannerLines) :=
      funext fun _ => if_neg none
    obtain rfl := Workspace.id_of_snapshot? held.present
    rw [if_neg none, addBanner_eq, bind_of_ok (snapshot_eq_ok.mpr ⟨held.present, rfl⟩),
      addBannerFound, Banner.edits_eq none, same]
    obtain ⟨version, last, ran, has, idle⟩ :=
      offerEach_renews held distinct Banner.path_edit? (Banner.apply_edit? _)
    exact ⟨version, last, ran, has, fun settled =>
      idle fun document member => settled document member none⟩

theorem formatUnit_renews (formatter : engine.formatter = Formatting.whitespace) :
    ∃ version last,
      (if engine.config.format.isTruthy then engine.formatUnit unitId else pure ()) session =
          .ok () last ∧
        last.HasUnit unitId (unit.renewed engine.formatted version) ∧
          ((∀ document ∈ unit.documents, engine.HasFormat document) →
            last.Stands session.workspace) := by
  by_cases formats : engine.config.format.isTruthy = true
  · have same : engine.formatted = Formatting.formatted := funext fun _ => if_pos formats
    obtain rfl := Workspace.id_of_snapshot? held.present
    let noted : Session σ := { session with
      journal := .formatting unit.displayName engine.formatter.displayName :: session.journal }
    have heldNoted : noted.HasUnit unit.id unit := ⟨held.running, held.present⟩
    have answered : call (Formatting.edits engine.formatter unit) noted =
        .ok (unit.documents.filterMap Formatting.edit?) noted := by
      rw [formatter, Formatting.edits_whitespace]
      rfl
    rw [if_pos formats, formatUnit_eq, bind_of_ok (snapshot_eq_ok.mpr ⟨held.present, rfl⟩),
      formatFound, bind_of_ok (note_apply _ _), bind_of_ok answered, same]
    obtain ⟨version, last, ran, has, idle⟩ :=
      offerEach_renews heldNoted distinct Formatting.path_edit? Formatting.apply_edit?
    exact ⟨version, last, ran, has, fun settled =>
      idle fun document member => settled document member formats⟩
  · have same : unit.renewed engine.formatted unit.version = unit :=
      SourceUnit.renewed_of_eq fun _ _ => if_neg formats
    refine ⟨unit.version, session, by rw [if_neg formats]; rfl, ?_, fun _ => ⟨held.running, rfl⟩⟩
    rwa [same]

/-- Finishing a unit finishes its documents, and does nothing if they are finished. -/
theorem finishUnit_renews (formatter : engine.formatter = Formatting.whitespace) :
    ∃ version last, engine.finishUnit unitId session = .ok () last ∧
      last.HasUnit unitId (unit.renewed (engine.finished unit.language) version) ∧
        ((∀ document ∈ unit.documents, engine.HasBanner unit.language document ∧
          engine.HasFormat document) → last.Stands session.workspace) := by
  obtain ⟨first, middle, added, has, idle⟩ : ∃ version last,
      (if engine.config.bannerLines = [] then pure () else engine.addBanner unitId) session =
        .ok () last ∧
      last.HasUnit unitId (unit.renewed (engine.bannered unit.language) version) ∧ _ :=
    addBanner_renews held distinct
  have distinct : (unit.renewed (engine.bannered unit.language) first).paths.Nodup := by
    rwa [SourceUnit.paths_renewed]
  obtain ⟨version, last, formatted, kept, still⟩ := formatUnit_renews has distinct formatter
  have twice : (unit.renewed (engine.bannered unit.language) first).renewed engine.formatted
      version = unit.renewed (engine.finished unit.language) version := by
    simp [SourceUnit.renewed, finished]
  refine ⟨version, last, ?_, twice ▸ kept, fun finished => ?_⟩
  · rw [finishUnit_eq, bind_of_ok added, formatted]
  · have stands := idle fun document member => (finished document member).1
    have same : unit = unit.renewed (engine.bannered unit.language) first :=
      Option.some.inj ((held.of_stands stands).present.symm.trans has.present)
    rw [← same, stands.workspace] at still
    exact still fun document member => (finished document member).2

end

end Engine

end FixLoop
