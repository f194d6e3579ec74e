import FixLoop.Banner
import FixLoop.Formatting
import FixLoop.Proofs.Documents

/-!
What finishing makes of documents. A banner is put before each document that needs one, and
formatting replaces each document that it changes, so no document gets more than one edit and the
edits land in any unit whose documents can be told apart.
-/

namespace FixLoop

namespace Formatting

/-- The text of a document when it is formatted. -/
def formatted (document : Document) : Text :=
  if document.isGenerated then document.text else tidy document.text

/-- The edit that formats a document, if that changes it. -/
def edit? (document : Document) : Option TextEdit :=
  if formatted document = document.text then none
  else some
    { path := document.path, start := 0, stop := document.text.length, text := formatted document }

variable {σ : Type} {unit : SourceUnit} {document : Document}

theorem edits_whitespace (unit : SourceUnit) :
    (edits whitespace unit : Callback σ (List TextEdit)) =
      .answer (unit.documents.filterMap edit?) := by
  change documentEdits whitespace unit unit.documents = _
  induction unit.documents with
  | nil => rfl
  | cons document rest ih =>
    unfold documentEdits
    rw [List.filterMap_cons, ih]
    by_cases generated : document.isGenerated = true
    · rw [if_pos generated, edit?, formatted, if_pos generated, if_pos rfl]
    · rw [if_neg generated]
      change (if tidy document.text = document.text then _ else _) = _
      rw [edit?, formatted, if_neg generated]
      split <;> rfl

theorem path_edit? (document : Document) (edit : TextEdit) (made : edit? document = some edit) :
    edit.path = document.path := by
  unfold edit? at made
  split at made <;> cases made
  rfl

theorem apply_edit? (document : Document) :
    TextEdit.apply document.text (edit? document).toList = .ok (formatted document) := by
  unfold edit?
  split
  · rename_i same
    rw [same]
    exact TextEdit.apply_nil _
  · refine (TextEdit.apply_singleton (by simp [TextEdit.inRange])).trans ?_
    simp

/-- Formatting lands. -/
theorem withEdits (distinct : unit.paths.Nodup) :
    unit.withEdits (unit.documents.filterMap edit?) =
      .ok (unit.renewed formatted (unit.version + 1)) :=
  SourceUnit.withEdits_filterMap path_edit? distinct fun document _ => apply_edit? document

end Formatting

namespace Banner

/-- The text of a document that has the banner, which a generated one does not need. -/
def bannered (rendered : List Text) (document : Document) : Text :=
  if document.isGenerated || startsWith document.text rendered then document.text
  else insertion document.text rendered ++ document.text

/-- The edit that adds the banner to a document, if it lacks it. -/
def edit? (rendered : List Text) (document : Document) : Option TextEdit :=
  if document.isGenerated || startsWith document.text rendered then none
  else some
    { path := document.path, start := 0, stop := 0, text := insertion document.text rendered }

variable {unit : SourceUnit} {lines : List String} {rendered : List Text}

theorem edits_eq (some : lines ≠ []) :
    edits unit lines = unit.documents.filterMap (edit? (render unit.language lines)) := by
  have filled : ¬ lines.isEmpty = true := by simpa using some
  unfold edits
  rw [if_neg filled]
  dsimp only
  induction unit.documents with
  | nil => rfl
  | cons document rest ih =>
    rw [List.filter_cons, List.filterMap_cons, ← ih, edit?, ← Bool.not_or]
    cases document.isGenerated || startsWith document.text (render unit.language lines) <;> rfl

theorem path_edit? (document : Document) (edit : TextEdit)
    (made : edit? rendered document = some edit) : edit.path = document.path := by
  unfold edit? at made
  split at made <;> cases made
  rfl

theorem apply_edit? (rendered : List Text) (document : Document) :
    TextEdit.apply document.text (edit? rendered document).toList =
      .ok (bannered rendered document) := by
  unfold edit? bannered
  split
  · exact TextEdit.apply_nil _
  · refine (TextEdit.apply_singleton (by simp [TextEdit.inRange])).trans ?_
    simp

end Banner

end FixLoop
