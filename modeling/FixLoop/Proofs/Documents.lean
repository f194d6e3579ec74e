import FixLoop.SourceUnit
import Mathlib.Data.List.Nodup

/-!
Edit sets and documents. If no two documents of a unit have one path, an edit set lands exactly if
the edits of each document do, and each document is then changed by its own edits alone.
-/

namespace FixLoop

theorem nodup_eraseDups (ids : List String) : ids.eraseDups.Nodup := by
  match ids with
  | [] => exact List.nodup_nil
  | id :: rest =>
    rw [List.eraseDups_cons, List.nodup_cons, List.mem_eraseDups]
    exact ⟨by simp, nodup_eraseDups _⟩
termination_by ids.length
decreasing_by
  have shorter := List.length_filter_le (fun other => !other == id) rest
  simp
  omega

theorem TextEdit.apply_nil (text : Text) : TextEdit.apply text [] = .ok text := by
  simp [TextEdit.apply, TextEdit.sorted, TextEdit.overlap?, TextEdit.splice]

/-- One edit within a text replaces what it says. -/
theorem TextEdit.apply_singleton {text : Text} {edit : TextEdit}
    (within : edit.inRange text.length = true) :
    TextEdit.apply text [edit] =
      .ok (text.take edit.start.toNat ++ edit.text ++ text.drop edit.stop.toNat) := by
  simp only [TextEdit.apply, TextEdit.sorted, List.mergeSort_singleton, TextEdit.overlap?,
    TextEdit.splice, within, if_true, List.drop_zero]
  rfl

namespace SourceUnit

/-- The paths of the documents of a unit. -/
def paths (unit : SourceUnit) : List String := unit.documents.map (·.path)

theorem document?_of_mem {unit : SourceUnit} {document : Document} (distinct : unit.paths.Nodup)
    (member : document ∈ unit.documents) : unit.document? document.path = some document := by
  unfold document?
  unfold paths at distinct
  generalize unit.documents = documents at distinct member
  induction documents with
  | nil => cases member
  | cons first rest ih =>
    obtain ⟨apart, distinct⟩ : first.path ∉ rest.map (·.path) ∧ (rest.map (·.path)).Nodup :=
      List.nodup_cons.mp distinct
    rcases List.mem_cons.mp member with rfl | later
    · exact List.find?_cons_of_pos (beq_self_eq_true _)
    · have other : first.path ≠ document.path := fun same =>
        apart (same ▸ List.mem_map_of_mem later)
      rw [List.find?_cons, beq_eq_false_iff_ne.mpr other]
      exact ih distinct later

/-- A snapshot of a unit with new texts for its documents. -/
def renewed (unit : SourceUnit) (renew : Document → Text) (version : Int) : SourceUnit :=
  { unit with
    documents := unit.documents.map fun document => { document with text := renew document }
    version }

theorem paths_renewed (unit : SourceUnit) (renew : Document → Text) (version : Int) :
    (unit.renewed renew version).paths = unit.paths := by
  simp [paths, renewed, Function.comp_def]

theorem renewed_of_eq {unit : SourceUnit} {renew : Document → Text}
    (same : ∀ document ∈ unit.documents, renew document = document.text) :
    unit.renewed renew unit.version = unit := by
  have documents : (unit.documents.map fun document => { document with text := renew document }) =
      unit.documents := by
    refine (List.map_congr_left fun document member => ?_).trans (List.map_id _)
    rw [same document member]
    rfl
  rw [renewed, documents]

/-- The documents with new texts for some paths. -/
def retext (renew : Document → Text) (paths : List String) (documents : List Document) :
    List Document :=
  documents.map fun document =>
    if document.path ∈ paths then { document with text := renew document } else document

variable {documents : List Document} {path : String} {change : Text → Except EditFault Text}
  {renew : Document → Text} {edits : List TextEdit}

theorem map_path_retext (renew : Document → Text) (paths : List String)
    (documents : List Document) :
    (retext renew paths documents).map (·.path) = documents.map (·.path) := by
  unfold retext
  rw [List.map_map]
  apply List.map_congr_left
  intro document _
  dsimp only [Function.comp_apply]
  split <;> rfl

theorem retext_of_not_mem {paths : List String}
    (apart : ∀ document ∈ documents, document.path ∉ paths) :
    retext renew paths documents = documents := by
  unfold retext
  refine (List.map_congr_left fun document member => ?_).trans (List.map_id documents)
  rw [if_neg (apart document member), id_eq]

theorem changeDocument_eq (distinct : (documents.map (·.path)).Nodup)
    (named : path ∈ documents.map (·.path))
    (changes : ∀ document ∈ documents, document.path = path →
      change document.text = .ok (renew document)) :
    changeDocument path change documents = .ok (retext renew [path] documents) := by
  induction documents with
  | nil => cases named
  | cons document rest ih =>
    obtain ⟨apart, distinct⟩ : document.path ∉ rest.map (·.path) ∧ (rest.map (·.path)).Nodup :=
      List.nodup_cons.mp distinct
    have others : rest.any (·.path == path) = true ↔ path ∈ rest.map (·.path) := by
      simp [List.mem_map]
    have changes' : ∀ other ∈ rest, other.path = path → change other.text = .ok (renew other) :=
      fun other member => changes other (List.mem_cons_of_mem _ member)
    unfold changeDocument
    split
    · rename_i later
      have apart : document.path ≠ path := by
        intro own
        rw [own] at apart
        exact apart (others.mp later)
      rw [ih distinct (others.mp later) changes']
      simp [retext, apart, Functor.map, Except.map]
    · rename_i none
      have own : document.path = path := by
        rw [others] at none
        exact (List.mem_cons.mp named).resolve_right none |>.symm
      have rest' : retext renew [path] rest = rest := by
        apply retext_of_not_mem
        intro other member same
        rw [List.mem_singleton] at same
        exact none (others.mpr (same ▸ List.mem_map_of_mem member))
      rw [if_pos own, changes document List.mem_cons_self own]
      have whole : retext renew [path] (document :: rest) =
          { document with text := renew document } :: retext renew [path] rest := by
        rw [retext, List.map_cons, if_pos (by simpa using own)]
        rfl
      rw [whole, rest']
      rfl

/-- Of the documents that have other paths none is changed. -/
theorem mem_of_mem_retext {document : Document} (apart : document.path ≠ path)
    (member : document ∈ retext renew [path] documents) : document ∈ documents := by
  obtain ⟨original, among, rfl⟩ := List.mem_map.mp member
  split at apart
  · rename_i own
    exact absurd (List.mem_singleton.mp own) apart
  · rename_i other
    rwa [if_neg other]

/-- Changing documents path by path changes each of them once. -/
theorem retext_cons {more : List String} (new : path ∉ more) :
    retext renew more (retext renew [path] documents) = retext renew (path :: more) documents := by
  unfold retext
  rw [List.map_map]
  apply List.map_congr_left
  intro document _
  dsimp only [Function.comp_apply]
  by_cases own : document.path = path
  · have settled : document.path ∉ more := own ▸ new
    rw [if_pos (List.mem_singleton.mpr own), if_neg settled, if_pos (own ▸ List.mem_cons_self)]
  · have apart : document.path ∉ [path] := by simpa using own
    rw [if_neg apart]
    exact if_congr (by rw [List.mem_cons, or_iff_right own]) rfl rfl

theorem foldlM_changeDocument {paths : List String} (distinct : (documents.map (·.path)).Nodup)
    (once : paths.Nodup) (named : ∀ path ∈ paths, path ∈ documents.map (·.path))
    (changes : String → Text → Except EditFault Text)
    (each : ∀ document ∈ documents, document.path ∈ paths →
      changes document.path document.text = .ok (renew document)) :
    paths.foldlM (fun documents path => changeDocument path (changes path) documents) documents =
      .ok (retext renew paths documents) := by
  induction paths generalizing documents with
  | nil => rw [retext_of_not_mem fun _ _ => List.not_mem_nil]; rfl
  | cons path more ih =>
    obtain ⟨new, once⟩ := List.nodup_cons.mp once
    have here : changeDocument path (changes path) documents = _ :=
      changeDocument_eq distinct (named path List.mem_cons_self) fun document member own =>
        own ▸ each document member (own ▸ List.mem_cons_self)
    rw [List.foldlM_cons, here]
    refine (ih ?_ once ?_ ?_).trans (congrArg Except.ok (retext_cons new))
    · rwa [map_path_retext]
    · rw [map_path_retext]
      exact fun other member => named other (List.mem_cons_of_mem _ member)
    · intro document member later
      have apart : document.path ≠ path := fun own => new (own ▸ later)
      exact each document (mem_of_mem_retext apart member) (List.mem_cons_of_mem _ later)

/-- The edits of a document. -/
def editsOf (edits : List TextEdit) (path : String) : List TextEdit :=
  edits.filter (·.path == path)

/-- An edit set lands if the edits of each document do. -/
theorem withEdits_eq {unit : SourceUnit} (distinct : unit.paths.Nodup)
    (named : ∀ edit ∈ edits, edit.path ∈ unit.paths)
    (each : ∀ document ∈ unit.documents,
      TextEdit.apply document.text (editsOf edits document.path) = .ok (renew document)) :
    unit.withEdits edits = .ok (unit.renewed renew (unit.version + 1)) := by
  have edited : editDocuments unit.documents edits =
      .ok (retext renew (editedPaths edits) unit.documents) := by
    refine foldlM_changeDocument distinct (nodup_eraseDups _) ?_ _ fun document member _ =>
      each document member
    intro path member
    obtain ⟨edit, given, rfl⟩ := List.mem_map.mp (List.mem_eraseDups.mp member)
    exact named edit given
  have all : retext renew (editedPaths edits) unit.documents =
      unit.documents.map fun document => { document with text := renew document } := by
    apply List.map_congr_left
    intro document member
    split
    · rfl
    · rename_i unnamed
      have none : editsOf edits document.path = [] := by
        refine List.filter_eq_nil_iff.mpr fun edit given own => unnamed ?_
        rw [← beq_iff_eq.mp own]
        exact List.mem_eraseDups.mpr (List.mem_map_of_mem given)
      have kept := each document member
      rw [none, TextEdit.apply_nil] at kept
      rw [← Except.ok.inj kept]
  unfold withEdits
  rw [edited, all]
  rfl

section

/-! Edit sets that have no more than one edit for a document. -/

variable {edit? : Document → Option TextEdit} {unit : SourceUnit}
  (own : ∀ document edit, edit? document = some edit → edit.path = document.path)

include own

theorem editsOf_filterMap (distinct : (documents.map (·.path)).Nodup) {document : Document}
    (member : document ∈ documents) :
    editsOf (documents.filterMap edit?) document.path = (edit? document).toList := by
  have others {rest : List Document} {path : String} (apart : path ∉ rest.map (·.path)) :
      editsOf (rest.filterMap edit?) path = [] := by
    refine List.filter_eq_nil_iff.mpr fun edit given same => apart ?_
    obtain ⟨other, among, made⟩ := List.mem_filterMap.mp given
    rw [← beq_iff_eq.mp same, own other edit made]
    exact List.mem_map_of_mem among
  induction documents with
  | nil => cases member
  | cons first rest ih =>
    obtain ⟨apart, distinct⟩ : first.path ∉ rest.map (·.path) ∧ (rest.map (·.path)).Nodup :=
      List.nodup_cons.mp distinct
    have split : (first :: rest).filterMap edit? =
        (edit? first).toList ++ rest.filterMap edit? := by
      cases made : edit? first <;> simp [made]
    rw [split, editsOf, List.filter_append]
    change editsOf (edit? first).toList _ ++ editsOf (rest.filterMap edit?) _ = _
    rcases List.mem_cons.mp member with rfl | later
    · rw [others apart, List.append_nil]
      refine List.filter_eq_self.mpr fun edit given => beq_iff_eq.mpr (own _ edit ?_)
      exact Option.mem_toList.mp given
    · rw [ih distinct later]
      have none : editsOf (edit? first).toList document.path = [] := by
        refine List.filter_eq_nil_iff.mpr fun edit given same => apart ?_
        rw [← own first edit (Option.mem_toList.mp given), beq_iff_eq.mp same]
        exact List.mem_map_of_mem later
      rw [none, List.nil_append]

/-- An edit set with one edit for some documents lands if each of its edits does. -/
theorem withEdits_filterMap (distinct : unit.paths.Nodup)
    (each : ∀ document ∈ unit.documents,
      TextEdit.apply document.text (edit? document).toList = .ok (renew document)) :
    unit.withEdits (unit.documents.filterMap edit?) =
      .ok (unit.renewed renew (unit.version + 1)) := by
  refine withEdits_eq distinct (fun edit given => ?_) fun document member => ?_
  · obtain ⟨document, member, made⟩ := List.mem_filterMap.mp given
    rw [own document edit made]
    exact List.mem_map_of_mem member
  · rw [editsOf_filterMap own distinct member]
    exact each document member

end

end SourceUnit

end FixLoop
