import FixLoop.Proofs.Documents
import FixLoop.Proofs.Failing
import FixLoop.Proofs.Replacing

/-!
Edit sets for several documents. The documents are changed one after another, but changing one does
not bear on the others, so an edit set lands exactly if nothing is wrong with the edits of any one
document, and it lands as a whole. The order of its edits, also of those for different documents,
makes no difference to this.
-/

namespace FixLoop

theorem TextEdit.Misfit.not_fit {length : Nat} {edits : List TextEdit} {fault : EditFault}
    (wrong : Misfit length edits fault) : ¬Fit length edits := by
  intro fit
  cases wrong with
  | overlap given overlap =>
    obtain ⟨pair, reordered, among⟩ := given
    have apart := (fit.apart.sublist among).perm reordered Apart.symm
    have free : Apart _ _ := (List.pairwise_cons.mp apart).1 _ (List.mem_singleton_self _)
    exact nomatch overlap.symm.trans free
  | outOfRange given outside => exact outside (fit.within _ given)

theorem TextEdit.Misfit.perm {length : Nat} {edits others : List TextEdit} {fault : EditFault}
    (wrong : Misfit length edits fault) (reordered : edits.Perm others) :
    Misfit length others fault := by
  cases wrong with
  | overlap given overlap => exact .overlap (given.trans reordered.subperm) overlap
  | outOfRange given outside => exact .outOfRange (reordered.mem_iff.mp given) outside

namespace SourceUnit

variable {documents after : List Document} {document : Document} {path : String}
  {paths : List String} {change : Text → Except EditFault Text} {renew : Document → Text}
  {edits others : List TextEdit} {fault : EditFault} {unit : SourceUnit}

/-! ### One document -/

theorem changeDocument_unnamed (unnamed : path ∉ documents.map (·.path)) :
    changeDocument path change documents = .error (.unknownDocument path) := by
  cases documents with
  | nil => rfl
  | cons document rest =>
    rw [List.map_cons, List.mem_cons, not_or] at unnamed
    obtain ⟨other, none⟩ := unnamed
    have none : ¬rest.any (·.path == path) = true := by simpa using none
    rw [changeDocument, if_neg none, if_neg (Ne.symm other)]

theorem changeDocument_fails (named : path ∈ documents.map (·.path))
    (fails : ∀ document ∈ documents, document.path = path → change document.text = .error fault) :
    changeDocument path change documents = .error fault := by
  induction documents with
  | nil => cases named
  | cons document rest ih =>
    unfold changeDocument
    split
    · next later =>
      have named : path ∈ rest.map (·.path) := by simpa using later
      rw [ih named fun other member => fails other (List.mem_cons_of_mem _ member)]
      rfl
    · next none =>
      have none : path ∉ rest.map (·.path) := by simpa using none
      have own : document.path = path := ((List.mem_cons.mp named).resolve_right none).symm
      rw [if_pos own, fails document List.mem_cons_self own]
      rfl

/-- Changing a document changes its text and nothing else, or fails as the change of its text
does. -/
theorem changeDocument_of_mem (distinct : (documents.map (·.path)).Nodup)
    (member : document ∈ documents) : changeDocument document.path change documents =
      (change document.text).map fun text => retext (fun _ => text) [document.path] documents := by
  have named : document.path ∈ documents.map (·.path) := List.mem_map_of_mem member
  have only : ∀ other ∈ documents, other.path = document.path → other = document :=
    fun other also same => List.inj_on_of_nodup_map distinct also member same
  cases changed : change document.text with
  | ok text =>
    exact changeDocument_eq distinct named fun other also same => only other also same ▸ changed
  | error fault =>
    exact changeDocument_fails named fun other also same => only other also same ▸ changed

theorem exists_of_changeDocument (distinct : (documents.map (·.path)).Nodup)
    (changed : changeDocument path change documents = .ok after) :
    ∃ renew, after = retext renew [path] documents := by
  by_cases named : path ∈ documents.map (·.path)
  · obtain ⟨document, member, rfl⟩ := List.mem_map.mp named
    rw [changeDocument_of_mem distinct member] at changed
    obtain ⟨text, -, rfl⟩ := exists_of_map_eq_ok changed
    exact ⟨_, rfl⟩
  · rw [changeDocument_unnamed named] at changed
    cases changed

/-- A document is changed alike, whatever became of others. -/
theorem changeDocument_retext (apart : path ∉ paths) :
    changeDocument path change (retext renew paths documents) =
      (changeDocument path change documents).map (retext renew paths) := by
  induction documents with
  | nil => rfl
  | cons document rest ih =>
    have named : (retext renew paths rest).any (·.path == path) = rest.any (·.path == path) := by
      have same := congrArg (List.any · (· == path)) (map_path_retext renew paths rest)
      rwa [List.any_map, List.any_map] at same
    have split : retext renew paths (document :: rest) =
        (if document.path ∈ paths then { document with text := renew document } else document) ::
          retext renew paths rest := rfl
    rw [split]
    unfold changeDocument
    rw [named, ih]
    split
    · cases changeDocument path change rest <;> rfl
    · by_cases own : document.path = path
      · have kept : document.path ∉ paths := own ▸ apart
        rw [if_neg kept, if_pos own, if_pos own]
        cases change document.text with
        | error fault => rfl
        | ok text =>
          refine congrArg Except.ok ?_
          simp [retext, kept]
      · have other : ¬(if document.path ∈ paths then { document with text := renew document }
            else document).path = path := by split <;> exact own
        rw [if_neg own, if_neg other]
        rfl

/-! ### All documents -/

/-- Documents that are changed one after another are changed as each of them is alone, and the first
fault is that of one of them alone. -/
theorem foldlM_changeDocument_cases (distinct : (documents.map (·.path)).Nodup) (once : paths.Nodup)
    (changes : String → Text → Except EditFault Text) :
    (∃ after, paths.foldlM (fun documents path => changeDocument path (changes path) documents)
        documents = .ok after ∧
      ∀ path ∈ paths, ∃ alone, changeDocument path (changes path) documents = .ok alone) ∨
    ∃ fault, paths.foldlM (fun documents path => changeDocument path (changes path) documents)
        documents = .error fault ∧
      ∃ path ∈ paths, changeDocument path (changes path) documents = .error fault := by
  induction paths generalizing documents with
  | nil => exact .inl ⟨documents, rfl, fun _ member => nomatch member⟩
  | cons path more ih =>
    obtain ⟨new, once⟩ := List.nodup_cons.mp once
    rw [List.foldlM_cons]
    cases changed : changeDocument path (changes path) documents with
    | error fault => exact .inr ⟨fault, rfl, path, List.mem_cons_self, changed⟩
    | ok middle =>
      obtain ⟨renew, rfl⟩ := exists_of_changeDocument distinct changed
      have alone {other : String} (later : other ∈ more) :
          changeDocument other (changes other) (retext renew [path] documents) =
            (changeDocument other (changes other) documents).map (retext renew [path]) :=
        changeDocument_retext fun same => new (List.mem_singleton.mp same ▸ later)
      have distinct : ((retext renew [path] documents).map (·.path)).Nodup := by
        rwa [map_path_retext]
      rcases ih distinct once with ⟨after, ran, each⟩ | ⟨fault, failed, other, later, culprit⟩
      · refine .inl ⟨after, ran, List.forall_mem_cons.mpr ⟨⟨_, changed⟩, fun other later => ?_⟩⟩
        obtain ⟨result, went⟩ := each other later
        rw [alone later] at went
        obtain ⟨result, went, -⟩ := exists_of_map_eq_ok went
        exact ⟨result, went⟩
      · refine .inr ⟨fault, failed, other, List.mem_cons_of_mem _ later, ?_⟩
        rw [alone later] at culprit
        exact map_fails_iff.mp culprit

/-! ### Whether an edit set lands -/

/-- What is wrong with an edit set for a unit: an edit names no document of it, or something is
wrong with the edits of one of its documents. -/
inductive Refuses (unit : SourceUnit) (edits : List TextEdit) : EditFault → Prop
  | unknown {edit : TextEdit} (given : edit ∈ edits) (unnamed : edit.path ∉ unit.paths) :
    Refuses unit edits (.unknownDocument edit.path)
  | misfit {document : Document} {fault : EditFault} (member : document ∈ unit.documents)
      (wrong : TextEdit.Misfit document.text.length (editsOf edits document.path) fault) :
    Refuses unit edits fault

/-- Whether a document has become what its own edits make of it. -/
structure Turns (edits : List TextEdit) (before after : Document) : Prop where
  path : after.path = before.path
  text : TextEdit.apply before.text (editsOf edits before.path) = .ok after.text
  spared : (∀ edit ∈ edits, edit.path ≠ before.path) → after = before

/-- The text that its own edits make of a document. -/
def editedText (edits : List TextEdit) (document : Document) : Text :=
  (TextEdit.apply document.text (editsOf edits document.path)).toOption.getD document.text

theorem oneDocument_editsOf (edits : List TextEdit) (path : String) :
    TextEdit.OneDocument (editsOf edits path) := by
  intro a first b second
  have left := beq_iff_eq.mp (List.mem_filter.mp first).2
  have right := beq_iff_eq.mp (List.mem_filter.mp second).2
  exact left.trans right.symm

theorem Refuses.perm (wrong : unit.Refuses edits fault) (reordered : edits.Perm others) :
    unit.Refuses others fault := by
  cases wrong with
  | unknown given unnamed => exact .unknown (reordered.mem_iff.mp given) unnamed
  | misfit member wrong => exact .misfit member (wrong.perm (reordered.filter _))

theorem editedText_perm (reordered : others.Perm edits) :
    editedText others = editedText edits := by
  funext document
  have same : TextEdit.apply document.text (editsOf others document.path) = _ :=
    TextEdit.apply_perm (oneDocument_editsOf edits document.path) (reordered.filter _)
  rw [editedText, same, editedText]

theorem apply_editsOf (free : ∀ fault, ¬unit.Refuses edits fault)
    (member : document ∈ unit.documents) :
    TextEdit.apply document.text (editsOf edits document.path) =
      .ok (editedText edits document) := by
  cases applied : TextEdit.apply document.text (editsOf edits document.path) with
  | ok text => simp [editedText, applied, Except.toOption]
  | error fault => exact absurd (.misfit member (TextEdit.misfit_of_apply applied)) (free fault)

theorem withEdits_of_free (distinct : unit.paths.Nodup)
    (free : ∀ fault, ¬unit.Refuses edits fault) :
    unit.withEdits edits = .ok (unit.renewed (editedText edits) (unit.version + 1)) := by
  refine withEdits_eq distinct (fun edit given => ?_) fun document member =>
    apply_editsOf free member
  by_contra unnamed
  exact free _ (.unknown given unnamed)

theorem mem_editedPaths : path ∈ editedPaths edits ↔ ∃ edit ∈ edits, edit.path = path := by
  rw [editedPaths, List.mem_eraseDups, List.mem_map]

theorem editsOf_eq_nil (spared : ∀ edit ∈ edits, edit.path ≠ path) : editsOf edits path = [] :=
  List.filter_eq_nil_iff.mpr fun edit given own => spared edit given (beq_iff_eq.mp own)

/-- If each edited document can be changed, nothing is wrong. -/
theorem not_refuses_of_each (distinct : unit.paths.Nodup)
    (each : ∀ path ∈ editedPaths edits, ∃ alone,
      changeDocument path (TextEdit.apply · (editsOf edits path)) unit.documents = .ok alone) :
    ¬unit.Refuses edits fault := by
  intro wrong
  cases wrong with
  | @unknown edit given unnamed =>
    obtain ⟨alone, changed⟩ := each edit.path (mem_editedPaths.mpr ⟨edit, given, rfl⟩)
    rw [changeDocument_unnamed unnamed] at changed
    cases changed
  | @misfit document _ member wrong =>
    by_cases edited : document.path ∈ editedPaths edits
    · obtain ⟨alone, changed⟩ := each _ edited
      rw [changeDocument_of_mem distinct member] at changed
      obtain ⟨text, applied, -⟩ := exists_of_map_eq_ok changed
      exact wrong.not_fit (TextEdit.fit_of_apply (oneDocument_editsOf edits _) applied)
    · rw [editsOf_eq_nil fun edit given own => edited (mem_editedPaths.mpr ⟨edit, given, own⟩)]
        at wrong
      exact wrong.not_fit ⟨nofun, .nil⟩

/-- If an edited document cannot be changed, the fault says what is wrong. -/
theorem refuses_of_alone (distinct : unit.paths.Nodup) (edited : path ∈ editedPaths edits)
    (failed : changeDocument path (TextEdit.apply · (editsOf edits path)) unit.documents =
      .error fault) : unit.Refuses edits fault := by
  by_cases known : path ∈ unit.paths
  · obtain ⟨document, member, rfl⟩ := List.mem_map.mp known
    rw [changeDocument_of_mem distinct member] at failed
    exact .misfit member (TextEdit.misfit_of_apply (map_fails_iff.mp failed))
  · rw [changeDocument_unnamed known] at failed
    obtain rfl := Except.error.inj failed
    obtain ⟨edit, given, rfl⟩ := mem_editedPaths.mp edited
    exact .unknown given known

theorem withEdits_cases (distinct : unit.paths.Nodup) (edits : List TextEdit) :
    (∃ next, unit.withEdits edits = .ok next) ∧ (∀ fault, ¬unit.Refuses edits fault) ∨
      ∃ fault, unit.withEdits edits = .error fault ∧ unit.Refuses edits fault := by
  rcases foldlM_changeDocument_cases distinct (nodup_eraseDups (edits.map (·.path)))
    fun path text => TextEdit.apply text (editsOf edits path) with
    ⟨after, ran, each⟩ | ⟨fault, failed, path, edited, culprit⟩
  · exact .inl ⟨⟨_, congrArg (· >>= _) ran⟩, fun _ => not_refuses_of_each distinct each⟩
  · exact .inr ⟨fault, congrArg (· >>= _) failed, refuses_of_alone distinct edited culprit⟩

/-- An edit set fails to land exactly if something is wrong with it. -/
theorem withEdits_fails_iff (distinct : unit.paths.Nodup) :
    (∃ fault, unit.withEdits edits = .error fault) ↔ ∃ fault, unit.Refuses edits fault := by
  rcases withEdits_cases distinct edits with ⟨⟨next, landed⟩, free⟩ | ⟨fault, failed, wrong⟩
  · exact iff_of_false (fun ⟨_, failed⟩ => nomatch landed.symm.trans failed)
      fun ⟨fault, wrong⟩ => free fault wrong
  · exact iff_of_true ⟨fault, failed⟩ ⟨fault, wrong⟩

/-- An edit set lands as a whole or not at all: it does not exactly if one of its edits names no
document, or if for some document one of its edits is out of range or two of them overlap, and the
fault says one of these things. If it lands, the version counts on, each document has become what
its own edits make of it, and all else is as before. The order of the edits makes no difference. -/
theorem withEdits_whole (distinct : unit.paths.Nodup) :
    ((∃ fault, unit.withEdits edits = .error fault) ↔ ∃ fault, unit.Refuses edits fault) ∧
      (∀ fault, unit.withEdits edits = .error fault → unit.Refuses edits fault) ∧
      ((∀ fault, ¬unit.Refuses edits fault) → ∃ documents,
        unit.withEdits edits = .ok { unit with documents, version := unit.version + 1 } ∧
          List.Forall₂ (Turns edits) unit.documents documents) ∧
      ∀ others : List TextEdit, others.Perm edits →
        (unit.withEdits others).toOption = (unit.withEdits edits).toOption := by
  refine ⟨withEdits_fails_iff distinct, fun fault failed => ?_, fun free => ?_,
    fun others reordered => ?_⟩
  · obtain ⟨⟨_, landed⟩, -⟩ | ⟨_, again, wrong⟩ := withEdits_cases distinct edits
    · exact nomatch landed.symm.trans failed
    · obtain rfl := Except.error.inj (again.symm.trans failed)
      exact wrong
  · refine ⟨_, withEdits_of_free distinct free, ?_⟩
    rw [List.forall₂_map_right_iff, List.forall₂_same]
    intro document member
    have applied := apply_editsOf free member
    refine ⟨rfl, applied, fun spared => ?_⟩
    rw [editsOf_eq_nil spared, TextEdit.apply_nil] at applied
    rw [← Except.ok.inj applied]
  · by_cases wrong : ∃ fault, unit.Refuses edits fault
    · have too : ∃ fault, unit.Refuses others fault :=
        wrong.imp fun _ wrong => wrong.perm reordered.symm
      obtain ⟨fault, failed⟩ := (withEdits_fails_iff distinct).mpr wrong
      obtain ⟨other, failed'⟩ := (withEdits_fails_iff distinct).mpr too
      rw [failed, failed']
      rfl
    · rw [not_exists] at wrong
      have free : ∀ fault, ¬unit.Refuses others fault := fun fault other =>
        wrong fault (other.perm reordered)
      rw [withEdits_of_free distinct wrong, withEdits_of_free distinct free,
        editedText_perm reordered]

end SourceUnit

/-! ### Two documents -/

namespace Pages

open TextEdit

def unit : SourceUnit where
  id := "u"
  documents := [⟨"a", ['a', 'b', 'c']⟩, ⟨"b", ['d', 'e']⟩, ⟨"c", ['f']⟩]

def edit (path : String) (start stop : Int) (text : Text) : TextEdit := { path, start, stop, text }

/-- Edits for two of the documents in turns. -/
def edits : List TextEdit := [edit "a" 2 3 ['z'], edit "b" 0 1 [], edit "a" 0 0 ['y', 'y']]

/-- One more edit, which overlaps the one of the same document. -/
def tooMany : List TextEdit := edit "b" 0 2 ['x'] :: edits

/-- In another order the one set lands alike, and the other one still does not. -/
theorem withEdits_pages :
    (unit.withEdits edits.reverse).toOption = some { unit with
      documents := [⟨"a", ['y', 'y', 'a', 'b', 'z']⟩, ⟨"b", ['e']⟩, ⟨"c", ['f']⟩], version := 1 } ∧
    (unit.withEdits tooMany.reverse).toOption = none := by
  have distinct : unit.paths.Nodup := by decide
  obtain ⟨-, -, -, anyOrder⟩ := @SourceUnit.withEdits_whole edits unit distinct
  obtain ⟨fails, -, -, neither⟩ := @SourceUnit.withEdits_whole tooMany unit distinct
  constructor
  · rw [anyOrder _ (List.reverse_perm edits)]
    cbv
  · have overlap : (edit "b" 0 2 ['x']).overlaps (edit "b" 0 1 []) = true := by decide
    have member : ⟨"b", ['d', 'e']⟩ ∈ unit.documents := by decide
    have wrong : unit.Refuses tooMany (.overlap "b" 0) :=
      .misfit member (.overlap (List.Subperm.refl _) overlap)
    obtain ⟨fault, failed⟩ := fails.mpr ⟨_, wrong⟩
    rw [neither _ (List.reverse_perm tooMany), failed]
    rfl

end Pages

end FixLoop
