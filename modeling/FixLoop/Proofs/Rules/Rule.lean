import FixLoop.Proofs.Collected
import FixLoop.Proofs.Lines
import FixLoop.Proofs.Plugin.Merging
import Mathlib.Algebra.Order.BigOperators.Group.List
import Mathlib.Algebra.Order.Ring.Nat
import Mathlib.Data.List.Forall2

/-!
Rules about single texts. A rule says in which spans a text breaks it and which edit mends a span.
For a lawful rule the edits that are accepted for a batch of its diagnostics land, and at least so
many diagnostics are then gone.
-/

namespace FixLoop

structure Rule where
  descriptor : Descriptor
  /-- The spans in which a text breaks the rule. -/
  spans : Text → List (Nat × Nat)
  /-- The edit that mends a span of a document. -/
  edit : Document → Nat × Nat → TextEdit
  /-- Whether a text can become another one when some of its spans are mended. -/
  mends : Text → Text → Prop

namespace Rule

def id (rule : Rule) : String := rule.descriptor.id

def report (rule : Rule) (document : Document) (span : Nat × Nat) : Diagnostic :=
  Diagnostic.report rule.descriptor
    (Location.ofSpan document.path document.text span.1 span.2) rule.descriptor.format

def diagnostics (rule : Rule) (unit : SourceUnit) : List Diagnostic :=
  unit.documents.flatMap fun document => (rule.spans document.text).map (rule.report document)

/-- What a rule has to keep to. -/
structure Lawful (rule : Rule) : Prop where
  ascending : ∀ text, (rule.spans text).Pairwise fun a b => a.1 < b.1
  path : ∀ document span, (rule.edit document span).path = document.path
  tidy : ∀ {text result}, text.isTidy = true → rule.mends text result → result.isTidy = true
  lands : ∀ {document chosen edits}, document.text.isTidy = true → chosen.Nodup →
    chosen ⊆ rule.spans document.text →
    TextEdit.Accepted (chosen.map (rule.edit document)) edits →
    ∃ result, TextEdit.apply document.text edits = .ok result ∧ rule.mends document.text result ∧
      (rule.spans result).length + chosen.length ≤ (rule.spans document.text).length

/-- Whether the edits that are accepted for some spans of a document land, whatever its text. -/
def Lands (rule : Rule) : Prop :=
  ∀ {document : Document} {chosen : List (Nat × Nat)} {edits : List TextEdit}, chosen.Nodup →
    chosen ⊆ rule.spans document.text →
    TextEdit.Accepted (chosen.map (rule.edit document)) edits →
    ∃ result, TextEdit.apply document.text edits = .ok result ∧ rule.mends document.text result

/-- Whether a rule stays kept when another one is mended. -/
def Withstands (rule other : Rule) : Prop :=
  ∀ {text result : Text}, text.isTidy = true → other.mends text result → rule.spans text = [] →
    rule.spans result = []

end Rule

/-! ### Units whose texts change -/

/-- Whatever is in the second of two related lists is related to something in the first. -/
theorem exists_of_forall₂ {α β : Type} {related : α → β → Prop} {items : List α} {others : List β}
    (all : List.Forall₂ related items others) {b : β} (member : b ∈ others) :
    ∃ a ∈ items, related a b := by
  induction all with
  | nil => cases member
  | cons step _ ih =>
    rcases List.mem_cons.mp member with rfl | later
    · exact ⟨_, List.mem_cons_self, step⟩
    · obtain ⟨a, among, same⟩ := ih later
      exact ⟨a, List.mem_cons_of_mem _ among, same⟩

namespace SourceUnit

/-- Whether no two documents have one path, and all texts are tidy. -/
structure IsTidy (unit : SourceUnit) : Prop where
  distinct : unit.paths.Nodup
  tidy : ∀ document ∈ unit.documents, document.text.isTidy = true

/-- Whether a unit differs from another one only in its version and in its texts, and how those
differ. -/
structure Rewritten (how : Text → Text → Prop) (unit next : SourceUnit) : Prop where
  id : next.id = unit.id
  name : next.name = unit.name
  language : next.language = unit.language
  documents : List.Forall₂ (fun document after =>
    after.path = document.path ∧ how document.text after.text) unit.documents next.documents

namespace Rewritten

variable {how other : Text → Text → Prop} {unit middle next : SourceUnit}

theorem refl (same : ∀ document ∈ unit.documents, how document.text document.text) :
    Rewritten how unit unit where
  id := rfl
  name := rfl
  language := rfl
  documents := List.forall₂_same.mpr fun document member => ⟨rfl, same document member⟩

theorem trans (first : Rewritten how unit middle) (second : Rewritten other middle next) :
    Rewritten (fun text result => ∃ between, how text between ∧ other between result) unit
      next where
  id := second.id.trans first.id
  name := second.name.trans first.name
  language := second.language.trans first.language
  documents := by
    have first := first.documents
    have second := second.documents
    generalize unit.documents = documents, middle.documents = between,
      next.documents = after at first second
    induction first generalizing after with
    | nil =>
      cases second
      exact .nil
    | cons step _ ih =>
      cases second with
      | cons later rest => exact .cons ⟨later.1.trans step.1, _, step.2, later.2⟩ (ih _ rest)

/-- What each document became can be said in another way, knowing of both. -/
theorem imp (rewritten : Rewritten how unit next)
    (weaken : ∀ document ∈ unit.documents, ∀ after ∈ next.documents,
      how document.text after.text → other document.text after.text) :
    Rewritten other unit next where
  id := rewritten.id
  name := rewritten.name
  language := rewritten.language
  documents := by
    refine (List.forall₂_iff_zip.mpr ⟨rewritten.documents.length_eq, fun member => ?_⟩)
    obtain ⟨same, changed⟩ := (List.forall₂_iff_zip.mp rewritten.documents).2 member
    obtain ⟨before, after⟩ := List.of_mem_zip member
    exact ⟨same, weaken _ before _ after changed⟩

theorem mono (rewritten : Rewritten how unit next)
    (weaken : ∀ document ∈ unit.documents, ∀ result, how document.text result →
      other document.text result) : Rewritten other unit next :=
  rewritten.imp fun document member after _ => weaken document member after.text

/-- What holds of all texts of the new unit can be added. -/
theorem and {good : Text → Prop} (rewritten : Rewritten how unit next)
    (holds : ∀ after ∈ next.documents, good after.text) :
    Rewritten (fun text result => how text result ∧ good result) unit next :=
  rewritten.imp fun _ _ after member changed => ⟨changed, holds after member⟩

theorem paths (rewritten : Rewritten how unit next) : next.paths = unit.paths := by
  have changed := rewritten.documents
  unfold SourceUnit.paths
  generalize unit.documents = documents, next.documents = after at changed
  induction changed with
  | nil => rfl
  | cons step _ ih => rw [List.map_cons, List.map_cons, step.1, ih]

/-- The documents of the new unit, if there is only one way in which a text can change. -/
theorem documents_eq {form : Text → Text}
    (rewritten : Rewritten (fun text result => result = form text) unit next) :
    next.documents =
      unit.documents.map fun document => { document with text := form document.text } := by
  have changed := rewritten.documents
  generalize unit.documents = documents, next.documents = after at changed
  induction changed with
  | nil => rfl
  | @cons document after _ _ step _ ih =>
    obtain ⟨path, text⟩ := after
    obtain ⟨rfl, rfl⟩ := step
    rw [List.map_cons, ih]

/-- Where a text of the new unit comes from. -/
theorem exists_source (rewritten : Rewritten how unit next) {after : Document}
    (member : after ∈ next.documents) :
    ∃ document ∈ unit.documents, after.path = document.path ∧ how document.text after.text :=
  exists_of_forall₂ rewritten.documents member

theorem isTidy (rewritten : Rewritten how unit next) (tidy : unit.IsTidy)
    (keeps : ∀ {text result : Text}, text.isTidy = true → how text result → result.isTidy = true) :
    next.IsTidy where
  distinct := rewritten.paths ▸ tidy.distinct
  tidy := by
    intro after member
    obtain ⟨document, among, -, changed⟩ := rewritten.exists_source member
    exact keeps (tidy.tidy document among) changed

end Rewritten

end SourceUnit

namespace Rule

variable {rule : Rule} {unit : SourceUnit} {document : Document} {span : Nat × Nat}
  {batch : List Diagnostic} {edits : List TextEdit}

theorem mem_diagnostics {d : Diagnostic} : d ∈ rule.diagnostics unit ↔
    ∃ document ∈ unit.documents, ∃ span ∈ rule.spans document.text,
      rule.report document span = d := by
  simp only [diagnostics, List.mem_flatMap, List.mem_map]

theorem diagnostics_eq_nil :
    rule.diagnostics unit = [] ↔ ∀ document ∈ unit.documents, rule.spans document.text = [] := by
  simp only [diagnostics, List.flatMap_eq_nil_iff, List.map_eq_nil_iff]

theorem length_diagnostics : (rule.diagnostics unit).length =
    (unit.documents.map fun document => (rule.spans document.text).length).sum := by
  simp only [diagnostics, List.length_flatMap, List.length_map]

/-- No finding of a lawful rule is reported twice. -/
theorem Lawful.nodup_findings (lawful : rule.Lawful) (distinct : unit.paths.Nodup) :
    (Diagnostic.findings (rule.diagnostics unit)).Nodup := by
  unfold Diagnostic.findings diagnostics
  rw [List.map_flatMap]
  refine List.nodup_flatMap.mpr ⟨fun document _ => ?_, ?_⟩
  · rw [List.map_map]
    refine (lawful.ascending document.text).map _ fun a b below same => ?_
    have start : (a.1 : Int) = b.1 := congrArg (·.2.1.start) same
    omega
  · refine (List.pairwise_map.mp distinct).imp fun {a b} apart => ?_
    intro finding first second
    obtain ⟨d, member, rfl⟩ := List.mem_map.mp first
    obtain ⟨span, -, rfl⟩ := List.mem_map.mp member
    obtain ⟨other, member, same⟩ := List.mem_map.mp second
    obtain ⟨_, -, rfl⟩ := List.mem_map.mp member
    have path : b.path = a.path := congrArg (·.2.1.path) same
    exact apart path.symm

/-- The edit that mends a diagnostic of a unit. -/
def editFor (rule : Rule) (unit : SourceUnit) (d : Diagnostic) : TextEdit :=
  rule.edit ((unit.document? d.location.path).getD default)
    (d.location.start.toNat, d.location.stop.toNat)

theorem editFor_report (distinct : unit.paths.Nodup) (member : document ∈ unit.documents) :
    rule.editFor unit (rule.report document span) = rule.edit document span := by
  have found : unit.document? (rule.report document span).location.path = some document :=
    SourceUnit.document?_of_mem distinct member
  rw [editFor, found]
  rfl

/-- The spans of a document that a batch is about. -/
def chosen (rule : Rule) (batch : List Diagnostic) (document : Document) : List (Nat × Nat) :=
  (rule.spans document.text).filter fun span => rule.report document span ∈ batch

theorem length_chosen (once : (rule.diagnostics unit).Nodup) (distinct : batch.Nodup)
    (among : batch ⊆ rule.diagnostics unit) :
    (unit.documents.map fun document => (rule.chosen batch document).length).sum =
      batch.length := by
  have permuted : ((rule.diagnostics unit).filter (· ∈ batch)).Perm batch := by
    refine (List.perm_ext_iff_of_nodup (once.filter _) distinct).mpr fun d => ?_
    rw [List.mem_filter, decide_eq_true_iff]
    exact ⟨fun both => both.2, fun member => ⟨among member, member⟩⟩
  rw [← permuted.length_eq, diagnostics, List.filter_flatMap, List.length_flatMap]
  congr 1
  apply List.map_congr_left
  intro document _
  rw [List.filter_map, List.length_map]
  rfl

theorem mem_editsOf_batch (lawful : rule.Lawful) (distinct : unit.paths.Nodup)
    (among : batch ⊆ rule.diagnostics unit) (member : document ∈ unit.documents)
    (edit : TextEdit) :
    edit ∈ SourceUnit.editsOf (batch.map (rule.editFor unit)) document.path ↔
      edit ∈ (rule.chosen batch document).map (rule.edit document) := by
  simp only [SourceUnit.editsOf, chosen, List.mem_filter, List.mem_map, beq_iff_eq,
    decide_eq_true_iff]
  constructor
  · rintro ⟨⟨d, reported, rfl⟩, own⟩
    obtain ⟨other, present, span, broken, rfl⟩ := mem_diagnostics.mp (among reported)
    rw [editFor_report distinct present, lawful.path] at own
    have found := SourceUnit.document?_of_mem distinct present
    rw [own, SourceUnit.document?_of_mem distinct member] at found
    obtain rfl := Option.some.inj found
    exact ⟨span, ⟨broken, reported⟩, (editFor_report distinct member).symm⟩
  · rintro ⟨span, ⟨-, reported⟩, rfl⟩
    exact ⟨⟨_, reported, editFor_report distinct member⟩, lawful.path document span⟩

/-- What is accepted for a batch lands, if it does in each document. -/
theorem Lawful.exists_withEdits {good : Document → Text → Prop} (lawful : rule.Lawful)
    (distinct : unit.paths.Nodup) (among : batch ⊆ rule.diagnostics unit)
    (accepts : TextEdit.Accepted (batch.map (rule.editFor unit)) edits)
    (lands : ∀ document ∈ unit.documents, ∀ edits,
      TextEdit.Accepted ((rule.chosen batch document).map (rule.edit document)) edits →
      ∃ result, TextEdit.apply document.text edits = .ok result ∧ good document result) :
    ∃ renew : Document → Text, (∀ document ∈ unit.documents, good document (renew document)) ∧
      unit.withEdits edits = .ok { unit with
        documents := unit.documents.map fun document => { document with text := renew document }
        version := unit.version + 1 } := by
  have each : ∀ document ∈ unit.documents, ∃ result,
      TextEdit.apply document.text (SourceUnit.editsOf edits document.path) = .ok result ∧
        good document result := by
    intro document member
    have own := mem_editsOf_batch lawful distinct among member
    have accepts := accepts.editsOf document.path
    exact lands document member _ {
      subset := fun edit taken => (own edit).mp (accepts.subset taken)
      apart := accepts.apart
      covers := fun edit offered => accepts.covers edit ((own edit).mpr offered) }
  choose! renew applies using each
  have named : ∀ edit ∈ edits, edit.path ∈ unit.paths := by
    intro edit taken
    obtain ⟨d, reported, rfl⟩ := List.mem_map.mp (accepts.subset taken)
    obtain ⟨document, present, span, -, rfl⟩ := mem_diagnostics.mp (among reported)
    rw [editFor_report distinct present, lawful.path]
    exact List.mem_map_of_mem present
  exact ⟨renew, fun document member => (applies document member).2,
    SourceUnit.withEdits_eq distinct named fun document member => (applies document member).1⟩

theorem Lawful.nodup_chosen (lawful : rule.Lawful) (batch : List Diagnostic)
    (document : Document) : (rule.chosen batch document).Nodup :=
  (lawful.ascending document.text).nodup.filter _

/-- What is accepted for a batch lands, and at least so many diagnostics are gone. -/
theorem Lawful.withEdits (lawful : rule.Lawful) (tidy : unit.IsTidy)
    (distinct : batch.Nodup) (among : batch ⊆ rule.diagnostics unit)
    (accepts : TextEdit.Accepted (batch.map (rule.editFor unit)) edits) :
    ∃ next, unit.withEdits edits = .ok next ∧ unit.Rewritten rule.mends next ∧
      (rule.diagnostics next).length + batch.length ≤ (rule.diagnostics unit).length := by
  obtain ⟨renew, lands, edited⟩ :=
    lawful.exists_withEdits tidy.distinct among accepts fun document member _ =>
      lawful.lands (tidy.tidy document member) (lawful.nodup_chosen batch document)
        (List.filter_subset_self _)
  refine ⟨_, edited, ⟨rfl, rfl, rfl, ?_⟩, ?_⟩
  · rw [List.forall₂_map_right_iff, List.forall₂_same]
    exact fun document member => ⟨rfl, (lands document member).1⟩
  · have once := (lawful.nodup_findings tidy.distinct).of_map
    rw [← length_chosen once distinct among, length_diagnostics, length_diagnostics, List.map_map,
      ← List.sum_map_add]
    exact List.sum_le_sum fun document member => (lands document member).2

/-- What is accepted for a batch lands in units of any texts, if their documents can be told
apart. -/
theorem Lands.withEdits (lands : rule.Lands) (lawful : rule.Lawful) (distinct : unit.paths.Nodup)
    (among : batch ⊆ rule.diagnostics unit)
    (accepts : TextEdit.Accepted (batch.map (rule.editFor unit)) edits) :
    ∃ next, unit.withEdits edits = .ok next ∧ unit.Rewritten rule.mends next := by
  obtain ⟨renew, mends, edited⟩ :=
    lawful.exists_withEdits distinct among accepts fun document _ _ =>
      lands (lawful.nodup_chosen batch document) (List.filter_subset_self _)
  refine ⟨_, edited, rfl, rfl, rfl, ?_⟩
  rw [List.forall₂_map_right_iff, List.forall₂_same]
  exact fun document member => ⟨rfl, mends document member⟩

end Rule

end FixLoop
