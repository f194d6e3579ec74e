import FixLoop.Proofs.Documents
import FixLoop.Proofs.Session.Steps
import FixLoop.Proofs.Succeeding
import FixLoop.Proofs.Workspace.Editing
import FixLoop.Proofs.Workspace.Ordering

/-!
What no edit set changes. Edits are about the texts of documents, so that a unit stays what it is
otherwise, and the units of a workspace stay those that were added to it.
-/

namespace FixLoop

namespace SourceUnit

/-- Whether a snapshot is one of the same unit: its version and the texts of its documents may
differ. -/
structure Continues (unit next : SourceUnit) : Prop where
  id : next.id = unit.id
  name : next.name = unit.name
  language : next.language = unit.language
  dependsOn : next.dependsOn = unit.dependsOn
  paths : next.paths = unit.paths

theorem Continues.refl (unit : SourceUnit) : unit.Continues unit := ⟨rfl, rfl, rfl, rfl, rfl⟩

theorem Continues.trans {unit middle next : SourceUnit} (first : unit.Continues middle)
    (second : middle.Continues next) : unit.Continues next where
  id := second.id.trans first.id
  name := second.name.trans first.name
  language := second.language.trans first.language
  dependsOn := second.dependsOn.trans first.dependsOn
  paths := second.paths.trans first.paths

variable {documents after : List Document} {path : String}
  {change : Text → Except EditFault Text} {edits : List TextEdit} {unit next : SourceUnit}

theorem map_path_changeDocument (changed : changeDocument path change documents = .ok after) :
    after.map (·.path) = documents.map (·.path) := by
  induction documents generalizing after with
  | nil => cases changed
  | cons document rest ih =>
    unfold changeDocument at changed
    split at changed
    · obtain ⟨others, later, rfl⟩ := exists_of_map_eq_ok changed
      rw [List.map_cons, List.map_cons, ih later]
    · split at changed
      · obtain ⟨text, -, changed⟩ := exists_of_bind_eq_ok changed
        cases changed
        rfl
      · cases changed

theorem map_path_editDocuments (edited : editDocuments documents edits = .ok after) :
    after.map (·.path) = documents.map (·.path) := by
  unfold editDocuments at edited
  generalize editedPaths edits = paths at edited
  induction paths generalizing documents with
  | nil =>
    cases edited
    rfl
  | cons path rest ih =>
    obtain ⟨middle, changed, edited⟩ := exists_of_bind_eq_ok edited
    exact (ih edited).trans (map_path_changeDocument changed)

theorem continues_withEdits (edited : unit.withEdits edits = .ok next) : unit.Continues next := by
  obtain ⟨documents, changed, rfl⟩ := withEdits_eq_ok.mp edited
  exact { Continues.refl unit with paths := map_path_editDocuments changed }

end SourceUnit

/-- Whether a workspace has the units of another one, each as a snapshot of the same unit. -/
structure Workspace.Continues (before after : Workspace) : Prop where
  ids : after.ids = before.ids
  units : ∀ id unit, before.snapshot? id = some unit →
    ∃ next, after.snapshot? id = some next ∧ unit.Continues next

namespace Workspace.Continues

variable {before middle after : Workspace}

theorem refl (workspace : Workspace) : workspace.Continues workspace :=
  ⟨rfl, fun _ unit found => ⟨unit, found, .refl unit⟩⟩

theorem trans (first : before.Continues middle) (second : middle.Continues after) :
    before.Continues after where
  ids := second.ids.trans first.ids
  units id unit found := by
    obtain ⟨between, there, goes⟩ := first.units id unit found
    obtain ⟨next, here, goesOn⟩ := second.units id between there
    exact ⟨next, here, goes.trans goesOn⟩

theorem of_tryEdit {id : String} {version : Int} {edits : List TextEdit} {landed : Bool}
    (edited : before.tryEdit id version edits = .ok (landed, after)) : before.Continues after where
  ids := ids_tryEdit edited
  units other unit found := by
    cases landed with
    | false =>
      obtain rfl := eq_of_tryEdit_rejected edited
      exact ⟨unit, found, .refl unit⟩
    | true =>
      obtain ⟨current, next, present, -, applied, replaced, others⟩ := snapshot?_of_landed edited
      by_cases own : other = id
      · subst own
        obtain rfl : current = unit := Option.some.inj (present.symm.trans found)
        exact ⟨next, replaced, SourceUnit.continues_withEdits applied⟩
      · exact ⟨unit, (others other own).trans found, .refl unit⟩

variable (continued : before.Continues after) (once : before.ids.Nodup)

include continued once

/-- Units that stay the same ones are placed in the same order. -/
theorem order_eq (requested : Option (List String)) :
    after.order requested = before.order requested := by
  have dependencies (id : String) : after.dependencies id = before.dependencies id := by
    unfold Workspace.dependencies
    rw [continued.ids]
    by_cases known : id ∈ before.ids
    · obtain ⟨tracked, member, rfl⟩ := List.mem_map.mp known
      have there := snapshot?_of_mem once member
      obtain ⟨next, here, goesOn⟩ := continued.units _ _ there
      rw [here, there, Option.elim_some, Option.elim_some, goesOn.dependsOn]
    · have gone : id ∉ after.ids := continued.ids ▸ known
      rw [snapshot?_eq_none_iff.mpr gone, snapshot?_eq_none_iff.mpr known]
  have unplaced : after.unplaced = before.unplaced := by
    simp only [Workspace.unplaced, continued.ids, dependencies]
  have size : after.units.length = before.units.length := by
    simpa [Workspace.ids] using congrArg List.length continued.ids
  rw [order, order, placement, placement, continued.ids, unplaced, size]

end Workspace.Continues

/-- Whatever is done in a run, the units stay the same ones. -/
theorem Session.continues_stable {σ : Type} (before : Workspace) :
    Session.Stable fun now : Session σ => before.Continues now.workspace where
  note _ _ continued := continued
  learn _ _ continued := continued
  remember _ _ continued := continued
  edit _ _ _ _ _ _ continued edited := continued.trans (.of_tryEdit edited)
  cancel _ _ continued _ := continued

end FixLoop
