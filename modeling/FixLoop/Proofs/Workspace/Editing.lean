import FixLoop.Workspace.Basic
import Mathlib.Data.List.Nodup

/-!
What edit sets do to a workspace. One that lands replaces the snapshot of its unit by the next one;
one that does not leaves the workspace as it was.
-/

namespace FixLoop

namespace SourceUnit

theorem withEdits_eq_ok {unit next : SourceUnit} {edits : List TextEdit} :
    unit.withEdits edits = .ok next ↔
      ∃ documents, editDocuments unit.documents edits = .ok documents ∧
        next = { unit with documents, version := unit.version + 1 } := by
  cases edited : editDocuments unit.documents edits with
  | error fault => simp [withEdits, edited, bind, Except.bind]
  | ok documents => simp [withEdits, edited, bind, Except.bind, pure, Except.pure, eq_comm]

theorem id_withEdits {unit next : SourceUnit} {edits : List TextEdit}
    (edited : unit.withEdits edits = .ok next) : next.id = unit.id := by
  obtain ⟨_, _, rfl⟩ := withEdits_eq_ok.mp edited
  rfl

theorem version_withEdits {unit next : SourceUnit} {edits : List TextEdit}
    (edited : unit.withEdits edits = .ok next) : next.version = unit.version + 1 := by
  obtain ⟨_, _, rfl⟩ := withEdits_eq_ok.mp edited
  rfl

theorem language_withEdits {unit next : SourceUnit} {edits : List TextEdit}
    (edited : unit.withEdits edits = .ok next) : next.language = unit.language := by
  obtain ⟨_, _, rfl⟩ := withEdits_eq_ok.mp edited
  rfl

end SourceUnit

namespace Workspace

variable {workspace after : Workspace} {id : String} {version : Int} {edits : List TextEdit}

theorem id_of_snapshot? {unit : SourceUnit} (found : workspace.snapshot? id = some unit) :
    unit.id = id := by
  obtain ⟨tracked, first, rfl⟩ := Option.map_eq_some_iff.mp found
  simpa using List.find?_some first

theorem snapshot_eq_ok {unit : SourceUnit} :
    workspace.snapshot id = .ok unit ↔ workspace.snapshot? id = some unit := by
  cases found : workspace.snapshot? id <;> simp [snapshot, found]

theorem snapshot?_eq_none_iff : workspace.snapshot? id = none ↔ id ∉ workspace.ids := by
  simp [snapshot?, ids]

theorem mem_ids_of_snapshot? {unit : SourceUnit} (found : workspace.snapshot? id = some unit) :
    id ∈ workspace.ids := by
  obtain ⟨tracked, first, rfl⟩ := Option.map_eq_some_iff.mp found
  have own : tracked.current.id = id := by simpa using List.find?_some first
  exact List.mem_map.mpr ⟨tracked, List.mem_of_find?_eq_some first, own⟩

/-- A unit is replaced by a snapshot with its own identifier, so no other unit is affected. -/
theorem snapshot?_adjust {next : SourceUnit} (same : next.id = id) (other : String) :
    (workspace.adjust id fun tracked => { tracked with current := next }).snapshot? other =
      if other = id then (workspace.snapshot? id).map fun _ => next
      else workspace.snapshot? other := by
  have keys : (fun tracked : Tracked => tracked.current.id == other) ∘
      (fun tracked => if tracked.current.id = id then { tracked with current := next }
        else tracked) = fun tracked => tracked.current.id == other := by
    funext tracked
    by_cases hit : tracked.current.id = id <;> simp [hit, same]
  simp only [adjust, snapshot?, List.find?_map, keys, Option.map_map]
  by_cases equal : other = id
  · subst equal
    rw [if_pos rfl]
    apply Option.map_congr
    intro tracked found
    have hit : tracked.current.id = other := by simpa using List.find?_some found
    simp [hit]
  · rw [if_neg equal]
    apply Option.map_congr
    intro tracked found
    have hit : tracked.current.id = other := by simpa using List.find?_some found
    simp [hit, equal]

theorem ids_adjust {next : SourceUnit} (same : next.id = id) :
    (workspace.adjust id fun tracked => { tracked with current := next }).ids = workspace.ids := by
  simp only [ids, adjust, List.map_map]
  apply List.map_congr_left
  intro tracked _
  by_cases hit : tracked.current.id = id <;> simp [hit, same]

section

variable {unit : SourceUnit}

/-- A unit is added behind the others, unless one of them has its id. -/
theorem add_eq_ok :
    workspace.add unit = .ok after ↔ unit.id ∉ workspace.ids ∧
      after = { workspace with units := workspace.units ++ [⟨unit, unit⟩] } := by
  unfold add
  by_cases known : unit.id ∈ workspace.ids <;> simp [known, eq_comm]

variable (added : workspace.add unit = .ok after)

include added

theorem nodup_ids_add (once : workspace.ids.Nodup) : after.ids.Nodup := by
  obtain ⟨absent, rfl⟩ := add_eq_ok.mp added
  simpa [ids] using once.concat absent

theorem forall_units_add {holds : Tracked → Prop} (each : ∀ tracked ∈ workspace.units, holds tracked)
    (new : holds ⟨unit, unit⟩) : ∀ tracked ∈ after.units, holds tracked := by
  obtain ⟨-, rfl⟩ := add_eq_ok.mp added
  intro tracked member
  rcases List.mem_append.mp member with old | last
  · exact each tracked old
  · rw [List.mem_singleton.mp last]
    exact new

theorem snapshot?_add (other : String) :
    after.snapshot? other = if other = unit.id then some unit else workspace.snapshot? other := by
  obtain ⟨absent, rfl⟩ := add_eq_ok.mp added
  by_cases equal : other = unit.id
  · subst equal
    have missing : workspace.units.find? (·.current.id == unit.id) = none := by
      simpa [snapshot?] using snapshot?_eq_none_iff.mpr absent
    simp [snapshot?, List.find?_append, missing]
  · simp [snapshot?, List.find?_append, equal, Ne.symm equal]

theorem snapshot?_eq_none_of_add : workspace.snapshot? unit.id = none :=
  snapshot?_eq_none_iff.mpr (add_eq_ok.mp added).1

end

/-- An edit set lands exactly if it was computed against the present version and fits. -/
theorem tryEdit_eq_landed :
    workspace.tryEdit id version edits = .ok (true, after) ↔
      ∃ current next, workspace.snapshot? id = some current ∧ current.version = version ∧
        current.withEdits edits = .ok next ∧
        after = workspace.adjust id fun tracked => { tracked with current := next } := by
  unfold tryEdit
  cases found : workspace.snapshot? id with
  | none => simp
  | some current =>
    by_cases stale : current.version = version
    · cases edited : current.withEdits edits with
      | error fault => simp [stale, edited]
      | ok next => simp [stale, edited, eq_comm]
    · simp [stale]

theorem eq_of_tryEdit_rejected
    (rejected : workspace.tryEdit id version edits = .ok (false, after)) : after = workspace := by
  unfold tryEdit at rejected
  split at rejected
  · cases rejected
  · split at rejected
    · cases rejected; rfl
    · split at rejected <;> cases rejected
      rfl

theorem tryEdit_eq_error {fault : WorkspaceFault} :
    workspace.tryEdit id version edits = .error fault ↔
      workspace.snapshot? id = none ∧ fault = .unknownUnit id := by
  unfold tryEdit
  cases found : workspace.snapshot? id with
  | none => simp [eq_comm]
  | some current =>
    by_cases stale : current.version = version
    · cases edited : current.withEdits edits <;> simp [stale, edited]
    · simp [stale]

/-- What is left of a unit and of all others when an edit set has landed. -/
theorem snapshot?_of_landed (landed : workspace.tryEdit id version edits = .ok (true, after)) :
    ∃ current next, workspace.snapshot? id = some current ∧ current.version = version ∧
      current.withEdits edits = .ok next ∧ after.snapshot? id = some next ∧
      ∀ other, other ≠ id → after.snapshot? other = workspace.snapshot? other := by
  obtain ⟨current, next, found, fresh, edited, rfl⟩ := tryEdit_eq_landed.mp landed
  have same : next.id = id := (SourceUnit.id_withEdits edited).trans (id_of_snapshot? found)
  refine ⟨current, next, found, fresh, edited, ?_, ?_⟩
  · rw [snapshot?_adjust same, if_pos rfl, found, Option.map_some]
  · intro other different
    rw [snapshot?_adjust same, if_neg different]

theorem ids_tryEdit {landed : Bool}
    (edited : workspace.tryEdit id version edits = .ok (landed, after)) :
    after.ids = workspace.ids := by
  cases landed with
  | false => rw [eq_of_tryEdit_rejected edited]
  | true =>
    obtain ⟨current, next, found, _, fits, rfl⟩ := tryEdit_eq_landed.mp edited
    exact ids_adjust ((SourceUnit.id_withEdits fits).trans (id_of_snapshot? found))

end Workspace

end FixLoop
