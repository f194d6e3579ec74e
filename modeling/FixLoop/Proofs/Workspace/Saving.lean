import FixLoop.Proofs.FileTree
import FixLoop.Proofs.Workspace.Continuing
import FixLoop.Proofs.Workspace.Ordering
import FixLoop.Workspace.Saving

/-!
What a save writes. A workspace keeps each unit as it was when it was added or last saved, so its
changed documents are those that have another text by now. A save that succeeds writes them and
nothing else. One that fails has written the first of them; but a unit counts as saved as soon as
one of its documents was written, so what else of it was to be written is forgotten.
-/

namespace FixLoop

/-- The place of the file of a document below a root. -/
def Document.place? (root : Path) (document : Document) : Option Path :=
  (root ++ Path.ofText document.path).resolve

/-! ### How far a save goes -/

/-- Writes the file of a document, given with the id of its unit. -/
def FileTree.writeDocument (root : Path) (files : FileTree) (entry : String × Document) :
    Except WriteFault FileTree :=
  files.write (root ++ Path.ofText entry.2.path) (Utf8.encode entry.2.text)

namespace Workspace

/-- The workspace in which some units count as saved. -/
def settle (workspace : Workspace) (ids : List String) : Workspace :=
  { workspace with
    units := workspace.units.map fun tracked =>
      if tracked.current.id ∈ ids then { tracked with saved := tracked.current } else tracked }

/-- How far a save goes: some documents are written, and the next one, if any is left, cannot
be. -/
structure Writes (root : Path) (workspace : Workspace) (files : FileTree)
    (entries : List (String × Document)) (saved : Saved) (done rest : List (String × Document)) :
    Prop where
  split : entries = done ++ rest
  files : done.foldlM (FileTree.writeDocument root) files = .ok saved.files
  written : saved.written = done.map fun entry => Path.ofText entry.2.path
  workspace : saved.workspace = workspace.settle (done.map (·.1))
  rest : saved.fault = none ↔ rest = []

variable {root : Path} {workspace : Workspace} {files : FileTree} {place : Path}
  {entries : List (String × Document)} {saved : Saved}

@[simp] theorem settle_nil (workspace : Workspace) : workspace.settle [] = workspace := by
  simp [settle]

theorem settle_adjust (workspace : Workspace) (id : String) (ids : List String) :
    (workspace.adjust id fun tracked => { tracked with saved := tracked.current }).settle ids =
      workspace.settle (id :: ids) := by
  simp only [settle, adjust, List.map_map]
  congr 1
  apply List.map_congr_left
  intro tracked _
  by_cases own : tracked.current.id = id <;> by_cases among : tracked.current.id ∈ ids <;>
    simp [own, among]

theorem map_current_settle (workspace : Workspace) (ids : List String) :
    (workspace.settle ids).units.map (·.current) = workspace.units.map (·.current) := by
  simp only [settle, List.map_map]
  apply List.map_congr_left
  intro tracked _
  dsimp only [Function.comp_apply]
  split <;> rfl

theorem ids_settle (workspace : Workspace) (ids : List String) :
    (workspace.settle ids).ids = workspace.ids := by
  have same := congrArg (List.map (·.id)) (map_current_settle workspace ids)
  rwa [List.map_map, List.map_map] at same

theorem exists_writes (root : Path) (workspace : Workspace) (files : FileTree)
    (entries : List (String × Document)) :
    ∃ done rest, Writes root workspace files entries (workspace.writeAll root files entries) done
      rest := by
  induction entries generalizing workspace files with
  | nil => exact ⟨[], [], rfl, rfl, rfl, (settle_nil workspace).symm, iff_of_true rfl rfl⟩
  | cons entry later ih =>
    obtain ⟨id, document⟩ := entry
    unfold writeAll
    split
    · exact ⟨[], (id, document) :: later, rfl, rfl, rfl, (settle_nil workspace).symm,
        iff_of_false nofun nofun⟩
    · rename_i after wrote
      obtain ⟨done, rest, writes⟩ := ih
        (workspace.adjust id fun tracked => { tracked with saved := tracked.current }) after
      refine ⟨(id, document) :: done, rest, ?_, ?_, ?_, ?_, writes.rest⟩
      · rw [writes.split, List.cons_append]
      · rw [List.foldlM_cons, FileTree.writeDocument, wrote]
        exact writes.files
      · exact congrArg (Path.ofText document.path :: ·) writes.written
      · rw [List.map_cons, ← settle_adjust]
        exact writes.workspace

theorem writes_of_save (saves : workspace.save files = .ok saved)
    (below : workspace.root = some root) :
    ∃ done rest, Writes root workspace files workspace.changed saved done rest := by
  unfold save at saves
  rw [below] at saves
  cases saves
  exact exists_writes root workspace files workspace.changed

/-! ### What is in the files -/

section

variable {after : FileTree} (written : entries.foldlM (FileTree.writeDocument root) files = .ok after)

include written

/-- A file that is the place of no document stays as it is. -/
theorem content?_of_apart (apart : ∀ entry ∈ entries, entry.2.place? root ≠ some place) :
    after.content? place = files.content? place := by
  induction entries generalizing files with
  | nil =>
    cases written
    rfl
  | cons entry later ih =>
    obtain ⟨middle, wrote, written⟩ := exists_of_bind_eq_ok written
    rw [ih written fun other member => apart other (List.mem_cons_of_mem _ member),
      FileTree.content?_write wrote]
    exact if_neg (apart entry List.mem_cons_self)

/-- A file holds the text of the last document of which it is the place. -/
theorem content?_of_last {earlier later : List (String × Document)} {entry : String × Document}
    (split : entries = earlier ++ entry :: later) (leads : entry.2.place? root = some place)
    (last : ∀ other ∈ later, other.2.place? root ≠ some place) :
    after.content? place = some (Utf8.encode entry.2.text) := by
  subst split
  rw [List.foldlM_append] at written
  obtain ⟨middle, -, written⟩ := exists_of_bind_eq_ok written
  obtain ⟨next, wrote, written⟩ := exists_of_bind_eq_ok written
  rw [content?_of_apart written last, FileTree.content?_write wrote]
  exact if_pos leads

end

/-! ### What counts as changed -/

theorem Tracked.changed_eq (tracked : Tracked) :
    Tracked.changed tracked = tracked.current.documents.filter fun document =>
      (tracked.saved.document? document.path).map (·.text) ≠ some document.text := by
  refine List.filter_congr fun document _ => ?_
  cases tracked.saved.document? document.path <;> simp

/-- If nothing of a unit counts as changed, it has the texts that were saved. -/
theorem Tracked.text_eq {tracked : Tracked} (none : Tracked.changed tracked = [])
    (paths : tracked.saved.paths = tracked.current.paths) (path : String) :
    (tracked.saved.document? path).map (·.text) =
      (tracked.current.document? path).map (·.text) := by
  rw [Tracked.changed_eq, List.filter_eq_nil_iff] at none
  cases found : tracked.current.document? path with
  | some document =>
    have own : document.path = path := by simpa using List.find?_some found
    have same := none document (List.mem_of_find?_eq_some found)
    simpa [own] using same
  | none =>
    have absent : path ∉ tracked.saved.paths := by
      intro member
      obtain ⟨document, member, own⟩ := List.mem_map.mp (paths ▸ member)
      exact List.find?_eq_none.mp found document member (beq_iff_eq.mpr own)
    have missing : tracked.saved.document? path = Option.none := by
      refine List.find?_eq_none.mpr fun document member own => ?_
      exact absent (List.mem_map.mpr ⟨document, member, beq_iff_eq.mp own⟩)
    rw [missing]

theorem Tracked.changed_settled {unit : SourceUnit} (distinct : unit.paths.Nodup) :
    Tracked.changed ⟨unit, unit⟩ = [] := by
  rw [Tracked.changed_eq, List.filter_eq_nil_iff]
  intro document member
  rw [SourceUnit.document?_of_mem distinct member]
  simp

theorem mem_changed {entry : String × Document} :
    entry ∈ workspace.changed ↔ ∃ tracked ∈ workspace.units, ∃ document ∈ Tracked.changed tracked,
      (tracked.current.id, document) = entry := by
  simp only [changed, List.mem_flatMap, List.mem_map]

/-- What counts as changed once some units count as saved. -/
theorem changed_settle (distinct : ∀ tracked ∈ workspace.units, tracked.current.paths.Nodup)
    (ids : List String) :
    (workspace.settle ids).changed = workspace.changed.filter (·.1 ∉ ids) := by
  unfold changed settle
  rw [List.flatMap_map, List.filter_flatMap]
  refine List.flatMap_congr fun tracked member => ?_
  by_cases among : tracked.current.id ∈ ids
  · rw [if_pos among, Tracked.changed_settled (distinct tracked member), List.filter_map]
    simp [among, Function.comp_def]
  · rw [if_neg among, List.filter_map]
    simp [among, Function.comp_def]

/-- The documents of a workspace with the ids of their units, in registration and document order. -/
def documents (workspace : Workspace) : List (String × Document) :=
  workspace.units.flatMap fun tracked =>
    tracked.current.documents.map fun document => (tracked.current.id, document)

/-- The text that a document had in some snapshots. -/
def textIn (snapshots : String → Option SourceUnit) (id path : String) : Option Text :=
  ((snapshots id).bind (·.document? path)).map (·.text)

/-- The documents whose text is not the one that they have in some other snapshots. -/
def pending (workspace : Workspace) (kept : String → Option SourceUnit) :
    List (String × Document) :=
  workspace.documents.filter fun entry => textIn kept entry.1 entry.2.path ≠ some entry.2.text

/-- Whether a workspace below a root came about by adding units, editing them and saving them, with
each unit as it was when it was added or last saved. Every save succeeded, and files may have been
changed by others meanwhile. -/
inductive History (root : Path) : (String → Option SourceUnit) → Workspace → Prop where
  | start : History root (fun _ => none) { root := root }
  | add {kept : String → Option SourceUnit} {now next : Workspace} {unit : SourceUnit}
      (earlier : History root kept now) (added : now.add unit = .ok next) :
    History root (fun id => if id = unit.id then some unit else kept id) next
  | edit {kept : String → Option SourceUnit} {now next : Workspace} {id : String} {version : Int}
      {edits : List TextEdit} {landed : Bool} (earlier : History root kept now)
      (edited : now.tryEdit id version edits = .ok (landed, next)) : History root kept next
  | save {kept : String → Option SourceUnit} {now : Workspace} {files : FileTree} {saved : Saved}
      (earlier : History root kept now) (saves : now.save files = .ok saved)
      (complete : saved.fault = none) : History root saved.workspace.snapshot? saved.workspace

/-- What ties the units as they were when they were added or last saved to those that a workspace
keeps. -/
structure Tied (root : Path) (kept : String → Option SourceUnit) (now : Workspace) : Prop where
  below : now.root = some root
  once : now.ids.Nodup
  paths : ∀ tracked ∈ now.units, tracked.saved.paths = tracked.current.paths
  texts : ∀ tracked ∈ now.units, ∀ path,
    textIn kept tracked.current.id path = (tracked.saved.document? path).map (·.text)

namespace History

variable {kept : String → Option SourceUnit} {now next : Workspace}

theorem tied_add {unit : SourceUnit} (tied : Tied root kept now)
    (added : now.add unit = .ok next) :
    Tied root (fun id => if id = unit.id then some unit else kept id) next := by
  constructor
  case below =>
    obtain ⟨-, rfl⟩ := add_eq_ok.mp added
    exact tied.below
  case once => exact nodup_ids_add added tied.once
  case paths => exact forall_units_add added tied.paths rfl
  case texts =>
    refine forall_units_add added (fun tracked member path => ?_) fun path => by simp [textIn]
    have other : tracked.current.id ≠ unit.id := fun same =>
      (add_eq_ok.mp added).1 (same ▸ List.mem_map_of_mem member)
    rw [← tied.texts tracked member path]
    simp [textIn, other]

theorem tied_edit {id : String} {version : Int} {edits : List TextEdit} {landed : Bool}
    (tied : Tied root kept now) (edited : now.tryEdit id version edits = .ok (landed, next)) :
    Tied root kept next := by
  cases landed with
  | false => exact eq_of_tryEdit_rejected edited ▸ tied
  | true =>
    have ids := ids_tryEdit edited
    obtain ⟨current, renewed, found, -, fits, rfl⟩ := tryEdit_eq_landed.mp edited
    have same := SourceUnit.continues_withEdits fits
    -- Only the present snapshot is replaced, so each unit is traced back to itself.
    have source {tracked : Tracked} (member : tracked ∈ (now.adjust id fun tracked =>
        { tracked with current := renewed }).units) :
        ∃ before ∈ now.units, tracked.saved = before.saved ∧
          tracked.current.id = before.current.id ∧
          tracked.current.paths = before.current.paths := by
      obtain ⟨before, among, rfl⟩ := List.mem_map.mp member
      refine ⟨before, among, ?_⟩
      split
      · rename_i own
        have present := snapshot?_of_mem tied.once among
        rw [own, found] at present
        cases present
        exact ⟨rfl, same.id, same.paths⟩
      · exact ⟨rfl, rfl, rfl⟩
    constructor
    case below => exact tied.below
    case once => exact ids ▸ tied.once
    case paths =>
      intro tracked member
      obtain ⟨before, member, saved, -, paths⟩ := source member
      rw [saved, paths]
      exact tied.paths before member
    case texts =>
      intro tracked member path
      obtain ⟨before, member, saved, own, -⟩ := source member
      rw [saved, own]
      exact tied.texts before member path

theorem tied_save (tied : Tied root kept now) (saves : now.save files = .ok saved)
    (complete : saved.fault = none) :
    Tied root saved.workspace.snapshot? saved.workspace := by
  obtain ⟨done, rest, writes⟩ := writes_of_save saves tied.below
  have all : now.changed = done := by simpa [writes.rest.mp complete] using writes.split
  have once : (now.settle (done.map (·.1))).ids.Nodup := (ids_settle now _).symm ▸ tied.once
  rw [writes.workspace]
  constructor
  case below => exact tied.below
  case once => exact once
  case paths =>
    intro tracked member
    obtain ⟨before, among, rfl⟩ := List.mem_map.mp member
    split
    · rfl
    · exact tied.paths before among
  case texts =>
    intro tracked member path
    rw [textIn, snapshot?_of_mem once member, Option.bind_some]
    obtain ⟨before, among, rfl⟩ := List.mem_map.mp member
    split
    · rfl
    · rename_i unwritten
      -- All that was changed is written, so nothing was changed of a unit that was left out.
      refine (Tracked.text_eq (List.eq_nil_iff_forall_not_mem.mpr ?_)
        (tied.paths before among) path).symm
      intro document changed
      refine unwritten (List.mem_map.mpr ⟨(before.current.id, document), ?_, rfl⟩)
      exact all ▸ mem_changed.mpr ⟨before, among, document, changed, rfl⟩

theorem tied (history : History root kept now) : Tied root kept now := by
  induction history with
  | start => exact ⟨rfl, List.nodup_nil, nofun, nofun⟩
  | add earlier added ih => exact tied_add ih added
  | edit earlier edited ih => exact tied_edit ih edited
  | save earlier saves complete ih => exact tied_save ih saves complete

theorem pending_eq (history : History root kept now) : now.pending kept = now.changed := by
  unfold pending documents changed
  rw [List.filter_flatMap]
  refine List.flatMap_congr fun tracked member => ?_
  rw [List.filter_map, Tracked.changed_eq]
  congr 1
  refine List.filter_congr fun document _ => ?_
  rw [Function.comp_apply, history.tied.texts tracked member]

end History

theorem paths_documents (workspace : Workspace) :
    workspace.documents.map (·.2.path) = workspace.units.flatMap (·.current.paths) := by
  simp [documents, SourceUnit.paths, List.map_flatMap, Function.comp_def]

section

variable {kept : String → Option SourceUnit} {now : Workspace} (history : History root kept now)
  (distinct : (now.documents.map (·.2.path)).Nodup) (saves : now.save files = .ok saved)

include history distinct saves

/-- A save that succeeds writes the pending documents, in order, and nothing else; no snapshot
changes, and nothing is left to be saved. Should two paths lead to one file, the later document is
the one that it holds. -/
theorem save_writes_pending (complete : saved.fault = none) :
    (saved.written = (now.pending kept).map fun entry => Path.ofText entry.2.path) ∧
    (∀ earlier entry later place, now.pending kept = earlier ++ entry :: later →
      entry.2.place? root = some place → (∀ other ∈ later, other.2.place? root ≠ some place) →
      saved.files.content? place = some (Utf8.encode entry.2.text)) ∧
    (∀ place, (∀ entry ∈ now.pending kept, entry.2.place? root ≠ some place) →
      saved.files.content? place = files.content? place) ∧
    saved.workspace.units.map (·.current) = now.units.map (·.current) ∧
    saved.workspace.changed = [] := by
  obtain ⟨done, rest, writes⟩ := writes_of_save saves history.tied.below
  have each := (List.nodup_flatMap.mp (paths_documents now ▸ distinct)).1
  rw [history.pending_eq]
  obtain rfl : now.changed = done := by simpa [writes.rest.mp complete] using writes.split
  refine ⟨writes.written, ?_, fun place apart => content?_of_apart writes.files apart, ?_, ?_⟩
  · intro earlier entry later place split leads last
    exact content?_of_last writes.files split leads last
  · rw [writes.workspace, map_current_settle]
  · rw [writes.workspace, changed_settle each, List.filter_eq_nil_iff]
    intro entry member
    simpa using ⟨entry.2, member⟩

/-- A save that fails has written the first of the pending documents. Of the others, those whose
unit has one that was written no longer count as changed, and no later save writes them. -/
theorem save_stops (failed : saved.fault ≠ none) :
    ∃ done first rest, now.pending kept = done ++ first :: rest ∧
      (saved.written = done.map fun entry => Path.ofText entry.2.path) ∧
      saved.workspace.units.map (·.current) = now.units.map (·.current) ∧
      saved.workspace.changed = (first :: rest).filter (·.1 ∉ done.map (·.1)) ∧
      ∀ files later, saved.workspace.save files = .ok later → later.fault = none →
        later.written = saved.workspace.changed.map fun entry => Path.ofText entry.2.path := by
  obtain ⟨done, rest, writes⟩ := writes_of_save saves history.tied.below
  have each := (List.nodup_flatMap.mp (paths_documents now ▸ distinct)).1
  obtain ⟨first, rest, rfl⟩ := List.exists_cons_of_ne_nil fun none => failed (writes.rest.mpr none)
  refine ⟨done, first, rest, ?_, writes.written, ?_, ?_, ?_⟩
  · rw [history.pending_eq, writes.split]
  · rw [writes.workspace, map_current_settle]
  · rw [writes.workspace, changed_settle each, writes.split, List.filter_append]
    rw [List.filter_eq_nil_iff.mpr, List.nil_append]
    intro entry member
    simpa using ⟨entry.2, member⟩
  · intro files later saves complete
    have below : saved.workspace.root = some root := by
      rw [writes.workspace]
      exact history.tied.below
    obtain ⟨all, none, wrote⟩ := writes_of_save saves below
    rw [wrote.written, wrote.split, wrote.rest.mp complete, List.append_nil]

end

end Workspace

namespace Notes

/-! A unit of two documents below the top. -/

def unit (a b : Char) (version : Int) : SourceUnit where
  id := "u"
  documents := [⟨"a", [a]⟩, ⟨"b", [b]⟩]
  version

def workspace (current saved : SourceUnit) : Workspace where
  root := some []
  units := [⟨current, saved⟩]

/-- Replaces what a document says. -/
def edit (path : String) (text : Text) : List TextEdit := [⟨path, 0, 1, text⟩]

def registered : Workspace := workspace (unit 'x' 'y' 0) (unit 'x' 'y' 0)

theorem history_registered :
    Workspace.History [] (fun id => if id = "u" then some (unit 'x' 'y' 0) else none) registered :=
  @Workspace.History.add [] _ _ registered (unit 'x' 'y' 0) .start rfl

/-- A document is changed and saved, and then changed back; the other is changed and changed
back. -/
theorem history_restored :
    ∃ kept, Workspace.History [] kept (workspace (unit 'x' 'y' 3) (unit 'z' 'y' 1)) := by
  have changed := history_registered.edit (show registered.tryEdit "u" 0 (edit "a" ['z']) =
    .ok (true, workspace (unit 'z' 'y' 1) (unit 'x' 'y' 0)) by decide +kernel)
  obtain ⟨saved, saves, seen⟩ := exists_of_map_toOption (fun saved => (saved.fault, saved.workspace))
    (show ((workspace (unit 'z' 'y' 1) (unit 'x' 'y' 0)).save {}).toOption.map _ =
      some (none, workspace (unit 'z' 'y' 1) (unit 'z' 'y' 1)) by decide +kernel)
  obtain ⟨complete, same⟩ := Prod.mk.inj seen
  have settled := changed.save saves complete
  rw [same] at settled
  have strayed := settled.edit (show (workspace (unit 'z' 'y' 1) (unit 'z' 'y' 1)).tryEdit "u" 1
    (edit "b" ['w']) = .ok (true, workspace (unit 'z' 'w' 2) (unit 'z' 'y' 1)) by decide +kernel)
  exact ⟨_, strayed.edit (show (workspace (unit 'z' 'w' 2) (unit 'z' 'y' 1)).tryEdit "u" 2
    (edit "b" ['y'] ++ edit "a" ['x']) = .ok (true, _) by decide +kernel)⟩

/-- Only the document is written that has not its saved text. -/
theorem save_writes_pending_restored :
    ∃ kept saved, Workspace.History [] kept (workspace (unit 'x' 'y' 3) (unit 'z' 'y' 1)) ∧
      (workspace (unit 'x' 'y' 3) (unit 'z' 'y' 1)).save {} = .ok saved ∧
      saved.written = [["a"]] ∧ saved.files.content? ["a"] = some (Utf8.encode ['x']) ∧
      saved.files.content? ["b"] = none ∧ saved.workspace.changed = [] := by
  obtain ⟨kept, history⟩ := history_restored
  obtain ⟨saved, saves, complete⟩ := exists_of_map_toOption (·.fault)
    (show ((workspace (unit 'x' 'y' 3) (unit 'z' 'y' 1)).save {}).toOption.map _ = some none by
      decide +kernel)
  have pending : (workspace (unit 'x' 'y' 3) (unit 'z' 'y' 1)).pending kept =
      [("u", ⟨"a", ['x']⟩)] := by
    rw [history.pending_eq]
    decide
  obtain ⟨written, holds, others, -, none⟩ :=
    Workspace.save_writes_pending history (by decide) saves complete
  rw [pending] at written others
  refine ⟨kept, saved, history, saves, written, ?_, ?_, none⟩
  · exact holds [] _ [] ["a"] pending (by decide) nofun
  · exact others ["b"] (by decide)

/-- A folder stands where the second document is to be written. -/
def blocked : FileTree where
  entries := [(["b"], .folder)]

theorem history_changed :
    ∃ kept, Workspace.History [] kept (workspace (unit 'z' 'w' 1) (unit 'x' 'y' 0)) :=
  ⟨_, history_registered.edit (show registered.tryEdit "u" 0 (edit "a" ['z'] ++ edit "b" ['w']) =
    .ok (true, _) by decide +kernel)⟩

theorem save_stops_blocked :
    ∃ kept saved, Workspace.History [] kept (workspace (unit 'z' 'w' 1) (unit 'x' 'y' 0)) ∧
      (workspace (unit 'z' 'w' 1) (unit 'x' 'y' 0)).save blocked = .ok saved ∧
      saved.fault ≠ none ∧ ∃ done first rest,
        (workspace (unit 'z' 'w' 1) (unit 'x' 'y' 0)).pending kept = done ++ first :: rest ∧
        (saved.written = done.map fun entry => Path.ofText entry.2.path) ∧
        saved.workspace.changed = (first :: rest).filter (·.1 ∉ done.map (·.1)) := by
  obtain ⟨kept, history⟩ := history_changed
  obtain ⟨saved, saves, failed⟩ := exists_of_map_toOption (·.fault.isSome)
    (show ((workspace (unit 'z' 'w' 1) (unit 'x' 'y' 0)).save blocked).toOption.map _ =
      some true by decide +kernel)
  have faulty : saved.fault ≠ none := Option.isSome_iff_ne_none.mp failed
  obtain ⟨done, first, rest, split, written, -, left, -⟩ :=
    Workspace.save_stops history (by decide) saves faulty
  exact ⟨kept, saved, history, saves, faulty, done, first, rest, split, written, left⟩

/-- The second document was to be written and was not, but it no longer counts as changed. -/
theorem save_forgets :
    ∃ kept saved, Workspace.History [] kept (workspace (unit 'z' 'w' 1) (unit 'x' 'y' 0)) ∧
      ((workspace (unit 'z' 'w' 1) (unit 'x' 'y' 0)).documents.map (·.2.path)).Nodup ∧
      (workspace (unit 'z' 'w' 1) (unit 'x' 'y' 0)).save blocked = .ok saved ∧
      saved.fault ≠ none ∧ saved.written = [["a"]] ∧
      ("u", ⟨"b", ['w']⟩) ∈ (workspace (unit 'z' 'w' 1) (unit 'x' 'y' 0)).pending kept ∧
      saved.workspace.changed = [] := by
  obtain ⟨kept, history⟩ := history_changed
  obtain ⟨saved, saves, seen⟩ := exists_of_map_toOption
    (fun saved => (saved.fault.isSome, saved.written, saved.workspace.changed))
    (show ((workspace (unit 'z' 'w' 1) (unit 'x' 'y' 0)).save blocked).toOption.map _ =
      some (true, [["a"]], []) by decide +kernel)
  obtain ⟨failed, written, forgotten⟩ := by simpa only [Prod.mk.injEq] using seen
  refine ⟨kept, saved, history, by decide, saves, Option.isSome_iff_ne_none.mp failed, written, ?_,
    forgotten⟩
  rw [history.pending_eq]
  decide

end Notes

end FixLoop
