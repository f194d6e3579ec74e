import FixLoop.FileTree
import FixLoop.Proofs.Succeeding
import Mathlib.Data.List.Induction

/-!
What the files of a tree hold. Where a path leads is a matter of the path alone, as far as it leads
anywhere in the tree. Making folders changes no file, and writing a file changes that file only.
-/

namespace FixLoop

/-- The place to which a name leads from a place, none if that is above the top. -/
def Path.enter (place : Path) (part : String) : Option Path :=
  if part = ".." then (if place.isEmpty then none else some place.dropLast)
  else some (place ++ [part])

theorem Path.resolve_eq (path : Path) : path.resolve = path.foldlM Path.enter [] := rfl

/-- What an entry holds if it is a file. -/
def Entry.content? : Entry → Option Bytes
  | file content => some content
  | folder => none

namespace FileTree

/-- What the file at a place holds. -/
def content? (tree : FileTree) (place : Path) : Option Bytes :=
  (tree.entry? place).bind Entry.content?

variable {tree after : FileTree} {path place : Path} {part : String}
  {above : Except PathFault (Option Path)}

theorem content?_eq_some {content : Bytes} :
    tree.content? place = some content ↔ tree.entry? place = some (.file content) := by
  unfold content?
  rcases tree.entry? place with _ | _ | _ <;> simp [Entry.content?]

theorem content?_eq_none : tree.content? place = none ↔ tree.isFile place = false := by
  unfold content? isFile
  rcases tree.entry? place with _ | _ | _ <;> simp [Entry.content?]

/-! ### Where paths lead -/

/-- A step that succeeds leads where the name says; what is above the top stays there. -/
theorem step_eq_ok {start next : Option Path} (lost : ∀ place, above = .ok place → place = none)
    (stepped : tree.step above start part = .ok next) : next = start.bind (·.enter part) := by
  cases start with
  | none =>
    simp only [step] at stepped
    split at stepped
    · cases stepped
    · split at stepped
      · cases stepped
        rfl
      · exact lost next stepped
  | some here =>
    simp only [step] at stepped
    rw [Option.bind_some, Path.enter]
    split at stepped
    · cases stepped
    split at stepped
    · cases stepped
    split at stepped
    · cases stepped
    split at stepped
    · rename_i up
      rw [if_pos up]
      exact (Except.ok.inj stepped).symm
    · rename_i down
      rw [if_neg down]
      exact (Except.ok.inj stepped).symm

theorem foldlM_step {start next : Option Path} (lost : ∀ place, above = .ok place → place = none)
    (followed : path.foldlM (tree.step above) start = .ok next) :
    next = start.bind fun place => path.foldlM Path.enter place := by
  induction path generalizing start with
  | nil =>
    cases followed
    cases next <;> rfl
  | cons part rest ih =>
    obtain ⟨middle, stepped, followed⟩ := exists_of_bind_eq_ok followed
    rw [ih followed, step_eq_ok lost stepped, Option.bind_assoc]
    rfl

theorem follow_eq_ok {next : Option Path} (lost : ∀ place, above = .ok place → place = none)
    (followed : tree.follow above path = .ok next) : next = path.resolve := by
  unfold follow at followed
  split at followed
  · cases followed
  · split at followed
    · cases followed
    · rw [foldlM_step lost followed, Path.resolve_eq, Option.bind_some]

theorem locate_eq_ok {next : Option Path} (located : tree.locate path = .ok next) :
    next = path.resolve :=
  follow_eq_ok (fun _ missing => by cases missing) located

theorem locateNew_eq_ok {next : Option Path} (located : tree.locateNew path = .ok next) :
    next = path.resolve :=
  follow_eq_ok (fun _ same => (Except.ok.inj same).symm) located

/-- What is read is what the file holds to which the path leads. -/
theorem content?_of_read {content : Bytes} (readable : tree.read path = .ok content) :
    ∃ place, path.resolve = some place ∧ tree.content? place = some content := by
  obtain ⟨next, located, readable⟩ := exists_of_bind_eq_ok readable
  split at readable
  · cases readable
  · rename_i place
    split at readable
    · rename_i held found
      cases readable
      exact ⟨place, (locate_eq_ok located).symm, content?_eq_some.mpr found⟩
    · split at readable <;> cases readable

/-! ### What changes -/

theorem lookup_map_update (entries : List (Path × Entry)) (path : Path) (entry : Entry)
    (other : Path) :
    (entries.map fun (key, old) => (key, if key = path then entry else old)).lookup other =
      (entries.lookup other).map fun old => if other = path then entry else old := by
  induction entries with
  | nil => rfl
  | cons first rest ih =>
    rw [List.map_cons, List.lookup_cons, List.lookup_cons]
    by_cases same : other = first.1
    · simp [same]
    · simp [beq_eq_false_iff_ne.mpr same, ih]

theorem lookup_put (tree : FileTree) (path : Path) (entry : Entry) (other : Path) :
    FileTree.entry? (tree.put path entry) other =
      if other = path then some entry else tree.entry? other := by
  unfold put
  split
  · rename_i known
    obtain ⟨old, found⟩ := Option.isSome_iff_exists.mp known
    refine (lookup_map_update tree.entries path entry other).trans ?_
    by_cases same : other = path
    · subst same
      rw [show tree.entries.lookup other = some old from found]
      simp
    · simp [same, entry?]
  · rename_i unknown
    have absent : tree.entries.lookup path = none :=
      Option.not_isSome_iff_eq_none.mp unknown
    unfold entry?
    rw [List.lookup_append]
    by_cases same : other = path
    · subst same
      simp [absent]
    · simp [same, List.lookup_cons, beq_eq_false_iff_ne.mpr same]

theorem content?_put (tree : FileTree) (path : Path) (entry : Entry) (other : Path) :
    (tree.put path entry).content? other =
      if other = path then entry.content? else tree.content? other := by
  unfold content?
  rw [lookup_put]
  split <;> rfl

theorem content?_makePlace {place : Option Path} (made : tree.makePlace place = .ok after)
    (other : Path) : after.content? other = tree.content? other := by
  cases place with
  | none =>
    cases made
    rfl
  | some place =>
    simp only [makePlace] at made
    split at made
    · cases made
      rfl
    split at made
    · cases made
    rename_i free
    cases made
    rw [content?_put]
    split
    · rename_i same
      rw [same, content?_eq_none.mpr (by simpa using free)]
      rfl
    · rfl

theorem content?_makeFolder (made : tree.makeFolder path = .ok after) (other : Path) :
    after.content? other = tree.content? other := by
  -- A missing folder is made inside the one above it, which is the path without its last name.
  induction path using List.reverseRecOn generalizing after with
  | nil =>
    unfold makeFolder at made
    split at made
    · exact content?_makePlace made other
    · cases made
    · cases made
  | append_singleton parent part ih =>
    unfold makeFolder at made
    split at made
    · exact content?_makePlace made other
    · rw [if_neg (by simp), List.dropLast_concat] at made
      obtain ⟨middle, outer, made⟩ := exists_of_bind_eq_ok made
      obtain ⟨place, -, made⟩ := exists_of_bind_eq_ok made
      rw [← ih outer]
      exact content?_makePlace made other
    · cases made

/-- A file that is written is the only one that changes; above the top, none does. -/
theorem content?_write {content : Bytes} (written : tree.write path content = .ok after)
    (other : Path) :
    after.content? other =
      if path.resolve = some other then some content else tree.content? other := by
  obtain ⟨middle, made, written⟩ := exists_of_bind_eq_ok written
  rw [← content?_makeFolder made other]
  split at written
  · rename_i located
    rw [← locateNew_eq_ok located, if_neg (by simp)]
    split at written <;> cases written
    rfl
  · rename_i place located
    rw [← locateNew_eq_ok located]
    split at written
    · cases written
    · cases written
      rw [content?_put]
      simp [Entry.content?, eq_comm]
  · cases written

end FileTree

end FixLoop
