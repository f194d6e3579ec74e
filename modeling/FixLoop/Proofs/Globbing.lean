import FixLoop.FileTree.Glob
import FixLoop.Proofs.FileTree
import FixLoop.Proofs.Succeeding

/-!
Names of files. A path that is made of names is written so that the same path is read back, and what
is found by a pattern in a tree whose paths are made of names is so too.
-/

namespace FixLoop

namespace Path

/-- Whether a component is a name, or two dots. -/
structure IsName (part : String) : Prop where
  some : part ≠ ""
  other : part ≠ "."
  whole : '/' ∉ part.toList

/-- Whether a path is made of names. -/
def IsProper (path : Path) : Prop := ∀ part ∈ path, IsName part

theorem not_mem_of_mem_splitOn {char : Char} {text piece : List Char}
    (member : piece ∈ text.splitOn char) : char ∉ piece := by
  induction text generalizing piece with
  | nil => simp_all
  | cons first rest ih =>
    rw [List.splitOn_cons_eq_if_modifyHead] at member
    split at member
    · rcases List.mem_cons.mp member with rfl | among
      · exact List.not_mem_nil
      · exact ih among
    · rename_i other
      cases split : rest.splitOn char with
      | nil => exact absurd split (List.splitOn_ne_nil _ _)
      | cons head more =>
        rw [split] at member ih
        rcases List.mem_cons.mp member with rfl | among
        · rw [List.mem_cons, not_or]
          exact ⟨fun same => other (beq_iff_eq.mpr same.symm), ih List.mem_cons_self⟩
        · exact ih (List.mem_cons_of_mem _ among)

theorem isProper_ofText (text : String) : (ofText text).IsProper := by
  intro part member
  obtain ⟨among, kept⟩ := List.mem_filter.mp member
  obtain ⟨piece, found, rfl⟩ := List.mem_map.mp among
  obtain ⟨some, other⟩ := Bool.and_eq_true_iff.mp kept
  constructor
  case some => exact of_decide_eq_true some
  case other => exact of_decide_eq_true other
  case whole =>
    rw [String.toList_ofList]
    exact not_mem_of_mem_splitOn found

/-- A path that is made of names is read back from how it is written. -/
theorem ofText_text {path : Path} (proper : path.IsProper) : ofText path.text = path := by
  unfold text
  split
  · rename_i top
    rw [List.isEmpty_iff.mp top]
    decide
  · rename_i below
    have pieces : ("/".intercalate path).toList.splitOn '/' = path.map String.toList := by
      rw [String.toList_intercalate]
      refine List.splitOn_intercalate '/' (fun piece member => ?_) (by simpa using below)
      obtain ⟨part, among, rfl⟩ := List.mem_map.mp member
      exact (proper part among).whole
    unfold ofText
    rw [pieces, List.map_map]
    have same : path.map (String.ofList ∘ String.toList) = path := by simp [Function.comp_def]
    rw [same, List.filter_eq_self]
    intro part member
    simp [(proper part member).some, (proper part member).other]

end Path

namespace FileTree

variable {tree : FileTree} {folder path : Path}

/-- Whether all paths of a tree are made of names. -/
def IsProper (tree : FileTree) : Prop := ∀ entry ∈ tree.entries, entry.1.IsProper

/-- Whether the components of a pattern that stand for themselves are names. -/
def NamesOnly (parts : List GlobPart) : Prop := ∀ name, .exact name ∈ parts → Path.IsName name

theorem isName_of_mem_names (proper : tree.IsProper) {name : String}
    (member : name ∈ tree.names folder) : Path.IsName name := by
  obtain ⟨⟨place, entry⟩, among, found⟩ := List.mem_filterMap.mp (List.mem_eraseDups.mp member)
  dsimp only at found
  split at found
  · exact proper _ among name (List.mem_of_getElem? found)
  · cases found

theorem isProper_of_mem_foldersBelow (proper : tree.IsProper)
    (member : path ∈ tree.foldersBelow folder) : path.IsProper := by
  unfold foldersBelow at member
  rcases List.mem_cons.mp (List.mem_eraseDups.mp member) with rfl | inner
  · exact nofun
  · obtain ⟨⟨place, entry⟩, among, found⟩ := List.mem_flatMap.mp (List.mem_filter.mp inner).1
    dsimp only at found
    split at found
    · obtain ⟨length, -, rfl⟩ := List.mem_map.mp found
      intro part member
      exact proper _ among part (List.mem_of_mem_drop (List.mem_of_mem_take member))
    · cases found

theorem isProper_append {other : Path} (proper : path.IsProper) (more : other.IsProper) :
    Path.IsProper (path ++ other) :=
  fun part member => (List.mem_append.mp member).elim (proper part) (more part)

theorem isProper_singleton {name : String} (proper : Path.IsName name) : Path.IsProper [name] := by
  intro part member
  rw [List.mem_singleton.mp member]
  exact proper

theorem expand_isProper (proper : tree.IsProper) {parts : List GlobPart} (names : NamesOnly parts)
    (start : path.IsProper) {found : List Path}
    (expanded : tree.expand folder parts path = .ok found) {reached : Path}
    (member : reached ∈ found) : reached.IsProper := by
  -- The induction is on the rest of the pattern, over all that was matched so far.
  induction parts generalizing path found with
  | nil =>
    cases expanded
    rw [List.mem_singleton.mp member]
    exact start
  | cons part rest ih =>
    have later : NamesOnly rest := fun name among => names name (List.mem_cons_of_mem _ among)
    cases part with
    | exact name =>
      have next := isProper_append start (isProper_singleton (names name List.mem_cons_self))
      unfold expand at expanded
      dsimp only at expanded
      split at expanded
      · exact ih later next expanded member
      · obtain ⟨place, -, expanded⟩ := exists_of_bind_eq_ok expanded
        split at expanded
        · exact ih later next expanded member
        · cases expanded
          cases member
    | matching pattern =>
      unfold expand at expanded
      split at expanded
      · obtain ⟨results, mapped, expanded⟩ := exists_of_bind_eq_ok expanded
        cases expanded
        obtain ⟨result, among, member⟩ := List.mem_flatten.mp member
        obtain ⟨name, named, expanded⟩ := exists_of_mapM_eq_ok mapped among
        have fits := isName_of_mem_names proper (List.mem_filter.mp named).1
        exact ih later (isProper_append start (isProper_singleton fits)) expanded member
      · cases expanded
        cases member
    | below =>
      unfold expand at expanded
      split at expanded
      · obtain ⟨results, mapped, expanded⟩ := exists_of_bind_eq_ok expanded
        cases expanded
        obtain ⟨result, among, member⟩ := List.mem_flatten.mp (List.mem_eraseDups.mp member)
        obtain ⟨inner, named, expanded⟩ := exists_of_mapM_eq_ok mapped among
        have fits := isProper_of_mem_foldersBelow proper named
        exact ih later (isProper_append start fits) expanded member
      · cases expanded
        cases member

theorem namesOnly_of_globParts {pattern : String} {parts : List GlobPart}
    (parsed : globParts pattern = .ok parts) : NamesOnly parts := by
  intro name member
  unfold globParts at parsed
  split at parsed
  · cases parsed
  split at parsed
  · cases parsed
  split at parsed
  · cases parsed
  · obtain ⟨text, among, read⟩ := exists_of_mapM_eq_ok parsed member
    have same : text = name := by
      unfold GlobPart.ofText at read
      split at read
      · cases read
      split at read
      · cases read
      split at read <;> cases read
      rfl
    exact same ▸ Path.isProper_ofText pattern text among

/-- What is found by a pattern is made of names. -/
theorem glob_isProper (proper : tree.IsProper) {pattern : String} {found : List Path}
    (globbed : tree.glob folder pattern = .ok found) {reached : Path} (member : reached ∈ found) :
    reached.IsProper := by
  obtain ⟨parts, parsed, globbed⟩ := exists_of_bind_eq_ok globbed
  split at globbed
  · cases globbed
    cases member
  · obtain ⟨all, expanded, globbed⟩ := exists_of_bind_eq_ok globbed
    obtain ⟨files, filtered, globbed⟩ := exists_of_bind_eq_ok globbed
    cases globbed
    have among := mem_of_filterM_eq_ok filtered
      (List.mem_mergeSort.mp (List.mem_eraseDups.mp member))
    have top : Path.IsProper [] := fun part member => absurd member List.not_mem_nil
    exact expand_isProper proper (namesOnly_of_globParts parsed) top (eq_ok_of_mapError expanded)
      among

end FileTree

end FixLoop
