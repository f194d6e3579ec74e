import FixLoop.Manifest.Basic
import FixLoop.Proofs.Failing

/-!
Patterns and paths that finding files does not foresee. A pattern that is empty or misplaces its
stars is refused as such. One that is absolute, has no component, or leads to a name that is too
long fails in other ways, and so does a path with a null character.
-/

namespace FixLoop

namespace FileTree

variable {tree : FileTree} {folder path : Path} {pattern : String}

/-- The patterns that finding files does not foresee, and what becomes of them. -/
inductive Unforeseen (tree : FileTree) (folder : Path) (pattern : String) : GlobFault → Prop
  | absolute (slash : Path.isAbsolute pattern = true) : Unforeseen tree folder pattern .absolute
  | noComponent (some : pattern ≠ "") (relative : Path.isAbsolute pattern = false)
      (dots : Path.ofText pattern = []) (unslashed : pattern.toList.getLast? ≠ Option.some '/') :
      Unforeseen tree folder pattern .noComponent
  | onlyFolder (relative : Path.isAbsolute pattern = false) (dots : Path.ofText pattern = [])
      (slash : pattern.toList.getLast? = some '/') : Unforeseen tree folder pattern .onlyFolder
  /-- On the way to what the pattern names there is a name that is too long. -/
  | nameTooLong (globbed : tree.glob folder pattern = .error (.path .nameTooLong)) :
      Unforeseen tree folder pattern (.path .nameTooLong)

end FileTree

end FixLoop
