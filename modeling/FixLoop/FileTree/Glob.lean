import FixLoop.FileTree
import FixLoop.Text.Wildcard
import FixLoop.Text.Quoted

/-!
Glob patterns: paths in which a component may hold wildcards, which match inside one component, and
in which two stars as a component stand for a folder and all folders below it.
-/

namespace FixLoop

/-- One component of a pattern. -/
inductive GlobPart where
  | exact (name : String)
  | matching (pattern : String)
  | below
  deriving Repr, DecidableEq

inductive GlobFault where
  | empty
  | absolute
  /-- A pattern that is all dots. -/
  | noComponent
  /-- A pattern that is all dots and slashes. -/
  | onlyFolder
  /-- Two stars beside other characters. -/
  | misplacedStars
  | path (fault : PathFault)
  deriving Repr, DecidableEq

def GlobFault.message : GlobFault → String
  | empty => "Unacceptable pattern: ''"
  | absolute => "Non-relative patterns are unsupported"
  | noComponent => "tuple index out of range"
  | onlyFolder => "a pattern needs a component"
  | misplacedStars => "Invalid pattern: '**' can only be an entire path component"
  | path fault => fault.message ""

namespace GlobPart

def hasWildcard (name : String) : Bool := name.toList.any fun c => c = '*' || c = '?' || c = '['

def ofText (name : String) : Except GlobFault GlobPart :=
  if name = "**" then .ok below
  else if Text.contains ['*', '*'] name.toList then .error .misplacedStars
  else if hasWildcard name then .ok (matching name)
  else .ok (exact name)

end GlobPart

/-- The components of a pattern. -/
def globParts (pattern : String) : Except GlobFault (List GlobPart) :=
  if pattern = "" then .error .empty
  else if Path.isAbsolute pattern then .error .absolute
  else
    match Path.ofText pattern with
    | [] => .error (if pattern.toList.getLast? = some '/' then .onlyFolder else .noComponent)
    | parts => parts.mapM GlobPart.ofText

namespace FileTree

/-- The folders at and below a place, as paths from it. -/
def foldersBelow (tree : FileTree) (place : Path) : List Path :=
  let inner := tree.entries.flatMap fun (path, _) =>
    if place.isPrefixOf path then Path.ancestors (path.drop place.length) else []
  ([] :: inner.filter fun path => !path.isEmpty && tree.isFolder (place ++ path)).eraseDups

/-- The paths that fit the rest of a pattern, after a path from a folder. -/
def expand (tree : FileTree) (folder : Path) : List GlobPart → Path → Except PathFault (List Path)
  | [], path => .ok [path]
  | .exact name :: rest, path => do
    let next := path ++ [name]
    let goesOn (place : Path) : Bool :=
      tree.isFolder place || rest.isEmpty && tree.isFile place
    match tree.locate (folder ++ next) with
    | .ok none => tree.expand folder rest next
    | _ =>
      if (← tree.placeWhere goesOn (folder ++ next)).isSome then tree.expand folder rest next
      else return []
  | .matching pattern :: rest, path =>
    match tree.locate (folder ++ path) with
    | .ok (some place) => do
      let found := (tree.names place).filter fun name =>
        fits pattern name && (rest.isEmpty || tree.isFolder (place ++ [name]))
      return (← found.mapM fun name => tree.expand folder rest (path ++ [name])).flatten
    | _ => .ok []
  | .below :: rest, path =>
    match tree.locate (folder ++ path) with
    | .ok (some place) => do
      let found ← (tree.foldersBelow place).mapM fun below =>
        tree.expand folder rest (path ++ below)
      return found.flatten.eraseDups
    | _ => .ok []

/-- The files that fit a pattern, as paths from a folder, in order and each once. -/
def glob (tree : FileTree) (folder : Path) (pattern : String) : Except GlobFault (List Path) := do
  let parts ← globParts pattern
  if pattern.toList.getLast? = some '/' then return []
  let reached ← (tree.expand folder parts []).mapError .path
  let found ← reached.filterM fun path =>
    return (← (tree.file? (folder ++ path)).mapError .path).isSome
  return (found.mergeSort fun a b => (Path.order a b).isLE).eraseDups

end FileTree

end FixLoop
