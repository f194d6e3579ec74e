import FixLoop.Text.Utf8
import FixLoop.Text.Lines

/-!
Trees of files and folders. A path is the list of its components below the top of the tree; every
prefix of a path in the tree is a folder, and nothing is known above the top.
-/

namespace FixLoop

abbrev Path := List String

inductive Entry where
  | file (content : Bytes)
  | folder
  deriving Repr, DecidableEq

/-- Why the way along a path ends. -/
inductive PathFault where
  | missing
  | isFolder
  /-- A component before the last is a file. -/
  | notAFolder
  | nameTooLong
  /-- A path with a null character in it is no path at all. -/
  | nullCharacter
  deriving Repr, DecidableEq

/-- What a fault says of a path. -/
def PathFault.message (path : String) : PathFault → String
  | missing => "[Errno 2] No such file or directory: '" ++ path ++ "'"
  | isFolder => "[Errno 21] Is a directory: '" ++ path ++ "'"
  | notAFolder => "[Errno 20] Not a directory: '" ++ path ++ "'"
  | nameTooLong => "[Errno 36] File name too long: '" ++ path ++ "'"
  | nullCharacter => "embedded null byte"

/-- Why a file cannot be written. -/
inductive WriteFault where
  /-- The folder that should hold the file is a file. -/
  | folderIsFile
  | path (fault : PathFault)
  deriving Repr, DecidableEq

namespace Path

/-- The components of a written path; empty ones and single dots say nothing. -/
def ofText (text : String) : Path :=
  ((text.toList.splitOn '/').map String.ofList).filter fun part => part ≠ "" && part ≠ "."

def isAbsolute (text : String) : Bool := text.toList.head? == some '/'

/-- A path as it is written; the top is a single dot. -/
def text (path : Path) : String :=
  if path.isEmpty then "." else "/".intercalate path

/-- A path without steps back, none if it leads above the top. -/
def resolve (path : Path) : Option Path :=
  path.foldlM (fun (above : Path) part =>
    if part = ".." then (if above.isEmpty then none else some above.dropLast)
    else some (above ++ [part])) []

/-- How many bytes a name has at most. -/
def mostNameBytes : Nat := 255

/-- How many bytes a written path has at most. -/
def mostBytes : Nat := 4095

def hasNull (path : Path) : Bool := path.any fun part => part.toList.contains (Char.ofNat 0)

/-- The order of paths: component by component. -/
def order : Path → Path → Ordering
  | [], [] => .eq
  | [], _ :: _ => .lt
  | _ :: _, [] => .gt
  | a :: as, b :: bs => (compare a b).then (order as bs)

/-- A folder and those that hold it, from the innermost. -/
def ancestors (path : Path) : List Path :=
  (List.range (path.length + 1)).reverse.map path.take

end Path

structure FileTree where
  entries : List (Path × Entry) := []
  deriving Repr, DecidableEq, Inhabited

namespace FileTree

def entry? (tree : FileTree) (path : Path) : Option Entry := tree.entries.lookup path

def isFile (tree : FileTree) (path : Path) : Bool :=
  match tree.entry? path with
  | some (.file _) => true
  | _ => false

/-- Whether a path is a folder: the top, one that is listed, or one that holds something. -/
def isFolder (tree : FileTree) (path : Path) : Bool :=
  path.isEmpty || tree.entry? path == some .folder ||
    tree.entries.any fun (other, _) => path.isPrefixOf other && path.length < other.length

/-- The names in a folder, each once. -/
def names (tree : FileTree) (folder : Path) : List String :=
  (tree.entries.filterMap fun (path, _) =>
    if folder.isPrefixOf path then path[folder.length]? else none).eraseDups

/-- One step along a path, from a place in the tree or, if there is none, from above the top, where
a name leads on as `above` says. Only a folder can be left. -/
def step (tree : FileTree) (above : Except PathFault (Option Path)) (place : Option Path)
    (part : String) : Except PathFault (Option Path) :=
  match place with
  | none =>
    if Path.mostNameBytes < part.utf8ByteSize then .error .nameTooLong
    else if part = ".." then .ok none
    else above
  | some here =>
    if tree.isFile here then .error .notAFolder
    else if !tree.isFolder here then .error .missing
    else if Path.mostNameBytes < part.utf8ByteSize then .error .nameTooLong
    else if part = ".." then .ok (if here.isEmpty then none else some here.dropLast)
    else .ok (some (here ++ [part]))

/-- Follows a path from the top. -/
def follow (tree : FileTree) (above : Except PathFault (Option Path)) (path : Path) :
    Except PathFault (Option Path) :=
  if path.hasNull then .error .nullCharacter
  else if Path.mostBytes < path.text.utf8ByteSize then .error .nameTooLong
  else path.foldlM (tree.step above) (some [])

/-- The place that a path leads to, of which only the last component may be missing; none if it
leads above the top, where nothing is known but the way up. -/
def locate (tree : FileTree) (path : Path) : Except PathFault (Option Path) :=
  tree.follow (.error .missing) path

/-- The place of something to be made. Above the top all folders that are needed count as made. -/
def locateNew (tree : FileTree) (path : Path) : Except PathFault (Option Path) :=
  tree.follow (.ok none) path

/-- The place of a path for which a condition holds. A path that leads nowhere has none, but names
that are too long are a fault. -/
def placeWhere (tree : FileTree) (wanted : Path → Bool) (path : Path) :
    Except PathFault (Option Path) :=
  match tree.locate path with
  | .ok place => .ok (place.filter wanted)
  | .error .nameTooLong => .error .nameTooLong
  | .error _ => .ok none

/-- The place of a path that is a file. -/
def file? (tree : FileTree) (path : Path) : Except PathFault (Option Path) :=
  tree.placeWhere tree.isFile path

def read (tree : FileTree) (path : Path) : Except PathFault Bytes := do
  match ← tree.locate path with
  | none => throw .isFolder
  | some place =>
    match tree.entry? place with
    | some (.file content) => return content
    | _ => throw (if tree.isFolder place then .isFolder else .missing)

/-- Sets the entry of a path, in its place if the tree has it. -/
def put (tree : FileTree) (path : Path) (entry : Entry) : FileTree :=
  if (tree.entry? path).isSome then
    ⟨tree.entries.map fun (other, old) => (other, if other = path then entry else old)⟩
  else ⟨tree.entries ++ [(path, entry)]⟩

/-- Makes the folder of a place whose own folder is there; one that is there is kept. -/
def makePlace (tree : FileTree) : Option Path → Except WriteFault FileTree
  | none => .ok tree
  | some place =>
    if tree.isFolder place then .ok tree
    else if tree.isFile place then .error .folderIsFile
    else .ok (tree.put place .folder)

/-- Makes a folder, and before it those that hold it. -/
def makeFolder (tree : FileTree) (path : Path) : Except WriteFault FileTree :=
  match tree.locateNew path with
  | .ok place => tree.makePlace place
  | .error .missing =>
    if path = [] then .error (.path .missing)
    else do
      let tree ← tree.makeFolder path.dropLast
      tree.makePlace (← (tree.locateNew path).mapError .path)
  | .error fault => .error (.path fault)
termination_by path.length
decreasing_by
  have := List.length_pos_iff.2 ‹path ≠ []›
  simp only [List.length_dropLast]
  omega

/-- Writes a file, making the folders that it needs. A file above the top is not kept. -/
def write (tree : FileTree) (path : Path) (content : Bytes) : Except WriteFault FileTree := do
  let tree ← tree.makeFolder path.dropLast
  match tree.locateNew path with
  | .ok none => if path.getLast? = some ".." then throw (.path .isFolder) else return tree
  | .ok (some place) =>
    if tree.isFolder place then throw (.path .isFolder)
    return tree.put place (.file content)
  | .error fault => throw (.path fault)

/-- The first folder, from one outwards, from which a name leads to a file, with that name after
it. Above the top no file is found, but the name is looked for. -/
def findUpwards (tree : FileTree) (name : String) (start : Path) :
    Except PathFault (Option Path) :=
  if start.hasNull then .error .nullCharacter
  else do
    let parts := Path.ofText name
    let folders :=
      if Path.isAbsolute name then [] else ((Path.resolve start).map Path.ancestors).getD []
    let found ← folders.findSomeM? fun folder => do
      return (← tree.file? (folder ++ parts)).map fun _ => folder ++ parts
    if found.isNone && !parts.hasNull then
      if let .error .nameTooLong := parts.foldlM (tree.step (.error .missing)) none then
        throw .nameTooLong
    return found

/-- The text of a file, its line breaks unified. -/
def readText (tree : FileTree) (path : Path) : Except (PathFault ⊕ Utf8.Fault) Text :=
  match tree.read path with
  | .error fault => .error (.inl fault)
  | .ok bytes =>
    match Utf8.decode bytes with
    | .error fault => .error (.inr fault)
    | .ok text => .ok (Text.unifyNewlines text)

end FileTree

end FixLoop
