import FixLoop.Workspace.Basic

/-!
Saving writes the changed documents below the root. A document that cannot be written ends the
save; what was written before it stays written.
-/

namespace FixLoop

/-- How a save ended. -/
structure Saved where
  written : List Path
  fault : Option WriteFault
  workspace : Workspace
  files : FileTree

namespace Workspace

/-- Writes documents in order. Each one written makes its whole unit count as saved. -/
def writeAll (root : Path) (workspace : Workspace) (files : FileTree) :
    List (String × Document) → Saved
  | [] => ⟨[], none, workspace, files⟩
  | (id, document) :: rest =>
    match files.write (root ++ Path.ofText document.path) (Utf8.encode document.text) with
    | .error fault => ⟨[], some fault, workspace, files⟩
    | .ok files =>
      let workspace := workspace.adjust id fun tracked => { tracked with saved := tracked.current }
      let saved := writeAll root workspace files rest
      { saved with written := Path.ofText document.path :: saved.written }

/-- Writes every changed document. -/
def save (workspace : Workspace) (files : FileTree) : Except WorkspaceFault Saved :=
  match workspace.root with
  | none => .error .noRoot
  | some root => .ok (workspace.writeAll root files workspace.changed)

end Workspace

end FixLoop
