import FixLoop.SourceUnit
import FixLoop.FileTree

/-!
Workspaces own the latest snapshot of every unit. An edit set names the version it was computed
against and is rejected when the unit has moved on, so no edit is ever rebased.
-/

namespace FixLoop

/-- A unit as it stands and as it was when it was added or last saved. -/
structure Tracked where
  current : SourceUnit
  saved : SourceUnit
  deriving Repr, DecidableEq

/-- The units of a workspace in the order of their registration; documents of a workspace with a
root are files below it. -/
structure Workspace where
  root : Option Path := none
  units : List Tracked := []
  deriving Repr, DecidableEq, Inhabited

inductive WorkspaceFault where
  | alreadyRegistered (id : String)
  | unknownUnit (id : String)
  | cycle (ids : List String)
  | noRoot
  deriving Repr, DecidableEq

def WorkspaceFault.message : WorkspaceFault → String
  | alreadyRegistered id => "Unit '" ++ id ++ "' already registered"
  | unknownUnit id => "Unknown unit: " ++ id
  | cycle ids => "Cannot order units: dependency cycle among " ++ ", ".intercalate ids
  | noRoot => "Workspace has no root directory; nothing to save to"

namespace Workspace

def ids (workspace : Workspace) : List String := workspace.units.map (·.current.id)

def snapshot? (workspace : Workspace) (id : String) : Option SourceUnit :=
  (workspace.units.find? (·.current.id == id)).map (·.current)

/-- The latest snapshot of a unit. -/
def snapshot (workspace : Workspace) (id : String) : Except WorkspaceFault SourceUnit :=
  (workspace.snapshot? id).elim (.error (.unknownUnit id)) .ok

def add (workspace : Workspace) (unit : SourceUnit) : Except WorkspaceFault Workspace :=
  if unit.id ∈ workspace.ids then .error (.alreadyRegistered unit.id)
  else .ok { workspace with units := workspace.units ++ [⟨unit, unit⟩] }

def ofUnits (units : List SourceUnit) : Except WorkspaceFault Workspace :=
  units.foldlM add {}

/-- Changes what is tracked of one unit. -/
def adjust (workspace : Workspace) (id : String) (change : Tracked → Tracked) : Workspace :=
  { workspace with
    units := workspace.units.map fun tracked =>
      if tracked.current.id = id then change tracked else tracked }

/--
Applies an edit set that was computed against a version: whether it landed, and the workspace then.
It does not land when the unit has another version by now or the edits do not fit; the workspace is
then as before.
-/
def tryEdit (workspace : Workspace) (id : String) (version : Int) (edits : List TextEdit) :
    Except WorkspaceFault (Bool × Workspace) :=
  match workspace.snapshot? id with
  | none => .error (.unknownUnit id)
  | some current =>
    if current.version ≠ version then .ok (false, workspace)
    else
      match current.withEdits edits with
      | .error _ => .ok (false, workspace)
      | .ok next => .ok (true, workspace.adjust id fun tracked => { tracked with current := next })

/-- The documents of a unit whose text differs from the saved text of the first document with
their path. -/
def Tracked.changed (tracked : Tracked) : List Document :=
  tracked.current.documents.filter fun document =>
    match tracked.saved.document? document.path with
    | none => true
    | some before => before.text ≠ document.text

/-- The changed documents with the ids of their units, in registration and document order. -/
def changed (workspace : Workspace) : List (String × Document) :=
  workspace.units.flatMap fun tracked =>
    (Tracked.changed tracked).map fun document => (tracked.current.id, document)

end Workspace

end FixLoop
