import FixLoop.Workspace.Basic

/-!
The order in which units are processed. A unit can be placed when its registered dependencies have
all been placed; for each unit it is counted how many of them are still missing, and the units that
can be placed wait in a queue in ascending order. Dependencies outside the workspace do not count.
-/

namespace FixLoop

/-- Identifiers in ascending order. -/
def sortedIds (ids : List String) : List String :=
  ids.mergeSort fun a b => (compare a b).isLE

/-- Identifiers in ascending order, each once. -/
def idSet (ids : List String) : List String := sortedIds ids.eraseDups

/-- A unit with the registered units that it depends on, each once, and how many of them are not
placed yet. -/
structure Waiting where
  id : String
  dependencies : List String
  missing : Nat
  deriving Repr, DecidableEq

/-- What a unit waits for when another one has been placed. -/
def Waiting.settle (placed : String) (unit : Waiting) : Waiting :=
  if placed ∈ unit.dependencies then { unit with missing := unit.missing - 1 } else unit

/-- Units on their way into an order: what each of them waits for, which of them can be placed, in
ascending order, and which have been placed. -/
structure Placing where
  units : List Waiting
  queue : List String
  placed : List String := []
  deriving Repr, DecidableEq

namespace Placing

/-- The units whose last missing dependency was the one that was placed. -/
def freed (placed : String) (units : List Waiting) : List String :=
  (units.filter fun unit => placed ∈ unit.dependencies && unit.missing == 0).map (·.id)

/-- Places the first unit of the queue, and queues the units that it frees. -/
def next? (placing : Placing) : Option Placing :=
  match placing.queue with
  | [] => none
  | id :: queue =>
    let units := placing.units.map (Waiting.settle id)
    some { units, queue := sortedIds (queue ++ freed id units), placed := placing.placed ++ [id] }

/-- Places units until none can be placed, but at most so many. -/
def place : Nat → Placing → Placing
  | 0, placing => placing
  | count + 1, placing =>
    match placing.next? with
    | none => placing
    | some next => place count next

end Placing

namespace Workspace

/-- The registered units that a unit depends on, each once. -/
def dependencies (workspace : Workspace) (id : String) : List String :=
  (((workspace.snapshot? id).elim [] (·.dependsOn)).filter (· ∈ workspace.ids)).eraseDups

/-- The units before any is placed. -/
def unplaced (workspace : Workspace) : Placing :=
  let units := workspace.ids.eraseDups.map fun id =>
    let dependencies := workspace.dependencies id
    { id, dependencies, missing := dependencies.length }
  { units, queue := sortedIds ((units.filter (·.missing == 0)).map (·.id)) }

/-- All units that can be placed, in order. None is placed twice, so no more can be placed than
there are. -/
def placement (workspace : Workspace) : List String :=
  (workspace.unplaced.place workspace.units.length).placed

/-- The requested units, by default all, with dependencies first. -/
def order (workspace : Workspace) (requested : Option (List String)) :
    Except WorkspaceFault (List String) :=
  let selected := requested.getD workspace.ids
  match selected.find? (· ∉ workspace.ids) with
  | some id => .error (.unknownUnit id)
  | none =>
    let placed := workspace.placement
    let stuck := workspace.ids.filter (· ∉ placed)
    if stuck.isEmpty then .ok (placed.filter (· ∈ selected))
    else .error (.cycle (idSet stuck))

end Workspace

end FixLoop
