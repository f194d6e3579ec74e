import FixLoop.Scripted.Basic

/-!
Scripted fixers and formatters.
-/

namespace FixLoop

namespace Scripted

/-- Which part of a document a scripted edit replaces. -/
inductive Place where
  /-- What the diagnostic covers. -/
  | found
  | start
  | stop
  | span (start stop : Int)
  deriving Repr, DecidableEq

structure ScriptedEdit where
  place : Place := .found
  text : Text := []
  /-- The document, by default that of the diagnostic. -/
  path : Option String := none
  deriving Repr, DecidableEq

structure ScriptedAction where
  title : String
  key : String
  edits : List ScriptedEdit
  /-- The identifiers and the starts of the diagnostics that it is offered for, by default all. -/
  ids : Option (List String) := none
  starts : Option (List Int) := none
  deriving Repr, DecidableEq

/-- How a scripted fixer fixes a whole batch. -/
inductive Combination where
  | nothing
  | empty
  | edits (edits : List TextEdit)
  /-- By merging what it offers. -/
  | merged
  deriving Repr, DecidableEq

structure FixerScript where
  actions : List ScriptedAction
  /-- What it fails with once its candidates are exhausted. -/
  exhausted : Option String := none
  /-- Whether it requests cancellation when it is asked. -/
  cancels : Bool := false
  combination : Combination := .merged
  /-- How often, and what, it appends to the unit after fixing a batch. -/
  interference : Nat × Text := (0, [])
  deriving Repr, DecidableEq

/-- The edit that a script describes for a diagnostic. -/
def ScriptedEdit.edit (script : ScriptedEdit) (diagnostic : Diagnostic) (unit : SourceUnit) :
    TextEdit :=
  let path := script.path.getD diagnostic.location.path
  let length : Int := (unit.document? path).elim 0 fun document => document.text.length
  let (start, stop) := match script.place with
    | .found => (diagnostic.location.start, diagnostic.location.stop)
    | .start => (0, 0)
    | .stop => (length, length)
    | .span start stop => (start, stop)
  { path, start, stop, text := script.text }

namespace ScriptedAction

def isOffered (script : ScriptedAction) (diagnostic : Diagnostic) : Bool :=
  script.ids.all (diagnostic.id ∈ ·) && script.starts.all (diagnostic.location.start ∈ ·)

def action (script : ScriptedAction) (diagnostic : Diagnostic) (unit : SourceUnit) : FixAction where
  title := script.title
  key := script.key
  edits := script.edits.map fun edit => edit.edit diagnostic unit

end ScriptedAction

namespace FixerScript

/-- What happens when the first candidate of a sequence is demanded. -/
def opening (script : FixerScript) (slot : Nat) : Callback Memory Unit := do
  let _ ← count slot fun tally => { tally with asked := tally.asked + 1 }
  if script.cancels then .cancel (.answer ())

/-- What happens when a candidate past the last is demanded. -/
def ending (script : FixerScript) : Callback Memory (Option FixAction) :=
  match script.exhausted with
  | some message => .fail (.raised message)
  | none => .answer none

def offers (script : FixerScript) (slot : Nat) : Offers Memory := fun diagnostic unit =>
  let offered := script.actions.filter fun action => action.isOffered diagnostic
  let steps : Candidates Memory := offered.map fun action => do
    let _ ← count slot fun tally => { tally with consumed := tally.consumed + 1 }
    return some (action.action diagnostic unit)
  match steps ++ [script.ending] with
  | [] => []
  | first :: rest => (script.opening slot).andThen (fun _ => first) :: rest

/-- Appends to the first document of the latest snapshot of a unit. -/
def append (unitId : String) (text : Text) : Callback Memory Unit :=
  .look fun workspace =>
    match workspace.snapshot? unitId with
    | none => .fail (.unknownUnit unitId)
    | some unit =>
      match unit.documents.head? with
      | none => .answer ()
      | some document =>
        let stop := document.text.length
        .edit unitId unit.version [{ path := document.path, start := stop, stop, text }]
          fun _ => .answer ()

/-- Appends to a unit as often as the script says. -/
def interfere (script : FixerScript) (slot : Nat) (unitId : String) : Callback Memory Unit := do
  let (times, text) := script.interference
  let before ← count slot id
  if before.interfered < times then
    let _ ← count slot fun tally => { tally with interfered := tally.interfered + 1 }
    append unitId text

def fixAll (script : FixerScript) (slot : Nat) (context : FixAllContext) :
    Callback Memory (Option FixAction) :=
  match script.combination with
  | .nothing => .answer none
  | .empty => .answer (some { title := "Empty", key := context.key, edits := [] })
  | .edits edits => do
    script.interfere slot context.unit.id
    return some { title := "Scripted", key := context.key, edits }
  | .merged => do
    let action ← (script.offers slot).fixAll context
    script.interfere slot context.unit.id
    return action

end FixerScript

/-- A scripted fixer; `fixAllIds` lists the identifiers of which it can fix batches, if it is not
for its identifiers as a whole that it can or cannot. -/
def fixer (plugin : Plugin) (ids : List String) (supportsFixAll : Bool)
    (fixAllIds : Option (List String)) (script : FixerScript) (slot : Nat) : Fixer Memory where
  toPlugin := plugin
  fixableIds := ids
  supportsFixAll
  canFixAll id := match fixAllIds with
    | some listed => id ∈ listed
    | none => supportsFixAll && id ∈ ids
  offers := script.offers slot
  fixAll := script.fixAll slot

/-- A formatter that appends a text to every document. Before that it appends another text to the
document in the workspace, if the workspace still has it as it is. -/
def formatter (plugin : Plugin) (appended : Text) (interference : Option Text) :
    Formatter Memory where
  toPlugin := plugin
  format _ document :=
    let formatted := document.text ++ appended
    match interference with
    | none => .answer formatted
    | some text =>
      .look fun workspace =>
        match workspace.units.find? fun tracked => document ∈ tracked.current.documents with
        | none => .answer formatted
        | some tracked =>
          let stop := document.text.length
          .edit tracked.current.id tracked.current.version
            [{ path := document.path, start := stop, stop, text }] fun _ => .answer formatted

end Scripted

end FixLoop
