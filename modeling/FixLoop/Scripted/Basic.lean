import FixLoop.Plugin.Combine

/-!
Scripted plugins are described by data: rules that find texts and report them, and actions that
replace what was reported. They count how often they are used, and can be told to fail, to request
cancellation, or to edit the workspace while a session waits, so that an engine can be tried under
any circumstances.
-/

namespace FixLoop

namespace Scripted

/-- How often one plugin was used. -/
structure Tally where
  /-- The snapshots that an analyzer was given. -/
  calls : Nat := 0
  /-- The sequences of candidates of which one was demanded. -/
  asked : Nat := 0
  /-- The candidates that were computed. -/
  consumed : Nat := 0
  /-- The edits made while a session waited. -/
  interfered : Nat := 0
  deriving Repr, DecidableEq, Inhabited

/-- One tally for every plugin, by its slot. -/
abbrev Memory := List Tally

/-- Updates the tally of a slot, and answers it. -/
def count (slot : Nat) (update : Tally → Tally) : Callback Memory Tally :=
  .retrieve fun memory =>
    let memory := memory.modify slot update
    .remember memory (.answer (memory[slot]?.getD default))

/-- A scripted plugin's identity. -/
def identity (name type : String) (languages : List String) : Plugin where
  name
  type
  package := "plugins"
  languages

/-- Which spans of a document a rule reports. -/
inductive Target where
  | span (start stop : Int)
  /-- Every occurrence of a text, which is not empty. -/
  | occurrences (find : Text) (overlapping : Bool)
  deriving Repr, DecidableEq

structure Rule where
  descriptor : Descriptor
  target : Target
  /-- The rule holds only where the version leaves this remainder on division. -/
  whenVersion : Option (Int × Int) := none
  /-- Whether the message is filled in. -/
  withArguments : Bool := false
  severity : Option Severity := none
  origin : Option Origin := none
  /-- Whether the analyzer declares what the rule reports. -/
  declared : Bool := true
  deriving Repr, DecidableEq

/-- The offsets at which a text occurs, each after so many characters that are passed over. -/
def occurrencesFrom (find : Text) (overlapping : Bool) (offset : Nat) : Nat → Text → List Nat
  | _, [] => []
  | skip + 1, _ :: rest => occurrencesFrom find overlapping (offset + 1) skip rest
  | 0, c :: rest =>
    if find.isPrefixOf (c :: rest) then
      let skip := if overlapping then 0 else find.length - 1
      offset :: occurrencesFrom find overlapping (offset + 1) skip rest
    else occurrencesFrom find overlapping (offset + 1) 0 rest

def Target.spans (text : Text) : Target → List (Int × Int)
  | span start stop => [(start, stop)]
  | occurrences find overlapping =>
    (occurrencesFrom find overlapping 0 0 text).map fun (start : Nat) =>
      (start, start + find.length)

/-- What a rule may fill in about a document of a unit. -/
def arguments (unit : SourceUnit) (document : Document) : List (String × Value) := [
  ("length", .int document.text.length), ("version", .int unit.version),
  ("path", .text document.path)]

/-- Whether a rule holds for a version. -/
def Rule.holds (rule : Rule) (version : Int) : Except Failure Bool :=
  match rule.whenVersion with
  | none => .ok true
  | some (divisor, rest) =>
    if divisor = 0 then .error .zeroDivisor else .ok (version.fmod divisor == rest)

/-- What a rule reports in a document; `origin` is that of the plugin. -/
def Rule.diagnostics (rule : Rule) (origin : Origin) (unit : SourceUnit) (document : Document) :
    Except Failure (List Diagnostic) := do
  if ← rule.holds unit.version then
    (rule.target.spans document.text).mapM fun (start, stop) =>
      (Diagnostic.create rule.descriptor (Location.ofSpan document.path document.text start stop)
        rule.severity (rule.origin.getD origin)
        (if rule.withArguments then arguments unit document else [])).mapError .template
  else return []

/-- What rules report in a unit, document by document. -/
def report (rules : List Rule) (origin : Origin) (unit : SourceUnit) :
    Callback Memory (List Diagnostic) :=
  let found := (unit.documents.flatMap fun document => rules.map fun rule => (rule, document)).mapM
    fun (rule, document) => rule.diagnostics origin unit document
  .ofExcept (found.map List.flatten)

/-- What an analyzer does besides following its rules. -/
structure AnalyzerScript where
  rules : List Rule
  /-- The call on which it requests cancellation. -/
  cancelOnCall : Option Int := none
  /-- What it fails with. -/
  failure : Option String := none
  /-- The calls on which it fails, all if none are given. -/
  failsOn : Option (List Int) := none
  deriving Repr, DecidableEq

def AnalyzerScript.run (script : AnalyzerScript) (slot : Nat) (unit : SourceUnit) :
    Callback Memory (List Diagnostic) := do
  let tally ← count slot fun tally => { tally with calls := tally.calls + 1 }
  let call : Int := tally.calls
  if script.cancelOnCall = some call then .cancel (.answer ())
  match script.failure with
  | some message =>
    if script.failsOn.all (call ∈ ·) then .fail (.raised message)
    else report script.rules .analyzer unit
  | none => report script.rules .analyzer unit

def analyzer (plugin : Plugin) (script : AnalyzerScript) (slot : Nat) : Analyzer Memory where
  toPlugin := plugin
  descriptors := (script.rules.filter (·.declared)).map (·.descriptor)
  analyze := script.run slot

def compiler (rules : List Rule) : Compiler Memory where
  toPlugin := identity "" "Scripted" []
  compile := report rules .compiler

end Scripted

end FixLoop
