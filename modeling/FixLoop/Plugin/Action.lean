import FixLoop.Cancellation
import FixLoop.Diagnostic
import FixLoop.SourceUnit

/-!
Fix actions, the batches they are made for, and what can go wrong in a plugin.
-/

namespace FixLoop

/-- A fix that can be applied. Actions with equal keys are interchangeable and can be combined. -/
structure FixAction where
  title : String
  key : String
  edits : List TextEdit
  deriving Repr, DecidableEq, Inhabited

/-- A batch of one diagnostic identifier, to be fixed by a single action with the given key. -/
structure FixAllContext where
  unit : SourceUnit
  id : String
  key : String
  diagnostics : List Diagnostic
  deriving Repr, DecidableEq

/-- Why a plugin gave up. -/
inductive Failure where
  | raised (message : String)
  | template (fault : TemplateFault)
  | unknownUnit (id : String)
  | cannotCancel
  /-- A character before the start of a text was asked for. -/
  | beforeText
  | zeroDivisor
  deriving Repr, DecidableEq

def Failure.message : Failure → String
  | raised message => message
  | template fault => fault.message
  | unknownUnit id => "Unknown unit: " ++ id
  | cannotCancel => Cancellation.refusal
  | beforeText => "string index out of range"
  | zeroDivisor => "integer modulo by zero"

/-- Two fixes that compete for one diagnostic identifier. -/
structure Ambiguity where
  id : String
  first : String
  second : String
  deriving Repr, DecidableEq

def Ambiguity.message (ambiguity : Ambiguity) : String :=
  "Diagnostic '" ++ ambiguity.id ++ "' is fixable by multiple actions: '" ++ ambiguity.first ++
    "' and '" ++ ambiguity.second ++ "'"

end FixLoop
