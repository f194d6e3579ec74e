import FixLoop.Plugin.Action

/-!
Outcomes of fixing one identifier, and what is reported of them.
-/

namespace FixLoop

/-- What became of an identifier, as reports name it. -/
inductive FixStatus where
  | fixed
  | nothingToFix
  | stalled
  | ambiguous
  | declined
  | applyConflict
  | compilerError
  deriving Repr, DecidableEq

namespace FixStatus

def all : List FixStatus :=
  [fixed, nothingToFix, stalled, ambiguous, declined, applyConflict, compilerError]

def label : FixStatus → String
  | fixed => "fixed"
  | nothingToFix => "nothing_to_fix"
  | stalled => "stalled"
  | ambiguous => "ambiguous"
  | declined => "declined"
  | applyConflict => "apply_conflict"
  | compilerError => "compiler_error"

/-- Whether an identifier with this status was left unfixed. -/
def isSkipped : FixStatus → Bool
  | stalled | ambiguous | declined | applyConflict => true
  | _ => false

end FixStatus

/-- How fixing an identifier ended. -/
inductive FixEnding where
  | fixed
  | nothingToFix
  /-- So many diagnostics were reported again as they were. -/
  | stalled (count : Nat)
  | ambiguous (ambiguity : Ambiguity)
  /-- No fixer had an action. -/
  | noAction
  /-- The selected action had no edits. -/
  | emptyAction (title : String)
  /-- The workspace rejected the edits twice. -/
  | conflict
  | buildFailed (errors : List Diagnostic)
  deriving Repr, DecidableEq

namespace FixEnding

def status : FixEnding → FixStatus
  | fixed => .fixed
  | nothingToFix => .nothingToFix
  | stalled _ => .stalled
  | ambiguous _ => .ambiguous
  | noAction => .declined
  | emptyAction _ => .declined
  | conflict => .applyConflict
  | buildFailed _ => .compilerError

/-- What a report says besides the status. -/
def detail : FixEnding → String
  | stalled count => toString count ++ " diagnostic(s) unchanged after fixing"
  | ambiguous ambiguity => ambiguity.message
  | noAction => "No fixer produced a fix for the batch"
  | emptyAction title => "'" ++ title ++ "' produced no edits"
  | conflict => "Workspace rejected the edits twice"
  | _ => ""

def errors : FixEnding → List Diagnostic
  | buildFailed errors => errors
  | _ => []

end FixEnding

/-- How fixing an identifier ended, after so many batches that were applied. -/
structure FixOutcome where
  batches : Nat
  ending : FixEnding
  deriving Repr, DecidableEq

end FixLoop
