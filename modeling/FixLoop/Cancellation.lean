/-!
Cooperative cancellation: a signal that is asked for at fixed points and, once given, stays. A run
that nobody can stop has a signal that is never given.
-/

namespace FixLoop

inductive Cancellation where
  | never
  | pending
  | requested
  deriving Repr, DecidableEq, Inhabited

namespace Cancellation

def isRequested : Cancellation → Bool
  | requested => true
  | _ => false

/-- Gives the signal; none if it can never be given. -/
def request? : Cancellation → Option Cancellation
  | never => none
  | _ => some requested

def refusal : String := "The 'none' cancellation token cannot be cancelled"

def notice : String := "Operation was cancelled"

end Cancellation

end FixLoop
