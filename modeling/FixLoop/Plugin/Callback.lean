import FixLoop.Cancellation
import FixLoop.Session.Event
import FixLoop.Workspace.Basic

/-!
Callbacks: what plugin code may do while a session waits for it. A callback is a finite exchange.
It can look at the workspace, offer edits to it, request cancellation, use the memory that plugins
share, give up, or answer; it can neither change a snapshot in another way nor take a request for
cancellation back.
-/

namespace FixLoop

inductive Callback (σ α : Type) where
  | answer (value : α)
  | fail (failure : Failure)
  | look (next : Workspace → Callback σ α)
  | retrieve (next : σ → Callback σ α)
  | remember (memory : σ) (next : Callback σ α)
  | edit (unitId : String) (version : Int) (edits : List TextEdit) (next : Bool → Callback σ α)
  | cancel (next : Callback σ α)
  /-- Says that fixes of an identifier had to wait for another pass. -/
  | defer (count : Nat) (id : String) (next : Callback σ α)

namespace Callback

variable {σ α β : Type}

def andThen : Callback σ α → (α → Callback σ β) → Callback σ β
  | answer value, next => next value
  | fail failure, _ => fail failure
  | look ask, next => look fun workspace => (ask workspace).andThen next
  | retrieve ask, next => retrieve fun memory => (ask memory).andThen next
  | remember memory rest, next => remember memory (rest.andThen next)
  | edit unitId version edits ask, next =>
    edit unitId version edits fun landed => (ask landed).andThen next
  | cancel rest, next => cancel (rest.andThen next)
  | defer count id rest, next => defer count id (rest.andThen next)

instance : Monad (Callback σ) where
  pure := answer
  bind := andThen

/-- A callback that only answers or gives up. -/
def ofExcept : Except Failure α → Callback σ α
  | .ok value => answer value
  | .error failure => fail failure

/-- Whether a callback depends on nothing and changes nothing: it answers or gives up at once. -/
def IsPure : Callback σ α → Prop
  | answer _ => True
  | fail _ => True
  | _ => False

/-- Whether a callback never gives up, whatever it is told. -/
inductive NeverFails : Callback σ α → Prop
  | answer (value : α) : NeverFails (answer value)
  | look {next : Workspace → Callback σ α} (rest : ∀ w, NeverFails (next w)) :
      NeverFails (look next)
  | retrieve {next : σ → Callback σ α} (rest : ∀ m, NeverFails (next m)) :
      NeverFails (retrieve next)
  | remember {memory : σ} {next : Callback σ α} (rest : NeverFails next) :
      NeverFails (remember memory next)
  | edit {unitId : String} {version : Int} {edits : List TextEdit} {next : Bool → Callback σ α}
      (rest : ∀ landed, NeverFails (next landed)) : NeverFails (edit unitId version edits next)
  | cancel {next : Callback σ α} (rest : NeverFails next) : NeverFails (cancel next)
  | defer {count : Nat} {id : String} {next : Callback σ α} (rest : NeverFails next) :
      NeverFails (defer count id next)

end Callback

end FixLoop
