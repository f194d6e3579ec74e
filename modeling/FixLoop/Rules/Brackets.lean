import FixLoop.Plugin.Basic
import FixLoop.Rules.Literals

/-!
Bracket balance: the brackets of the code of a text must pair up, kind by kind, and nest. What is
reported is the first closing bracket without its partner or, when all of those have one, the last
opening bracket without its partner.
-/

namespace FixLoop

namespace Brackets

/-- The bracket that closes what a bracket opens. -/
def closing? (c : Char) : Option Char :=
  if c = '(' then some ')' else if c = '[' then some ']' else if c = '\x7b' then some '\x7d'
  else none

def isClosing (c : Char) : Bool := c == ')' || c == ']' || c == '\x7d'

inductive Imbalance where
  | unexpected (closer : Char) (offset : Nat)
  | unclosed (opener closer : Char) (offset : Nat)
  deriving Repr, DecidableEq

namespace Imbalance

def offset : Imbalance → Nat
  | unexpected _ offset => offset
  | unclosed _ _ offset => offset

def message : Imbalance → String
  | unexpected closer _ => "Unexpected '" ++ String.ofList [closer] ++ "'"
  | unclosed opener closer _ =>
    "'" ++ String.ofList [opener] ++ "' is never closed; expected '" ++ String.ofList [closer] ++
      "'"

end Imbalance

/-- An opening bracket that waits for its partner. -/
structure Pending where
  opener : Char
  closer : Char
  offset : Nat
  deriving Repr, DecidableEq

/-- The brackets that wait after a character of code at an offset. -/
def step (offset : Nat) (c : Char) (pending : List Pending) : Except Imbalance (List Pending) :=
  match closing? c with
  | some closer => .ok (⟨c, closer, offset⟩ :: pending)
  | none =>
    if isClosing c then
      match pending with
      | last :: others =>
        if last.closer = c then .ok others else .error (.unexpected c offset)
      | [] => .error (.unexpected c offset)
    else .ok pending

/-- The imbalance of the rest of a text from an offset on, after brackets that wait, the last one
first. -/
def check (offset : Nat) (mode : Literals.Mode) (pending : List Pending) :
    Text → Option Imbalance
  | [] => pending.head?.map fun last => .unclosed last.opener last.closer last.offset
  | c :: rest =>
    match if mode = .code then step offset c pending else .ok pending with
    | .error imbalance => some imbalance
    | .ok pending => check (offset + 1) (mode.next c rest.head?) pending rest

def imbalance? (text : Text) : Option Imbalance := check 0 .code [] text

end Brackets

end FixLoop
