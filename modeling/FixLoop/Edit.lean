import FixLoop.Text.Basic

/-!
Edits: a span of one document and the text that replaces it. A set of edits is computed against one
text and lands as a whole or not at all.
-/

namespace FixLoop

structure TextEdit where
  path : String
  start : Int
  stop : Int
  text : Text := []
  deriving Repr, DecidableEq, Inhabited

/-- Why a set of edits cannot land. -/
inductive EditFault where
  | overlap (path : String) (offset : Int)
  | outOfRange (path : String) (start stop : Int) (length : Nat)
  | unknownDocument (path : String)
  deriving Repr, DecidableEq

def EditFault.message : EditFault → String
  | overlap path offset => "Overlapping edits at offset " ++ toString offset ++ " in " ++ path
  | outOfRange path start stop length =>
    "Edit [" ++ toString start ++ ", " ++ toString stop ++ ") out of range for " ++ path ++
      " (length " ++ toString length ++ ")"
  | unknownDocument path => "Edit targets unknown document: " ++ path

namespace TextEdit

/-- Whether two edits touch the same part of a document. Two insertions at one place do, since
nothing says which comes first. -/
def overlaps (a b : TextEdit) : Bool :=
  a.path == b.path &&
    ((a.start == a.stop && a.stop == b.start && b.start == b.stop) ||
      (a.start < b.stop && b.start < a.stop))

/-- The order in which edits are applied: by start, then end. -/
def order (a b : TextEdit) : Ordering :=
  (compare a.start b.start).then (compare a.stop b.stop)

def sorted (edits : List TextEdit) : List TextEdit :=
  edits.mergeSort fun a b => (order a b).isLE

/-- The first edit that overlaps the one before it. -/
def overlap? : List TextEdit → Option TextEdit
  | a :: b :: rest => if a.overlaps b then some b else overlap? (b :: rest)
  | _ => none

def inRange (length : Nat) (edit : TextEdit) : Bool :=
  0 ≤ edit.start && edit.start ≤ edit.stop && edit.stop ≤ length

/-- Applies edits in order; what stands before the cursor is already written. -/
def splice (text : Text) (cursor : Nat) : List TextEdit → Except EditFault Text
  | [] => .ok (text.drop cursor)
  | edit :: more =>
    if edit.inRange text.length then do
      let tail ← splice text edit.stop.toNat more
      return (text.take edit.start.toNat).drop cursor ++ edit.text ++ tail
    else .error (.outOfRange edit.path edit.start edit.stop text.length)

/-- Applies a set of edits to the text of their document. -/
def apply (text : Text) (edits : List TextEdit) : Except EditFault Text :=
  let ordered := sorted edits
  match overlap? ordered with
  | some edit => .error (.overlap edit.path edit.start)
  | none => splice text 0 ordered

end TextEdit

end FixLoop
