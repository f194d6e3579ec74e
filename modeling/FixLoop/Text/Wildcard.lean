import FixLoop.Text.Basic

/-!
Wildcard patterns over whole names: a star stands for any characters, a question mark for one, and
brackets for one of a set. An exclamation mark at the start of a set turns it round, a bracket that
no other closes stands for itself, and a range whose ends are out of order holds nothing.
-/

namespace FixLoop

/-- One place of a pattern; a set is given by the ends of its ranges. -/
inductive Wildcard where
  | many
  | any
  | exact (c : Char)
  | among (negated : Bool) (ranges : List (Char × Char))
  deriving Repr, DecidableEq

namespace Wildcard

/-- The parts before and after the first hyphen at or past a place. -/
def cutHyphen : Nat → Text → Option (Text × Text)
  | _, [] => none
  | 0, c :: rest =>
    if c = '-' then some ([], rest)
    else (cutHyphen 0 rest).map fun (before, after) => (c :: before, after)
  | least + 1, c :: rest =>
    (cutHyphen least rest).map fun (before, after) => (c :: before, after)

/--
The parts of a set between the hyphens that make ranges. A part that is not the first has at least
two characters before the next such hyphen, and a hyphen at the end belongs to its part.
-/
def rangeParts : Nat → Nat → Text → List Text
  | 0, _, set => [set]
  | fuel + 1, least, set =>
    match cutHyphen least set with
    | none => [set]
    | some (before, []) => [before ++ ['-']]
    | some (before, after) => before :: rangeParts fuel 2 after

/-- Joins the parts on both sides of a range whose ends are out of order, dropping its ends. -/
def dropEmptyRanges : List Text → List Text
  | [] => []
  | part :: rest =>
    match dropEmptyRanges rest with
    | [] => [part]
    | next :: more =>
      match part.getLast?, next.head? with
      | some low, some high =>
        if high < low then (part.dropLast ++ next.tail) :: more else part :: next :: more
      | _, _ => part :: next :: more

/-- The ranges that join each part to the next. -/
def joints : List Text → List (Char × Char)
  | part :: next :: more =>
    match part.getLast?, next.head? with
    | some low, some high => (low, high) :: joints (next :: more)
    | _, _ => joints (next :: more)
  | _ => []

/--
The set that the text between two brackets describes. A set that is turned round, and whose first
part holds nothing else than the mark for it, has the hyphen after that mark as a member.
-/
def ofSet (set : Text) : Wildcard :=
  let least := if set.head? == some '!' then 2 else 1
  let single (c : Char) := (c, c)
  match dropEmptyRanges (rangeParts set.length least set) with
  | ('!' :: part) :: more =>
    let hyphen := if part.isEmpty && !more.isEmpty then ['-'] else []
    .among true ((hyphen ++ part ++ more.flatten).map single ++ joints (part :: more))
  | parts => .among false (parts.flatten.map single ++ joints parts)

/-- The text between a bracket and the one that closes it; the first character of a set, after
an exclamation mark, may be a closing bracket. -/
def setText? (rest : Text) : Option Text :=
  let start := if rest.head? == some '!' then 1 else 0
  let start := if rest[start]? == some ']' then start + 1 else start
  let inner := (rest.drop start).takeWhile (· ≠ ']')
  if start + inner.length < rest.length then some (rest.take (start + inner.length)) else none

/-- Reads a pattern, after leaving out a number of characters. -/
def parseAfter : Nat → Text → List Wildcard
  | _, [] => []
  | skip + 1, _ :: rest => parseAfter skip rest
  | 0, c :: rest =>
    if c = '*' then .many :: parseAfter 0 rest
    else if c = '?' then .any :: parseAfter 0 rest
    else if c = '[' then
      match setText? rest with
      | some set => ofSet set :: parseAfter (set.length + 1) rest
      | none => .exact '[' :: parseAfter 0 rest
    else .exact c :: parseAfter 0 rest

def parse (pattern : Text) : List Wildcard := parseAfter 0 pattern

/-- Whether a character may stand at a place. -/
def admits : Wildcard → Char → Bool
  | many, _ => true
  | any, _ => true
  | exact wanted, c => c == wanted
  | among negated ranges, c => ranges.any (fun (low, high) => low ≤ c && c ≤ high) != negated

/-- Marks every place at or past a marked one. -/
def onward : Bool → List Bool → List Bool
  | _, [] => []
  | before, here :: rest => (before || here) :: onward (before || here) rest

/-- The places between the characters of a name that are reached through one more place of a
pattern, from those that were reached before. -/
def advance (name : Text) (reached : List Bool) : Wildcard → List Bool
  | many => onward false reached
  | place => false :: List.zipWith (fun here c => here && place.admits c) reached name

/-- Whether a whole name fits a pattern: its end is reached from its start. -/
def accepts (pattern : List Wildcard) (name : Text) : Bool :=
  let start := true :: name.map fun _ => false
  (pattern.foldl (advance name) start).getLast?.getD false

end Wildcard

/-- Whether a name fits a wildcard pattern. -/
def fits (pattern name : String) : Bool :=
  Wildcard.accepts (Wildcard.parse pattern.toList) name.toList

end FixLoop
