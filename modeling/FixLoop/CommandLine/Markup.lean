import FixLoop.CommandLine.Style
import FixLoop.Text.Emoji

/-!
Markup: a tag in brackets, which starts with a small letter, a hash, a slash or an at sign, styles
the text after it until a tag with a slash closes it. A backslash before a tag makes it plain text.
In plain text short names stand for emoji.
-/

namespace FixLoop

namespace Markup

inductive Piece where
  | text (text : Text)
  | opening (name : Text)
  /-- Closes the last tag with this name, or the last of all if the name is empty. -/
  | closing (name : Text)
  deriving Repr, DecidableEq

/-- Whether a character may start a tag. -/
def startsTag (c : Char) : Bool := ('a' ≤ c && c ≤ 'z') || c = '#' || c = '/' || c = '@'

/-- The inside of the tag that a text after an opening bracket starts with. -/
def tag? : Text → Option Text
  | c :: rest =>
    let inner := rest.takeWhile fun c => c ≠ ']' && c ≠ '['
    if startsTag c && (rest.drop inner.length).head? = some ']' then some (c :: inner) else none
  | [] => none

/-- The piece that a tag is. -/
def pieceOf (inner : Text) : Piece :=
  match inner.takeWhile (· ≠ '=') with
  | '/' :: name =>
    let name := Text.trim name
    .closing (if name.isEmpty then [] else Style.normal name)
  | name => .opening (Style.normal name)

/-- The pieces of a text, after leaving out a number of characters; `run` is the plain text before
it, from its end. -/
def pieces (skip : Nat) (run : Text) : Text → List Piece
  | [] => [.text run.reverse]
  | c :: rest =>
    match skip with
    | skip + 1 => pieces skip run rest
    | 0 =>
      match if c = '[' then tag? rest else none with
      | none => pieces 0 (c :: run) rest
      | some inner =>
        let slashes := (run.takeWhile (· = '\\')).length
        let piece := if slashes % 2 = 1 then .text ('[' :: inner ++ [']']) else pieceOf inner
        .text (run.drop slashes).reverse :: .text (List.replicate (slashes / 2) '\\') :: piece ::
          pieces (inner.length + 1) [] rest

/-- A text without the backslashes that stand before opening brackets. -/
def unescaped : Text → Text
  | '\\' :: '[' :: rest => '[' :: unescaped rest
  | c :: rest => c :: unescaped rest
  | [] => []

/-- The text of pieces, after the names of the open tags; none if a tag closes nothing. -/
def plainFrom : List Text → List Piece → Option Text
  | _, [] => some []
  | opened, .text text :: rest => (plainFrom opened rest).map (Emoji.replace (unescaped text) ++ ·)
  | opened, .opening name :: rest => plainFrom (name :: opened) rest
  | opened, .closing name :: rest =>
    if name.isEmpty then
      if opened.isEmpty then none else plainFrom opened.tail rest
    else if name ∈ opened then plainFrom (opened.erase name) rest
    else none

/-- Control characters that would move the cursor are not shown. -/
def isShown (c : Char) : Bool := !([7, 8, 11, 12, 13].contains c.toNat)

/-- A text without its markup; none if a tag closes nothing. -/
def plain? (text : Text) : Option Text :=
  (plainFrom [] (pieces 0 [] text)).map (·.filter isShown)

end Markup

end FixLoop
