import FixLoop.Text.Basic

/-!
Literals and comments of brace languages. A literal stands between two equal quotes, a backslash in
it takes the next character with it, and a line break ends it unless a backslash precedes the break;
a comment runs from two slashes to the end of the line. Masking blanks what is inside, so that what
remains is code and every offset stays valid.
-/

namespace FixLoop

namespace Literals

/-- What the next character of a text belongs to. -/
inductive Mode where
  | code
  | literal (quote : Char)
  /-- The character after a backslash in a literal. -/
  | escaped (quote : Char)
  | comment
  deriving Repr, DecidableEq

def isQuote (c : Char) : Bool := c == '"' || c == '\''

/-- Whether a character of code opens a comment. -/
def opensComment (c : Char) (ahead : Option Char) : Bool := c == '/' && ahead == some '/'

namespace Mode

/-- What follows a character. -/
def next (c : Char) (ahead : Option Char) : Mode → Mode
  | code => if isQuote c then literal c else if opensComment c ahead then comment else code
  | literal quote =>
    if c = '\n' then code
    else if c = '\\' then escaped quote
    else if c = quote then code
    else literal quote
  | escaped quote => literal quote
  | comment => if c = '\n' then code else comment

/-- Whether a character is blanked; line breaks and quotes that delimit a literal stay. -/
def hides (c : Char) (ahead : Option Char) : Mode → Bool
  | code => opensComment c ahead
  | literal quote => c ≠ '\n' && c ≠ quote
  | escaped _ => c ≠ '\n'
  | comment => c ≠ '\n'

end Mode

/-- A text that starts in a mode, its literals and comments blanked. -/
def maskFrom : Mode → Text → Text
  | _, [] => []
  | mode, c :: rest =>
    (if mode.hides c rest.head? then ' ' else c) :: maskFrom (mode.next c rest.head?) rest

/-- A text with its literals and comments blanked. -/
def mask (text : Text) : Text := maskFrom .code text

end Literals

end FixLoop
