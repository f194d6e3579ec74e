import FixLoop.Generated
import FixLoop.Session.Basic
import FixLoop.Plugin.Basic
import FixLoop.Text.Blank

/-!
Formatting replaces whole documents. The formatter used by default takes white space off the end of
every line and ends a document with exactly one line break.
-/

namespace FixLoop

namespace Formatting

/-- A text without white space at the ends of lines and empty lines at its end. The line break is
the one that the text keeps to, and an empty text stays empty. -/
def tidy (text : Text) : Text :=
  let newline := Text.newline text
  let kept := (((Text.lines text).map Text.trimRight).reverse.dropWhile (·.isEmpty)).reverse
  kept.flatMap (· ++ newline)

variable {σ : Type}

def whitespace : Formatter σ where
  name := "whitespace"
  type := "WhitespaceFormatter"
  package := "codefix.formatter"
  format _ document := .answer (tidy document.text)

/-- The edits for documents that formatting changes; generated ones are left alone. -/
def documentEdits (formatter : Formatter σ) (unit : SourceUnit) :
    List Document → Callback σ (List TextEdit)
  | [] => .answer []
  | document :: rest =>
    if document.isGenerated then documentEdits formatter unit rest
    else
      (formatter.format unit document).andThen fun formatted =>
        (documentEdits formatter unit rest).andThen fun more =>
          if formatted = document.text then .answer more
          else .answer
            ({ path := document.path, start := 0, stop := document.text.length
               text := formatted } :: more)

/-- The edits that format a unit. -/
def edits (formatter : Formatter σ) (unit : SourceUnit) : Callback σ (List TextEdit) :=
  if formatter.supports unit.language then documentEdits formatter unit unit.documents
  else .answer []

end Formatting

end FixLoop
