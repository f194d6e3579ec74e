import FixLoop.Plugin.Combine
import FixLoop.Text.Blank

/-!
Trailing white space: spaces and tabs before a line break, which may be CRLF, or before the end of a
text. They are deleted.
-/

namespace FixLoop

namespace TrailingWhitespace

def descriptor : Descriptor where
  id := "CF0002"
  title := "Remove trailing whitespace"
  severity := .info
  format := "Remove trailing whitespace."

/-- Whether a line ends at the start of a text. -/
def endsLine : Text → Bool
  | [] => true
  | '\n' :: _ => true
  | '\r' :: '\n' :: _ => true
  | _ => false

/-- The runs of spaces and tabs that trail, in a text from an offset on; `inRun` says whether a
space or tab precedes the text. -/
def spansFrom (offset : Nat) (inRun : Bool) : Text → List (Nat × Nat)
  | [] => []
  | c :: rest =>
    let more := spansFrom (offset + 1) (isTabOrSpace c) rest
    let run := (c :: rest).takeWhile isTabOrSpace
    if isTabOrSpace c && !inRun && endsLine (rest.dropWhile isTabOrSpace) then
      (offset, offset + run.length) :: more
    else more

def spans (text : Text) : List (Nat × Nat) := spansFrom 0 false text

def diagnostics (unit : SourceUnit) : List Diagnostic :=
  unit.documents.flatMap fun document =>
    (spans document.text).map fun (start, stop) =>
      Diagnostic.report descriptor (Location.ofSpan document.path document.text start stop)
        "Remove trailing whitespace."

variable {σ : Type}

def analyzer : Analyzer σ where
  name := "trailing-whitespace"
  type := "TrailingWhitespaceAnalyzer"
  package := "codefix.analyzers.formatting"
  descriptors := [descriptor]
  analyze unit := .answer (diagnostics unit)

def offers : Offers σ := fun diagnostic _ =>
  let location := diagnostic.location
  [.answer (some
    { title := descriptor.title, key := descriptor.id
      edits := [{ path := location.path, start := location.start, stop := location.stop }] })]

def fixer : Fixer σ where
  name := "trailing-whitespace"
  type := "TrailingWhitespaceFixer"
  package := "codefix.fixers.formatting"
  fixableIds := [descriptor.id]
  offers
  fixAll := Offers.fixAll offers

end TrailingWhitespace

end FixLoop
