import FixLoop.Plugin.Combine

/-!
Final newlines: a document that holds anything should end with a line feed. One is appended.
-/

namespace FixLoop

namespace FinalNewline

def descriptor : Descriptor where
  id := "CF0003"
  title := "Add newline at end of file"
  severity := .info
  format := "Add newline at end of file."

def endsWithNewline (text : Text) : Bool := text.getLast? == some '\n'

def diagnostic? (document : Document) : Option Diagnostic :=
  let text := document.text
  if text.isEmpty || endsWithNewline text then none
  else some <|
    Diagnostic.report descriptor (Location.ofSpan document.path text text.length text.length)
      "Add newline at end of file."

def diagnostics (unit : SourceUnit) : List Diagnostic := unit.documents.filterMap diagnostic?

/-- The edit that ends a document with a line feed. -/
def edit? (document : Document) : Option TextEdit :=
  if endsWithNewline document.text then none
  else some
    { path := document.path, start := document.text.length, stop := document.text.length
      text := ['\n'] }

variable {σ : Type}

def analyzer : Analyzer σ where
  name := "final-newline"
  type := "FinalNewlineAnalyzer"
  package := "codefix.analyzers.formatting"
  descriptors := [descriptor]
  analyze unit := .answer (diagnostics unit)

def offers : Offers σ := fun diagnostic unit =>
  ((unit.document? diagnostic.location.path).bind edit?).toList.map fun edit =>
    .answer (some { title := descriptor.title, key := descriptor.id, edits := [edit] })

def fixer : Fixer σ where
  name := "final-newline"
  type := "FinalNewlineFixer"
  package := "codefix.fixers.formatting"
  fixableIds := [descriptor.id]
  offers
  fixAll := Offers.fixAll offers

end FinalNewline

end FixLoop
