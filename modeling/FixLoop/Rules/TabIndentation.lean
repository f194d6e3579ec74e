import FixLoop.Plugin.Combine
import FixLoop.Text.Blank

/-!
Tab indentation: a line should be indented with spaces alone. Tabs are expanded to the next multiple
of the tab size.
-/

namespace FixLoop

namespace TabIndentation

def descriptor : Descriptor where
  id := "CF0004"
  title := "Use spaces instead of tabs for indentation"
  severity := .info
  format := "Use spaces instead of tabs for indentation."

def tabSize : Nat := 4

/-- The indentations that hold a tab, in a text from an offset on; `atStart` says whether a line
starts with the text. -/
def spansFrom (offset : Nat) (atStart : Bool) : Text → List (Nat × Nat)
  | [] => []
  | c :: rest =>
    let more := spansFrom (offset + 1) (c == '\n') rest
    let run := (c :: rest).takeWhile isTabOrSpace
    if atStart && '\t' ∈ run then (offset, offset + run.length) :: more else more

def spans (text : Text) : List (Nat × Nat) := spansFrom 0 true text

def expand (text : Text) : Text := Text.expandTabs tabSize 0 text

def diagnostics (unit : SourceUnit) : List Diagnostic :=
  unit.documents.flatMap fun document =>
    (spans document.text).map fun (start, stop) =>
      Diagnostic.report descriptor (Location.ofSpan document.path document.text start stop)
        "Use spaces instead of tabs for indentation."

/-- The edit that expands the tabs in a location of a document. -/
def edit? (location : Location) (document : Document) : Option TextEdit :=
  let leading := Text.slice document.text location.start location.stop
  if '\t' ∈ leading then
    some { path := location.path, start := location.start, stop := location.stop
           text := expand leading }
  else none

variable {σ : Type}

def analyzer : Analyzer σ where
  name := "tab-indentation"
  type := "TabIndentationAnalyzer"
  package := "codefix.analyzers.formatting"
  descriptors := [descriptor]
  analyze unit := .answer (diagnostics unit)

def offers : Offers σ := fun diagnostic unit =>
  ((unit.document? diagnostic.location.path).bind (edit? diagnostic.location)).toList.map
    fun edit =>
      .answer (some { title := descriptor.title, key := descriptor.id, edits := [edit] })

def fixer : Fixer σ where
  name := "tab-indentation"
  type := "TabIndentationFixer"
  package := "codefix.fixers.formatting"
  fixableIds := [descriptor.id]
  offers
  fixAll := Offers.fixAll offers

end TabIndentation

end FixLoop
