import FixLoop.Plugin.Combine
import FixLoop.Session.Basic

/-!
Plugins that see to single letters. Runs with them are small enough to be evaluated, and show what
can happen.
-/

namespace FixLoop

namespace Letters

def descriptor : Descriptor where
  id := "X1"
  title := "Replace it"

/-- A report of every occurrence of a letter. -/
def diagnostics (descriptor : Descriptor) (origin : Origin) (letter : Char) (unit : SourceUnit) :
    List Diagnostic :=
  unit.documents.flatMap fun document =>
    (document.text.zipIdx.filter (·.1 == letter)).map fun (_, place) =>
      Diagnostic.report descriptor (Location.ofSpan document.path document.text place (place + 1))
        "Replace it." origin

variable {σ : Type}

def analyzer (letter : Char) : Analyzer σ where
  type := "Finder"
  package := "plugins"
  descriptors := [descriptor]
  analyze unit := .answer (diagnostics descriptor .analyzer letter unit)

/-- One candidate, which makes one edit to the document of a diagnostic. -/
def offer (diagnostic : Diagnostic) (start stop : Int) (text : Text) : Candidates σ :=
  [.answer (some
    { title := descriptor.title, key := descriptor.id
      edits := [{ path := diagnostic.location.path, start, stop, text }] })]

/-- Replaces what was reported by a letter. -/
def replacing (letter : Char) : Offers σ := fun diagnostic _ =>
  offer diagnostic diagnostic.location.start diagnostic.location.stop [letter]

def fixer (offers : Offers σ) : Fixer σ where
  type := "Fixer"
  package := "plugins"
  fixableIds := [descriptor.id]
  offers
  fixAll := Offers.fixAll offers

/-- A unit with one document. -/
def source (text : Text) : SourceUnit where
  id := "a"
  documents := [⟨"a", text⟩]

/-- A session with that unit alone. -/
def session (text : Text) : Session Unit where
  workspace := { units := [⟨source text, source text⟩] }
  memory := ()

end Letters

end FixLoop
