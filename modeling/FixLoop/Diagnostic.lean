import FixLoop.Location
import FixLoop.Severity
import FixLoop.Text.Template

/-!
Diagnostics: identified findings at locations. Two reports are the same finding when identifier,
location and message agree; severity, origin and title only describe. The order of documents does
not look at lines and columns.
-/

namespace FixLoop

/-- Who reported a diagnostic. -/
inductive Origin where
  | compiler
  | analyzer
  deriving Repr, DecidableEq, Inhabited

def Origin.label : Origin → String
  | compiler => "compiler"
  | analyzer => "analyzer"

/-- What a plugin declares about a diagnostic it can report. -/
structure Descriptor where
  id : String
  title : String
  severity : Severity := .info
  format : String := ""
  deriving Repr, DecidableEq, Inhabited

/-- The message of a diagnostic. A template without arguments is its own message. -/
def Descriptor.message (descriptor : Descriptor) (arguments : List (String × Value)) :
    Except TemplateFault String :=
  let template := if descriptor.format = "" then descriptor.title else descriptor.format
  if arguments.isEmpty then .ok template else Template.fill arguments template

structure Diagnostic where
  id : String
  location : Location
  message : String
  severity : Severity := .info
  origin : Origin := .analyzer
  title : String := ""
  deriving Repr, DecidableEq, Inhabited

namespace Diagnostic

/-- Reports a diagnostic as its descriptor says. -/
def create (descriptor : Descriptor) (location : Location)
    (severity : Option Severity) (origin : Origin) (arguments : List (String × Value)) :
    Except TemplateFault Diagnostic := do
  return {
    id := descriptor.id
    location
    message := ← descriptor.message arguments
    severity := severity.getD descriptor.severity
    origin
    title := descriptor.title }

/-- Reports a diagnostic whose message is already written. -/
def report (descriptor : Descriptor) (location : Location) (message : String)
    (origin : Origin := .analyzer) : Diagnostic where
  id := descriptor.id
  location
  message
  severity := descriptor.severity
  origin
  title := descriptor.title

/-- What makes two diagnostics the same finding. -/
def finding (d : Diagnostic) : String × Location × String := (d.id, d.location, d.message)

/-- Whether two reports are the same finding. -/
def same (a b : Diagnostic) : Bool := a.finding == b.finding

def isCompiler (d : Diagnostic) : Bool := d.origin == .compiler

def text (d : Diagnostic) : String :=
  d.location.text ++ ": " ++ d.severity.label ++ " " ++ d.id ++ ": " ++ d.message

/-- The order of a report: by path and span, then identifier and message. -/
def order (a b : Diagnostic) : Ordering :=
  (compare a.location.path b.location.path).then <|
    (compare a.location.start b.location.start).then <|
      (compare a.location.stop b.location.stop).then <|
        (compare a.id b.id).then (compare a.message b.message)

/-- In report order; reports that the order does not tell apart stay as they are. -/
def sorted (diagnostics : List Diagnostic) : List Diagnostic :=
  diagnostics.mergeSort fun a b => (order a b).isLE

/-- The first report of every finding. -/
def distinct (diagnostics : List Diagnostic) : List Diagnostic :=
  diagnostics.foldl (fun kept d => if kept.any (same d) then kept else kept ++ [d]) []

/-- How often a finding is reported. -/
def occurrences (d : Diagnostic) (diagnostics : List Diagnostic) : Nat :=
  diagnostics.countP (same d)

/-- Whether two reports hold the same findings equally often. -/
def sameFindings (left right : List Diagnostic) : Bool :=
  left.length == right.length &&
    left.all fun d => occurrences d left == occurrences d right

end Diagnostic

end FixLoop
