import FixLoop.Rules.Brackets

/-!
Compilers: all that a run needs to know is whether a unit still builds. Python units are judged by
what compiling each document came to, texts always build, and units of any other language build when
their brackets balance.
-/

namespace FixLoop

/-- What compiling a document came to. A line or column of zero, or none, is the first. -/
structure CompileOutcome where
  /-- The line and the detail of an error. -/
  error : Option (Option Int × Option Int × String) := none
  /-- The warnings about syntax, with their lines. -/
  warnings : List (Option Int × String) := []
  deriving Repr, DecidableEq, Inhabited

namespace Compilers

def syntaxError : Descriptor where
  id := "CMP0001"
  title := "Syntax error"
  severity := .error
  format := "\x7bdetail\x7d"

def syntaxWarning : Descriptor where
  id := "CMP0002"
  title := "Syntax warning"
  severity := .warning
  format := "\x7bdetail\x7d"

/-- A line or column as it is counted from one. -/
def position (given : Option Int) : Int :=
  match given with
  | none => 1
  | some n => if n = 0 then 1 else n

/-- The diagnostics that the outcome of a document comes to. -/
def outcomeDiagnostics (document : Document) (outcome : CompileOutcome) : List Diagnostic :=
  let locate (line column : Option Int) :=
    Location.ofLine document.path document.text (position line) (position column)
  let errors := outcome.error.toList.map fun (line, column, detail) =>
    Diagnostic.report syntaxError (locate line column) detail .compiler
  let warnings := outcome.warnings.map fun (line, detail) =>
    Diagnostic.report syntaxWarning (locate line none) detail .compiler
  errors ++ warnings

/-- The diagnostic for a document whose brackets do not balance. -/
def imbalanceDiagnostic? (document : Document) : Option Diagnostic :=
  (Brackets.imbalance? document.text).map fun imbalance =>
    Diagnostic.report syntaxError
      (Location.ofSpan document.path document.text imbalance.offset (imbalance.offset + 1))
      imbalance.message .compiler

/-- How a document of a Python unit compiles; one that is not known to fail is valid. -/
abbrev Outcomes := Document → CompileOutcome

def pythonDiagnostics (outcomes : Outcomes) (unit : SourceUnit) : List Diagnostic :=
  unit.documents.flatMap fun document => outcomeDiagnostics document (outcomes document)

def bracketDiagnostics (unit : SourceUnit) : List Diagnostic :=
  unit.documents.filterMap imbalanceDiagnostic?

variable {σ : Type}

def python (outcomes : Outcomes) : Compiler σ where
  name := "python"
  type := "PythonCompiler"
  package := "codefix.analyzers.compiler"
  compile unit := .answer (pythonDiagnostics outcomes unit)

def brackets : Compiler σ where
  name := "brackets"
  type := "BracketBalanceCompiler"
  package := "codefix.analyzers.compiler"
  compile unit := .answer (bracketDiagnostics unit)

/-- Chooses by language. -/
def byLanguage (outcomes : Outcomes) : Compiler σ where
  name := "default"
  type := "DefaultCompiler"
  package := "codefix.analyzers.compiler"
  compile unit :=
    .answer <|
      if unit.language = "python" then pythonDiagnostics outcomes unit
      else if unit.language = "text" then []
      else bracketDiagnostics unit

end Compilers

end FixLoop
