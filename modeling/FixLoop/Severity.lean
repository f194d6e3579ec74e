import FixLoop.Text.Quoted
import FixLoop.Text.Blank

/-!
Severities, from least to most severe, and reading one from a name or a number.
-/

namespace FixLoop

inductive Severity where
  | hidden
  | info
  | warning
  | error
  deriving Repr, DecidableEq, Inhabited

namespace Severity

def all : List Severity := [hidden, info, warning, error]

def rank : Severity → Nat
  | hidden => 0
  | info => 1
  | warning => 2
  | error => 3

instance : LE Severity := ⟨fun a b => a.rank ≤ b.rank⟩

instance (a b : Severity) : Decidable (a ≤ b) := inferInstanceAs (Decidable (a.rank ≤ b.rank))

def label : Severity → String
  | hidden => "hidden"
  | info => "info"
  | warning => "warning"
  | error => "error"

inductive ReadFault where
  | unknownName (name : String)
  | unknownRank (rank : Int)
  /-- A value that is neither a name nor a number. -/
  | noName
  deriving Repr, DecidableEq

def ReadFault.message : ReadFault → String
  | unknownName name =>
    "Unknown severity '" ++ name ++ "' (expected one of: " ++
      ", ".intercalate (all.map label) ++ ")"
  | unknownRank rank => toString rank ++ " is not a valid Severity"
  | noName => "a severity is a name or a number"

/-- The lower-case form of the letters of which labels consist. Of the letters outside ASCII only
the dotless i has one of them as its upper-case form. -/
def foldLetter (c : Char) : Char := if c = 'ı' then 'i' else c.toLower

/-- The severity of a name in any case, with white space around it. -/
def ofName? (name : String) : Option Severity :=
  all.find? fun severity =>
    severity.label.toList == (Text.trim name.toList).map foldLetter

/-- The severity of a rank. -/
def ofRank? (rank : Int) : Option Severity :=
  all.find? fun severity => (severity.rank : Int) == rank

def read (value : Value) : Except ReadFault Severity :=
  match value with
  | .text name => (ofName? name).elim (.error (.unknownName name)) .ok
  | value =>
    match value.int? with
    | some rank => (ofRank? rank).elim (.error (.unknownRank rank)) .ok
    | none => .error .noName

theorem rank_injective {a b : Severity} (same : a.rank = b.rank) : a = b := by
  cases a <;> cases b <;> first | rfl | cases same

end Severity

end FixLoop
