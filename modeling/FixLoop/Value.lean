import FixLoop.Number.Binary64
import FixLoop.Text.Basic

/-!
Values of configuration files and manifests: what a notation for data can say, with the fields of
a table in the order they were written.
-/

namespace FixLoop

/-- `real` is a number written with a fraction or an exponent, and `moment` a date, a time or both:
its kind, and how it is written by itself and inside of a list or a table. -/
inductive Value where
  | null
  | bool (b : Bool)
  | int (n : Int)
  | real (x : Binary64)
  | text (s : String)
  | moment (kind alone inside : String)
  | list (items : List Value)
  | table (fields : List (String × Value))
  deriving Repr, Inhabited

/-- Sets a field: the last value written counts, in the place of the first. -/
def putField {α : Type} (name : String) (value : α) : List (String × α) → List (String × α)
  | [] => [(name, value)]
  | (other, old) :: rest =>
    if other = name then (name, value) :: rest else (other, old) :: putField name value rest

namespace Value

/-- Whether a value counts as yes where a flag is wanted. -/
def isTruthy : Value → Bool
  | null => false
  | bool b => b
  | int n => n ≠ 0
  | real x => x.isTruthy
  | text s => s ≠ ""
  | moment _ _ _ => true
  | list items => !items.isEmpty
  | table fields => !fields.isEmpty

/-- The kind of a value as messages name it. -/
def kind : Value → String
  | null => "NoneType"
  | bool _ => "bool"
  | int _ => "int"
  | real _ => "float"
  | text _ => "str"
  | moment kind _ _ => kind
  | list _ => "list"
  | table _ => "dict"

def isNull : Value → Bool
  | null => true
  | _ => false

/-- A field of a table; none for a value of another kind. -/
def field? (name : String) : Value → Option Value
  | table fields => fields.lookup name
  | _ => none

def text? : Value → Option String
  | text s => some s
  | _ => none

def list? : Value → Option (List Value)
  | list items => some items
  | _ => none

/-- A whole number; yes and no count as one and zero. -/
def int? : Value → Option Int
  | int n => some n
  | bool b => some (if b then 1 else 0)
  | _ => none

end Value

end FixLoop
