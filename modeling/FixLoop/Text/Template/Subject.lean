import FixLoop.Text.Template.Layout

/-!
What the field of a message template refers to: an argument, or what a path of names after points
and keys in brackets reaches from it. Besides values these are kinds of values, tuples of kinds, and
the methods of a value, which have a name but no text of their own.
-/

namespace FixLoop

namespace Template

inductive Subject where
  | value (v : Value)
  | kind (name : String)
  | kinds (names : List String)
  | method (owner name : String) (of : Value)

namespace Subject

/-- The names of the methods of a kind. -/
def methods : String → List String
  | "str" => [
    "capitalize", "casefold", "center", "count", "encode", "endswith", "expandtabs", "find",
    "format", "format_map", "index", "isalnum", "isalpha", "isascii", "isdecimal", "isdigit",
    "isidentifier", "islower", "isnumeric", "isprintable", "isspace", "istitle", "isupper", "join",
    "ljust", "lower", "lstrip", "maketrans", "partition", "removeprefix", "removesuffix",
    "replace", "rfind", "rindex", "rjust", "rpartition", "rsplit", "rstrip", "split",
    "splitlines", "startswith", "strip", "swapcase", "title", "translate", "upper", "zfill"]
  | "int" | "bool" => [
    "as_integer_ratio", "bit_count", "bit_length", "conjugate", "from_bytes", "to_bytes"]
  | "float" => ["as_integer_ratio", "conjugate", "fromhex", "hex", "is_integer"]
  | "list" => [
    "append", "clear", "copy", "count", "extend", "index", "insert", "pop", "remove", "reverse",
    "sort"]
  | "dict" => [
    "clear", "copy", "fromkeys", "get", "items", "keys", "pop", "popitem", "setdefault", "update",
    "values"]
  | _ => []

/-- A kind and the more general ones, up to the most general. -/
def ancestry : String → List String
  | "object" => ["object"]
  | "bool" => ["bool", "int", "object"]
  | name => [name, "object"]

def kindText (name : String) : String := "<class '" ++ name ++ "'>"

def kindOf : Subject → String
  | value v => v.kind
  | kind _ => "type"
  | kinds _ => "tuple"
  | method .. => "builtin_function_or_method"

/-- A subject as a text; a text is quoted if that is wanted. -/
def shown (quoted : Bool) : Subject → String
  | value v => if quoted then v.quoted else v.plain
  | kind name => kindText name
  | kinds [name] => "(" ++ kindText name ++ ",)"
  | kinds names => "(" ++ ", ".intercalate (names.map kindText) ++ ")"
  | method owner name _ => "<built-in method " ++ name ++ " of " ++ owner ++ " object>"

/-- The whole number that is the real part of a number. -/
def realPart? : Value → Option Int
  | .int n => some n
  | .bool b => some (if b then 1 else 0)
  | _ => none

/-- The part of a number with a name. -/
def numberPart? (number : Value) (name : String) : Option Value :=
  match number with
  | .real x =>
    if name = "real" then some (.real x)
    else if name = "imag" then some (.real (.zero false))
    else none
  | number =>
    match realPart? number with
    | none => none
    | some n =>
      if name = "real" || name = "numerator" then some (.int n)
      else if name = "imag" then some (.int 0)
      else if name = "denominator" then some (.int 1)
      else none

/-- A part of a kind. -/
def kindPart? (of name : String) : Option Subject :=
  match name with
  | "__name__" | "__qualname__" => some (value (.text of))
  | "__module__" => some (value (.text "builtins"))
  | "__mro__" => some (kinds (ancestry of))
  | "__bases__" => some (kinds ((ancestry of).tail.take 1))
  | "__base__" =>
    match (ancestry of).tail with
    | base :: _ => some (kind base)
    | [] => some (value .null)
  | _ => none

/-- The part of a subject with a name. -/
def named (subject : Subject) (name : String) : Result Subject := do
  if name = "__class__" then return kind subject.kindOf
  match subject with
  | value v =>
    match numberPart? v name with
    | some part => return value part
    | none =>
      if (methods v.kind).contains name then return method v.kind name v
      else throw (.noAttribute v.kind name)
  | kind of =>
    match kindPart? of name with
    | some part => return part
    | none => throw (.noAttributeOfKind of name)
  | kinds _ => throw (.noAttribute "tuple" name)
  | method owner own v =>
    if name = "__name__" then return value (.text own)
    else if name = "__qualname__" then return value (.text (owner ++ "." ++ own))
    else if name = "__self__" then return value v
    else throw (.noAttribute subject.kindOf name)

/-- The item at a place of a sequence of a kind. -/
def nth {α : Type} (kind : String) (place : Option Nat) (items : List α) : Result α :=
  match place with
  | none => .error (.namedItem kind)
  | some i => (items[i]?).elim (.error (.pastEnd kind)) .ok

/-- The item of a subject that a key in brackets names: a place if it is a number. -/
def item (subject : Subject) (key : Text) : Result Subject := do
  let place := match ← number key with
    | (some i, []) => some i
    | _ => none
  match subject with
  | value (.text s) => return value (.text (String.ofList [← nth "str" place s.toList]))
  | value (.list items) => return value (← nth "list" place items)
  | value (.table fields) =>
    match place, fields.lookup (String.ofList key) with
    | some i, _ => throw (.missingKey (toString i))
    | none, some v => return value v
    | none, none => throw (.missingKey (quoted (String.ofList key)))
  | kinds names => return kind (← nth "tuple" place names)
  | kind name => throw (.kindNotIndexed name)
  | other => throw (.notIndexed other.kindOf)

/-- The subject at the end of a path. -/
def follow (subject : Subject) : Text → Result Subject
  | [] => .ok subject
  | '[' :: path => do
    let key := path.takeWhile (· != ']')
    if key.isEmpty then throw .emptyAttribute
    follow (← item subject key) ((path.dropWhile (· != ']')).drop 1)
  | '.' :: path => do
    let name := path.takeWhile fun c => c != '.' && c != '['
    if name.isEmpty then throw .emptyAttribute
    follow (← named subject (String.ofList name))
      (path.dropWhile fun c => c != '.' && c != '[')
  | _ :: _ => .error .afterIndex
termination_by path => path.length
decreasing_by
  · have := (List.dropWhile_sublist (l := path) (· != ']')).length_le
    simp only [List.length_drop, List.length_cons]
    omega
  · have := (List.dropWhile_sublist (l := path) fun c => c != '.' && c != '[').length_le
    simp only [List.length_cons]
    omega

/-- A subject after the conversion of a field. -/
def converted (conversion : Option Char) (subject : Subject) : Result Subject :=
  match conversion with
  | none => .ok subject
  | some 's' => .ok (value (.text (subject.shown false)))
  | some 'r' => .ok (value (.text (subject.shown true)))
  | some 'a' => .ok (value (.text (inAscii (subject.shown true))))
  | some c => .error (.unknownConversion c)

/-- A subject in the layout that a text describes. -/
def lay (subject : Subject) (spec : Text) : Result Text :=
  match subject with
  | value v => Template.value v spec
  | other =>
    if spec.isEmpty then .ok (other.shown false).toList else .error (.noLayout other.kindOf)

end Subject

end Template

end FixLoop
