import FixLoop.Text.Template.Subject

/-!
Message templates: literal text with fields in braces, each a name, perhaps a conversion after an
exclamation mark and a layout after a colon. Doubled braces stand for one. Arguments have names
only. A field that cannot be filled is a fault, and the leftmost counts.
-/

namespace FixLoop

namespace Template

/-- The argument that a field names. -/
def argument (arguments : List (String × Value)) (name : Text) : Result Subject := do
  let (first, path) := name.span fun c => c != '.' && c != '['
  if first.isEmpty then throw (.position 0)
  match (← number first) with
  | (some index, []) => throw (.position index)
  | _ => pure ()
  match arguments.lookup (String.ofList first) with
  | none => throw (.unknownName (String.ofList first))
  | some value => (Subject.value value).follow path

/-- The name of a field, the character that ended it, and the rest. A bracket hides what it
encloses. -/
def fieldName : Text → Bool → Result (Text × Char × Text)
  | [], _ => .error .unclosedName
  | c :: rest, true => do
    let (name, stop, rest) ← fieldName rest (c != ']')
    return (c :: name, stop, rest)
  | c :: rest, false =>
    if c = '{' then .error .openName
    else if c = '}' || c = ':' || c = '!' then .ok ([], c, rest)
    else do
      let (name, stop, rest) ← fieldName rest (c == '[')
      return (c :: name, stop, rest)

/-- The layout of a field up to the brace that closes it, at a depth of open braces. -/
def fieldLayout : Text → Nat → Result (Text × Text)
  | [], _ => .error .unclosedLayout
  | c :: rest, depth =>
    if c = '}' && depth = 0 then .ok ([], rest)
    else do
      let depth := if c = '{' then depth + 1 else if c = '}' then depth - 1 else depth
      let (layout, rest) ← fieldLayout rest depth
      return (c :: layout, rest)

structure Field where
  name : Text
  conversion : Option Char
  layout : Text

/-- A field after its opening brace, and the rest. -/
def field (source : Text) : Result (Field × Text) := do
  let (name, stop, rest) ← fieldName source false
  if stop = '}' then return (⟨name, none, []⟩, rest)
  else if stop = ':' then
    let (layout, rest) ← fieldLayout rest 0
    return (⟨name, none, layout⟩, rest)
  else
    match rest with
    | [] => throw .missingConversion
    | [_] => throw .unclosedLayout
    | conversion :: '}' :: rest => return (⟨name, some conversion, []⟩, rest)
    | conversion :: ':' :: rest =>
      let (layout, rest) ← fieldLayout rest 0
      return (⟨name, some conversion, layout⟩, rest)
    | _ => throw .afterConversion

/-- Fills a template in. Fields may stand in the layout of a field, but no deeper; `fuel` bounds
the characters read. -/
def fillWithin (arguments : List (String × Value)) : Nat → Nat → Text → Result Text
  | 0, _, _ => .error .tooDeep
  | _ + 1, 0, _ => .ok []
  | _ + 1, _ + 1, [] => .ok []
  | depth + 1, fuel + 1, '{' :: '{' :: rest => do
    return '{' :: (← fillWithin arguments (depth + 1) fuel rest)
  | depth + 1, fuel + 1, '}' :: '}' :: rest => do
    return '}' :: (← fillWithin arguments (depth + 1) fuel rest)
  | _ + 1, _ + 1, ['{'] => .error .loneOpen
  | depth + 1, fuel + 1, '{' :: rest => do
    let (field, rest) ← field rest
    let subject ← argument arguments field.name
    let subject ← subject.converted field.conversion
    let layout ←
      if field.layout.any (· == '{') then
        fillWithin arguments depth (field.layout.length + 1) field.layout
      else pure field.layout
    let shown ← subject.lay layout
    return shown ++ (← fillWithin arguments (depth + 1) fuel rest)
  | _ + 1, _ + 1, '}' :: _ => .error .loneClose
  | depth + 1, fuel + 1, c :: rest => do
    return c :: (← fillWithin arguments (depth + 1) fuel rest)

def fill (arguments : List (String × Value)) (template : String) : Result String := do
  let text := template.toList
  return String.ofList (← fillWithin arguments 2 (text.length + 1) text)

end Template

end FixLoop
