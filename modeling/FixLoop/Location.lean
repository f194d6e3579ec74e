import FixLoop.Text.Basic

/-!
Locations: a span of a document and the line and column at which it starts, both counted from one.
-/

namespace FixLoop

structure Location where
  path : String
  start : Int
  stop : Int
  line : Int := 1
  column : Int := 1
  deriving Repr, DecidableEq, Inhabited

namespace Location

/-- The location of a span. A start before or past the text is counted from the nearer end. -/
def ofSpan (path : String) (text : Text) (start stop : Int) : Location where
  path
  start
  stop
  line := (Text.upTo text start).count '\n' + 1
  column := start - Text.lineStart text start + 1

/-- The offset at which a line starts, counting breaks before it; past the last line it is the end
of the text. -/
def lineOffset : Text → Nat → Nat
  | _, 0 => 0
  | [], _ + 1 => 0
  | c :: rest, breaks + 1 => lineOffset rest (if c = '\n' then breaks else breaks + 1) + 1

/-- The empty span at a line and a column, each at least one; what lies past the end of the text
falls on the end. -/
def ofLine (path : String) (text : Text) (line column : Int) : Location :=
  let first := lineOffset text ((max line 1 - 1).toNat)
  let offset := min ((first : Int) + max column 1 - 1) text.length
  ofSpan path text offset offset

def text (location : Location) : String :=
  location.path ++ ":" ++ toString location.line ++ ":" ++ toString location.column

/-- The order of locations: by path, then span, then line and column. -/
def order (a b : Location) : Ordering :=
  (compare a.path b.path).then <| (compare a.start b.start).then <|
    (compare a.stop b.stop).then <| (compare a.line b.line).then (compare a.column b.column)

end Location

end FixLoop
