import FixLoop.CommandLine.Markup

/-!
What commands print: lines, and tables whose cells may have several lines. The texts of both hold
markup; one that cannot be read ends the output.
-/

namespace FixLoop

inductive Printed where
  | plain (text : String)
  | markup (text : String)
  | table (title : String) (header : List String) (rows : List (List String))
  deriving Repr, DecidableEq

inductive Line where
  | text (text : String)
  | row (cells : List String)
  deriving Repr, DecidableEq

namespace Printed

/-- The lines of a text. -/
def linesOf (text : Text) : List String := (text.splitOn '\n').map String.ofList

/-- The columns between which tabs move. -/
def tabSize : Nat := 8

/-- The lines of a row of cells: a cell without a further line is empty there. -/
def rowLines (cells : List (List String)) : List Line :=
  let height := (cells.map (·.length)).foldl max 1
  (List.range height).map fun i => .row (cells.map fun lines => lines.getD i "")

/-- The lines that a row of texts with markup makes. -/
def rowOf (cells : List String) : Option (List Line) :=
  (cells.mapM fun cell => (Markup.plain? cell.toList).map linesOf).map rowLines

/-- The lines of what is printed; none if its markup cannot be read. -/
def lines? : Printed → Option (List Line)
  | plain text => some ((linesOf text.toList).map .text)
  | markup text => (Markup.plain? text.toList).map fun text =>
      (linesOf (Text.expandTabs tabSize 0 text)).map .text
  | table title header rows => do
    let title ← Markup.plain? title.toList
    let header ← rowOf header
    let rows ← rows.mapM rowOf
    return (linesOf title).map .text ++ header ++ rows.flatten

/-- The lines of what is printed in order, and whether markup cut it short. -/
def lines : List Printed → List Line × Bool
  | [] => ([], false)
  | printed :: rest =>
    match printed.lines? with
    | none => ([], true)
    | some found =>
      let (more, cut) := lines rest
      (found ++ more, cut)

end Printed

namespace Line

/-- The widths that the columns of rows need, with those already needed. -/
def widen : List Nat → List String → List Nat
  | widths, [] => widths
  | [], cell :: cells => cell.length :: widen [] cells
  | width :: widths, cell :: cells => max width cell.length :: widen widths cells

/-- A row whose cells are filled up to their columns. -/
def fillRow : List Nat → List String → String
  | _, [] => ""
  | _, [cell] => cell
  | widths, cell :: cells =>
    cell ++ String.ofList (List.replicate (widths.headD 0 + 2 - cell.length) ' ') ++
      fillRow widths.tail cells

/-- Lines as they are shown, the cells of all rows in columns. -/
def shown (lines : List Line) : List String :=
  let widths := lines.foldl (fun widths line =>
    match line with
    | text _ => widths
    | row cells => widen widths cells) []
  lines.map fun
    | text s => s
    | row cells => fillRow widths cells

end Line

/-- A number of milliseconds as seconds with two places. -/
def secondsText (milliseconds : Nat) : String :=
  let hundredths := (milliseconds + 5) / 10
  let places := hundredths % 100
  toString (hundredths / 100) ++ "." ++ (if places < 10 then "0" else "") ++ toString places ++ "s"

end FixLoop
