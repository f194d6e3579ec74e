import FixLoop.Location
import FixLoop.SourceUnit
import Mathlib

/-!
Offsets, and lines with columns. The line at an offset is counted by the line breaks before it, and
its column from the last of them; going to a line passes as many breaks from the front. So the two
are inverse, and offsets have the order of their lines and columns.
-/

namespace FixLoop

namespace Text

theorem upTo_natCast (text : Text) (offset : Nat) : upTo text offset = text.take offset := by
  have place : place text.length offset = min offset text.length := if_neg (by simp)
  rw [upTo, place, List.take_eq_take_min.symm]

theorem lastLineStart_concat (text : Text) (c : Char) :
    lastLineStart (text ++ [c]) = if c = '\n' then text.length + 1 else lastLineStart text := by
  by_cases breaks : c = '\n'
  · simp [lastLineStart, breaks]
  · simp [lastLineStart, breaks]

theorem lastLineStart_le (text : Text) : lastLineStart text ≤ text.length := Nat.sub_le ..

/-- A character in front moves the start of the last line, unless that is the first one, too. -/
theorem lastLineStart_cons (c : Char) (text : Text) :
    lastLineStart (c :: text) = if '\n' ∈ c :: text then lastLineStart text + 1 else 0 := by
  induction text using List.reverseRecOn with
  | nil =>
    by_cases breaks : c = '\n'
    · simp [lastLineStart, breaks]
    · simp [lastLineStart, breaks, Ne.symm breaks]
  | append_singleton text d ih =>
    rw [← List.cons_append, lastLineStart_concat, lastLineStart_concat, ih]
    by_cases breaks : d = '\n'
    · simp [breaks]
    · simp [breaks, Ne.symm breaks]

/-- For each character of a text, whether it ends a line. -/
def breaks (text : Text) : List Bool := text.map (· == '\n')

theorem getElem?_breaks (text : Text) (offset : Nat) :
    text.breaks[offset]? = some true ↔ text[offset]? = some '\n' := by
  simp [breaks]

theorem count_eq_breaks (text : Text) : text.count '\n' = text.breaks.count true := by
  simp [breaks, List.count_eq_countP, List.countP_map, Function.comp_def]

theorem lastLineStart_eq_breaks (text : Text) :
    lastLineStart text = text.breaks.length - (text.breaks.reverse.takeWhile (!·)).length := by
  have same : (fun c : Char => !decide (c = '\n')) = (!·) ∘ (· == '\n') := by
    funext c
    rfl
  simp [breaks, lastLineStart, ← List.map_reverse, List.takeWhile_map, same]

theorem breaks_upTo (text : Text) (stop : Int) :
    (upTo text stop).breaks = text.breaks.take (place text.breaks.length stop) := by
  simp [breaks, upTo, List.map_take]

end Text

namespace Location

/-- Where texts end their lines alike, they have the same lines and columns. -/
theorem ofSpan_congr {text other : Text} (same : other.breaks = text.breaks) (path : String)
    (start stop : Int) : ofSpan path other start stop = ofSpan path text start stop := by
  simp only [ofSpan, Text.lineStart, Text.count_eq_breaks, Text.lastLineStart_eq_breaks,
    Text.breaks_upTo, same]

/-- Passing as many line breaks as there are before an offset leads to the start of its line. -/
theorem lineOffset_count (before after : Text) :
    lineOffset (before ++ after) (before.count '\n') = Text.lastLineStart before := by
  induction before with
  | nil => cases after <;> rfl
  | cons c before ih =>
    rw [Text.lastLineStart_cons, List.cons_append]
    by_cases breaks : c = '\n'
    · simp [breaks, lineOffset, ih]
    · rw [List.count_cons_of_ne breaks]
      by_cases later : '\n' ∈ before
      · obtain ⟨count, some⟩ := Nat.exists_eq_add_one.mpr (List.count_pos_iff.mpr later)
        rw [if_pos (List.mem_cons_of_mem c later), ← ih, some, lineOffset, if_neg breaks]
      · rw [if_neg (by simp [later, Ne.symm breaks]), List.count_eq_zero.mpr later, lineOffset]

/-- Where a location stands among the lines and columns of its document. -/
def position (location : Location) : Int ×ₗ Int := toLex (location.line, location.column)

end Location

/-- The empty span at an offset of a document. -/
def Document.locate (document : Document) (offset : Int) : Location :=
  .ofSpan document.path document.text offset offset

namespace Document

variable {document : Document}

theorem line_locate (document : Document) (offset : Nat) :
    (document.locate offset).line = (document.text.take offset).count '\n' + 1 := by
  rw [← Text.upTo_natCast]
  rfl

theorem column_locate (document : Document) (offset : Nat) :
    (document.locate offset).column =
      offset - Text.lastLineStart (document.text.take offset) + 1 := by
  rw [← Text.upTo_natCast]
  rfl

theorem ofLine_eq (document : Document) (line column : Int) :
    Location.ofLine document.path document.text line column =
      document.locate (min (Location.lineOffset document.text (max line 1 - 1).toNat +
        max column 1 - 1) document.text.length) := rfl

theorem ofLine_locate {offset : Nat} (inside : offset ≤ document.text.length) :
    Location.ofLine document.path document.text (document.locate offset).line
      (document.locate offset).column = document.locate offset := by
  -- As many breaks are passed as stand before the offset, and they are those before it.
  have passed : (max ((document.text.take offset).count '\n' + 1 : Int) 1 - 1).toNat =
      (document.text.take offset).count '\n' := by omega
  have first := Location.lineOffset_count (document.text.take offset) (document.text.drop offset)
  have earlier := Text.lastLineStart_le (document.text.take offset)
  rw [List.take_append_drop] at first
  rw [List.length_take, min_eq_left inside] at earlier
  rw [ofLine_eq, line_locate, column_locate, passed, first]
  congr 1
  omega

/-- One more character starts a new line or stands in the next column. -/
theorem position_locate_lt {offset : Nat} (inside : offset < document.text.length) :
    (document.locate offset).position < (document.locate (offset + 1 : Nat)).position := by
  have earlier := Text.lastLineStart_le (document.text.take offset)
  rw [List.length_take, min_eq_left inside.le] at earlier
  unfold Location.position
  rw [Prod.Lex.toLex_lt_toLex, line_locate, line_locate, column_locate, column_locate,
    List.take_succ_eq_append_getElem inside, Text.lastLineStart_concat, List.count_append]
  by_cases breaks : document.text[offset] = '\n'
  · left
    rw [breaks, List.count_singleton_self]
    omega
  · right
    rw [if_neg breaks, List.count_singleton, if_neg (by simpa using breaks)]
    constructor <;> omega

/-- Offsets and lines with columns are inverse, and of one order: the line and column at an offset
lead back to it, a later offset has a later line, or the same line and a later column, and so no two
have the same. Every line and column leads to an offset of the document. -/
theorem ofLine_inverse (document : Document) :
    (∀ offset : Int, 0 ≤ offset → offset ≤ document.text.length →
      Location.ofLine document.path document.text (document.locate offset).line
        (document.locate offset).column = document.locate offset) ∧
      StrictMonoOn (fun offset => (document.locate offset).position)
        (Set.Icc 0 document.text.length) ∧
      Set.InjOn (fun offset => (document.locate offset).position)
        (Set.Icc 0 document.text.length) ∧
      ∀ line column, (Location.ofLine document.path document.text line column).start ∈
        Set.Icc 0 (document.text.length : Int) := by
  have ascending : StrictMonoOn (fun offset => (document.locate offset).position)
      (Set.Icc 0 document.text.length) := by
    apply strictMonoOn_of_lt_add_one Set.ordConnected_Icc
    intro offset _ ⟨low, _⟩ ⟨_, high⟩
    lift offset to Nat using low
    exact position_locate_lt (by omega)
  refine ⟨?_, ascending, ascending.injOn, ?_⟩
  · intro offset low high
    lift offset to Nat using low
    exact ofLine_locate (by omega)
  · intro line column
    exact ⟨le_min (by omega) (Int.natCast_nonneg _), min_le_right _ _⟩

/-- A line break belongs to the line that it ends, and the end of a text to its last line. -/
example : [0, 1, 2, 3, 4].map (fun offset =>
    let there := (Document.mk "a" ['x', '\n', '\n', 'y']).locate offset
    (there.line, there.column)) = [(1, 1), (1, 2), (2, 1), (3, 1), (3, 2)] := by decide

end Document

end FixLoop
