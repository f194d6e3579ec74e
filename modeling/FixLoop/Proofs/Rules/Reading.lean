import FixLoop.Rules.Literals
import Mathlib.Data.List.TakeWhile

/-!
The grammar of literals and comments. A text is read as pieces: characters of code, literals and
comments, each of which goes as far as its own grammar lets it go. Every text is read in one way and
in no other, so it is certain what belongs to a literal or a comment and what does not.
-/

namespace FixLoop

namespace Literals

/-! ### The grammar -/

/-- What stands in a literal, one after another. -/
inductive Item where
  | plain (c : Char)
  /-- A backslash and what it takes with it, which may be a line break. -/
  | escape (c : Char)
  deriving Repr, DecidableEq

/-- How a literal ends: with its quote, before the end of its line, or with a backslash that ends
the text. -/
inductive Ending where
  | closed
  | broken
  | torn
  deriving Repr, DecidableEq

inductive Piece where
  | code (c : Char)
  | literal (quote : Char) (items : List Item) (ending : Ending)
  /-- A comment, and what it says behind its two slashes. -/
  | comment (said : Text)
  deriving Repr, DecidableEq

def Item.text : Item → Text
  | plain c => [c]
  | escape c => ['\\', c]

/-- What the items of a literal say. -/
def itemsText (items : List Item) : Text := items.flatMap Item.text

def Ending.text (quote : Char) : Ending → Text
  | closed => [quote]
  | broken => []
  | torn => ['\\']

def Piece.text : Piece → Text
  | code c => [c]
  | literal quote items ending => quote :: (itemsText items ++ ending.text quote)
  | comment said => '/' :: '/' :: said

/-- What pieces say. -/
def written (pieces : List Piece) : Text := pieces.flatMap Piece.text

/-- Whether a line ends before what comes next. -/
def EndsLine (ahead : Option Char) : Prop := ahead = none ∨ ahead = some '\n'

def Item.Fits (quote : Char) : Item → Prop
  | plain c => c ≠ quote ∧ c ≠ '\\' ∧ c ≠ '\n'
  | escape _ => True

def Ending.Fits (ahead : Option Char) : Ending → Prop
  | closed => True
  | broken => EndsLine ahead
  | torn => ahead = none

/-- Whether a piece is one where some character, or none, comes behind it. -/
def Piece.Fits (ahead : Option Char) : Piece → Prop
  | code c => isQuote c = false ∧ ¬ (c = '/' ∧ ahead = some '/')
  | literal quote items ending =>
    isQuote quote = true ∧ (∀ item ∈ items, item.Fits quote) ∧ ending.Fits ahead
  | comment said => '\n' ∉ said ∧ EndsLine ahead

/-- Whether a text is read as some pieces. -/
inductive IsReading : Text → List Piece → Prop where
  | nil : IsReading [] []
  | cons {piece : Piece} {rest : Text} {pieces : List Piece} (fits : piece.Fits rest.head?)
      (later : IsReading rest pieces) : IsReading (piece.text ++ rest) (piece :: pieces)

variable {text rest more said : Text} {piece : Piece} {pieces : List Piece} {quote : Char}
  {item other : Item} {items : List Item} {ending last : Ending}

/-! ### Every text is read -/

theorem exists_items (quote : Char) : ∀ text : Text, ∃ items ending rest,
    text = itemsText items ++ (ending.text quote ++ rest) ∧ (∀ item ∈ items, item.Fits quote) ∧
      Ending.Fits rest.head? ending
  | [] => ⟨[], .broken, [], rfl, nofun, .inl rfl⟩
  | c :: rest => by
    by_cases closes : c = quote
    · exact ⟨[], .closed, rest, by rw [closes]; rfl, nofun, trivial⟩
    by_cases breaks : c = '\n'
    · exact ⟨[], .broken, c :: rest, rfl, nofun, .inr (congrArg some breaks)⟩
    by_cases escapes : c = '\\'
    · subst escapes
      match rest with
      | [] => exact ⟨[], .torn, [], rfl, nofun, rfl⟩
      | d :: more =>
        obtain ⟨items, ending, rest, rfl, fits, ends⟩ := exists_items quote more
        exact ⟨.escape d :: items, ending, rest, rfl, List.forall_mem_cons.mpr ⟨trivial, fits⟩, ends⟩
    · obtain ⟨items, ending, rest, rfl, fits, ends⟩ := exists_items quote rest
      exact ⟨.plain c :: items, ending, rest, rfl,
        List.forall_mem_cons.mpr ⟨⟨closes, escapes, breaks⟩, fits⟩, ends⟩

theorem exists_said (text : Text) :
    ∃ said rest, text = said ++ rest ∧ '\n' ∉ said ∧ EndsLine rest.head? := by
  refine ⟨text.takeWhile (· ≠ '\n'), text.dropWhile (· ≠ '\n'),
    List.takeWhile_append_dropWhile.symm, fun member => ?_, ?_⟩
  · simpa using List.mem_takeWhile_imp member
  · cases left : text.dropWhile (· ≠ '\n') with
    | nil => exact .inl rfl
    | cons c rest =>
      have stops := List.head?_dropWhile_not (· ≠ '\n') text
      rw [left] at stops
      exact .inr (by simpa using stops)

theorem exists_reading (text : Text) : ∃ pieces, IsReading text pieces := by
  induction length : text.length using Nat.strong_induction_on generalizing text with
  | h size ih =>
    subst length
    have shorter (piece : Piece) (rest : Text) (whole : text = piece.text ++ rest)
        (fits : piece.Fits rest.head?) (less : rest.length < text.length) :
        ∃ pieces, IsReading text pieces := by
      obtain ⟨pieces, reading⟩ := ih rest.length less rest rfl
      exact ⟨piece :: pieces, whole ▸ .cons fits reading⟩
    cases text with
    | nil => exact ⟨[], .nil⟩
    | cons c rest =>
      by_cases quoted : isQuote c = true
      · obtain ⟨items, ending, behind, rfl, fits, ends⟩ := exists_items c rest
        refine shorter (.literal c items ending) behind ?_ ⟨quoted, fits, ends⟩ ?_
        · simp [Piece.text]
        · simp
          omega
      by_cases opens : c = '/' ∧ rest.head? = some '/'
      · obtain ⟨rfl, slash⟩ := opens
        obtain ⟨more, rfl⟩ := List.head?_eq_some_iff.mp slash
        obtain ⟨said, behind, rfl, fits, ends⟩ := exists_said more
        refine shorter (.comment said) behind rfl ⟨fits, ends⟩ ?_
        simp
        omega
      · exact shorter (.code c) rest rfl ⟨by simpa using quoted, opens⟩ (Nat.lt_succ_self _)

/-! ### No text is read in two ways -/

theorem ne_of_isQuote {c : Char} (quoted : isQuote quote = true)
    (apart : isQuote c = false) : quote ≠ c := by
  rintro rfl
  exact nomatch quoted.symm.trans apart

theorem Item.text_cancel (fits : item.Fits quote) (fitting : other.Fits quote)
    (same : item.text ++ rest = other.text ++ more) : item = other ∧ rest = more := by
  cases item with
  | plain c =>
    cases other with
    | plain d => simpa [text] using same
    | escape d => exact absurd (List.cons.inj same).1 fits.2.1
  | escape c =>
    cases other with
    | plain d => exact absurd (List.cons.inj same).1.symm fitting.2.1
    | escape d => simpa [text] using same

/-- A literal ends where its next item would start. -/
theorem Ending.text_ne (quoted : isQuote quote = true) (ends : ending.Fits rest.head?)
    (fits : item.Fits quote) : ending.text quote ++ rest ≠ item.text ++ more := by
  have backslash : quote ≠ '\\' := ne_of_isQuote quoted rfl
  intro same
  cases ending with
  | closed =>
    cases item with
    | plain c => exact fits.1 (List.cons.inj same).1.symm
    | escape c => exact backslash (List.cons.inj same).1
  | broken =>
    obtain rfl : rest = _ := same
    cases item with
    | plain c => exact fits.2.2 (by simpa [Fits, EndsLine, Item.text] using ends)
    | escape c => simp [Fits, EndsLine, Item.text] at ends
  | torn =>
    obtain rfl : rest = [] := List.head?_eq_none_iff.mp ends
    cases item with
    | plain c => exact fits.2.1 (List.cons.inj same).1.symm
    | escape c => cases (List.cons.inj same).2

theorem Ending.text_cancel (quoted : isQuote quote = true) (ends : ending.Fits rest.head?)
    (stops : last.Fits more.head?) (same : ending.text quote ++ rest = last.text quote ++ more) :
    ending = last ∧ rest = more := by
  have backslash : quote ≠ '\\' := ne_of_isQuote quoted rfl
  have breaks : quote ≠ '\n' := ne_of_isQuote quoted rfl
  cases ending <;> cases last <;> grind [text, Fits, EndsLine]

theorem itemsText_cancel {others : List Item} (quoted : isQuote quote = true)
    (fits : ∀ item ∈ items, item.Fits quote) (fitting : ∀ item ∈ others, item.Fits quote)
    (ends : ending.Fits rest.head?) (stops : last.Fits more.head?)
    (same : itemsText items ++ (ending.text quote ++ rest) =
      itemsText others ++ (last.text quote ++ more)) :
    items = others ∧ ending = last ∧ rest = more := by
  induction items generalizing others with
  | nil =>
    cases others with
    | nil => exact ⟨rfl, Ending.text_cancel quoted ends stops same⟩
    | cons other others =>
      rw [itemsText, itemsText, List.flatMap_cons, List.append_assoc] at same
      exact absurd same (Ending.text_ne quoted ends (fitting other List.mem_cons_self))
  | cons item items ih =>
    obtain ⟨first, later⟩ := List.forall_mem_cons.mp fits
    cases others with
    | nil =>
      rw [itemsText, itemsText, List.flatMap_cons, List.append_assoc] at same
      exact absurd same.symm (Ending.text_ne quoted stops first)
    | cons other others =>
      obtain ⟨second, further⟩ := List.forall_mem_cons.mp fitting
      rw [itemsText, itemsText, List.flatMap_cons, List.flatMap_cons, List.append_assoc,
        List.append_assoc] at same
      obtain ⟨rfl, behind⟩ := Item.text_cancel first second same
      obtain ⟨rfl, ends⟩ := ih later further behind
      exact ⟨rfl, ends⟩

theorem takeWhile_said (inside : '\n' ∉ said) (ends : EndsLine rest.head?) :
    (said ++ rest).takeWhile (· ≠ '\n') = said := by
  have first : ∀ c ∈ said, decide (c ≠ '\n') = true := by
    intro c member
    simpa using ne_of_mem_of_not_mem member inside
  have later : rest.takeWhile (· ≠ '\n') = [] := by
    cases rest with
    | nil => rfl
    | cons c rest =>
      obtain rfl : c = '\n' := by simpa [EndsLine] using ends
      rfl
  rw [List.takeWhile_append_of_pos first, later, List.append_nil]

theorem Piece.text_cancel {next : Piece} (fits : piece.Fits rest.head?)
    (fitting : next.Fits more.head?) (same : piece.text ++ rest = next.text ++ more) :
    piece = next ∧ rest = more := by
  -- The first character tells literals from all else, and the second comments from code.
  cases piece with
  | code c =>
    cases next with
    | code d => simpa [text] using same
    | literal quote => exact absurd (List.cons.inj same).1.symm (ne_of_isQuote fitting.1 fits.1)
    | comment said =>
      obtain ⟨slash, rfl⟩ := List.cons.inj same
      exact absurd ⟨slash, rfl⟩ fits.2
  | literal quote items ending =>
    cases next with
    | code d => exact absurd (List.cons.inj same).1 (ne_of_isQuote fits.1 fitting.1)
    | literal other others last =>
      obtain ⟨rfl, behind⟩ := List.cons.inj same
      rw [List.append_eq, List.append_eq, List.append_assoc, List.append_assoc] at behind
      obtain ⟨rfl, rfl, rest⟩ :=
        itemsText_cancel fits.1 fits.2.1 fitting.2.1 fits.2.2 fitting.2.2 behind
      exact ⟨rfl, rest⟩
    | comment said => exact absurd (List.cons.inj same).1 (ne_of_isQuote fits.1 rfl)
  | comment said =>
    cases next with
    | code d =>
      obtain ⟨rfl, rfl⟩ : '/' = d ∧ '/' :: (said ++ rest) = more := by simpa [text] using same
      exact absurd ⟨rfl, rfl⟩ fitting.2
    | literal quote => exact absurd (List.cons.inj same).1.symm (ne_of_isQuote fitting.1 rfl)
    | comment words =>
      have behind : said ++ rest = words ++ more := by simpa [text] using same
      obtain rfl : said = words := by
        rw [← takeWhile_said fits.1 fits.2, behind, takeWhile_said fitting.1 fitting.2]
      exact ⟨rfl, List.append_cancel_left behind⟩

theorem Piece.text_ne_nil (piece : Piece) : piece.text ≠ [] := by
  cases piece <;> exact List.cons_ne_nil _ _

theorem IsReading.written_eq (reading : IsReading text pieces) : written pieces = text := by
  induction reading with
  | nil => rfl
  | cons fits later ih => rw [← ih, written, List.flatMap_cons, written]

theorem IsReading.unique {others : List Piece} (reading : IsReading text pieces)
    (other : IsReading text others) : pieces = others := by
  induction reading generalizing others with
  | nil =>
    cases others with
    | nil => rfl
    | cons next others =>
      have empty := other.written_eq
      simp [written, Piece.text_ne_nil] at empty
  | @cons piece rest pieces fits later ih =>
    generalize whole : piece.text ++ rest = text at other
    cases other with
    | nil => exact absurd (List.append_eq_nil_iff.mp whole).1 piece.text_ne_nil
    | cons fitting further =>
      obtain ⟨rfl, rfl⟩ := Piece.text_cancel fits fitting whole
      rw [ih further]

end Literals

end FixLoop
