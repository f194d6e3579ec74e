import FixLoop.Proofs.Location
import FixLoop.Proofs.Rules.Pairing
import FixLoop.Proofs.Rules.Reading
import FixLoop.Proofs.Rules.Semicolons
import FixLoop.Rules.EmbeddedStatement

/-!
What literals and comments say never matters. Masking keeps the code and the quotes, and leaves of
all else only where its lines end; so what may be said in a literal or a comment can be replaced by
anything else that may, and no rule and no compiler that looks at the mask will know.
-/

namespace FixLoop

namespace Literals

/-- Whether a character of a text is code, or a quote around a literal. -/
inductive IsShown (text : Text) : Nat → Prop where
  | code {before after : List Piece} {c : Char}
      (reading : IsReading text (before ++ .code c :: after)) :
    IsShown text (written before).length
  | opens {before after : List Piece} {quote : Char} {items : List Item} {ending : Ending}
      (reading : IsReading text (before ++ .literal quote items ending :: after)) :
    IsShown text (written before).length
  | closes {before after : List Piece} {quote : Char} {items : List Item}
      (reading : IsReading text (before ++ .literal quote items .closed :: after)) :
    IsShown text ((written before).length + 1 + (itemsText items).length)

/-- Whether a character may stand at an offset of a text, where a literal or a comment says another
one. -/
inductive MayStand (text : Text) : Nat → Char → Prop where
  | literal {before after : List Piece} {quote c other : Char} {items more : List Item}
      {ending : Ending}
      (reading : IsReading text
        (before ++ .literal quote (items ++ .plain c :: more) ending :: after))
      (fits : (Item.plain other).Fits quote) :
    MayStand text ((written before).length + 1 + (itemsText items).length) other
  | comment {before after : List Piece} {c other : Char} {said more : Text}
      (reading : IsReading text (before ++ .comment (said ++ c :: more) :: after))
      (fits : other ≠ '\n') :
    MayStand text ((written before).length + 2 + said.length) other

variable {text rest said : Text} {piece : Piece} {pieces before after : List Piece} {quote : Char}
  {items : List Item} {ending : Ending}

/-! ### Masking, piece by piece -/

/-- What is left of a text when only its line breaks stay. -/
def blank (text : Text) : Text := text.map fun c => if c = '\n' then c else ' '

theorem blank_append (text rest : Text) : blank (text ++ rest) = blank text ++ blank rest :=
  List.map_append

/-- What the mask shows of the end of a literal. -/
def Ending.shown (quote : Char) : Ending → Text
  | closed => [quote]
  | broken => []
  | torn => [' ']

def Piece.shown : Piece → Text
  | code c => [c]
  | literal quote items ending => quote :: (blank (itemsText items) ++ ending.shown quote)
  | comment said => ' ' :: ' ' :: blank said

theorem length_shown (piece : Piece) : piece.shown.length = piece.text.length := by
  cases piece with
  | literal quote items ending =>
    cases ending <;> simp [Piece.shown, Piece.text, blank, Ending.shown, Ending.text]
  | _ => simp [Piece.shown, Piece.text, blank]

/-- Where a line ends it makes no difference whether a comment or a literal ends, too. -/
theorem maskFrom_of_endsLine {mode : Mode} (ends : EndsLine rest.head?)
    (other : mode = .comment ∨ ∃ quote, mode = .literal quote) :
    maskFrom mode rest = maskFrom .code rest := by
  cases rest with
  | nil => rfl
  | cons c rest =>
    obtain rfl : c = '\n' := by simpa [EndsLine] using ends
    rcases other with rfl | ⟨quote, rfl⟩ <;>
      simp [maskFrom, Mode.hides, Mode.next, isQuote, opensComment]

theorem maskFrom_said (inside : '\n' ∉ said) (ends : EndsLine rest.head?) :
    maskFrom .comment (said ++ rest) = blank said ++ maskFrom .code rest := by
  induction said with
  | nil => exact maskFrom_of_endsLine ends (.inl rfl)
  | cons c said ih =>
    obtain ⟨first, later⟩ := not_or.mp (mt List.mem_cons.mpr inside)
    simp [maskFrom, Mode.hides, Mode.next, blank, Ne.symm first, ih later]

theorem maskFrom_items (quoted : isQuote quote = true) (fits : ∀ item ∈ items, item.Fits quote) :
    maskFrom (.literal quote) (itemsText items ++ rest) =
      blank (itemsText items) ++ maskFrom (.literal quote) rest := by
  induction items with
  | nil => rfl
  | cons item items ih =>
    obtain ⟨first, later⟩ := List.forall_mem_cons.mp fits
    have text : itemsText (item :: items) = item.text ++ itemsText items := List.flatMap_cons
    rw [text, List.append_assoc, blank_append, List.append_assoc, ← ih later]
    cases item with
    | plain c =>
      obtain ⟨own, backslash, breaks⟩ := first
      simp [Item.text, maskFrom, Mode.hides, Mode.next, blank, own, backslash, breaks]
    | escape c =>
      have other : '\\' ≠ quote := (ne_of_isQuote quoted rfl).symm
      simp [Item.text, maskFrom, Mode.hides, Mode.next, blank, other]

theorem maskFrom_quote (quoted : isQuote quote = true) (rest : Text) :
    maskFrom .code (quote :: rest) = quote :: maskFrom (.literal quote) rest := by
  have other : (quote == '/') = false := beq_eq_false_iff_ne.mpr (ne_of_isQuote quoted rfl)
  rw [maskFrom, Mode.next, Mode.hides, opensComment, other, if_pos quoted]
  rfl

theorem maskFrom_ending (quoted : isQuote quote = true) (fits : ending.Fits rest.head?) :
    maskFrom (.literal quote) (ending.text quote ++ rest) =
      ending.shown quote ++ maskFrom .code rest := by
  cases ending with
  | closed =>
    have inside : quote ≠ '\n' ∧ quote ≠ '\\' :=
      ⟨ne_of_isQuote quoted rfl, ne_of_isQuote quoted rfl⟩
    simp [Ending.text, Ending.shown, maskFrom, Mode.hides, Mode.next, inside]
  | broken => exact maskFrom_of_endsLine fits (.inr ⟨quote, rfl⟩)
  | torn =>
    obtain rfl : rest = [] := List.head?_eq_none_iff.mp fits
    have other : '\\' ≠ quote := (ne_of_isQuote quoted rfl).symm
    simp [Ending.text, Ending.shown, maskFrom, Mode.hides, other]

theorem maskFrom_piece (fits : piece.Fits rest.head?) :
    maskFrom .code (piece.text ++ rest) = piece.shown ++ maskFrom .code rest := by
  cases piece with
  | code c =>
    obtain ⟨unquoted, apart⟩ := fits
    have closed : opensComment c rest.head? = false := by simpa [opensComment] using apart
    simp [Piece.text, Piece.shown, maskFrom, Mode.hides, Mode.next, closed, unquoted]
  | literal quote items ending =>
    obtain ⟨quoted, fits, ends⟩ := fits
    rw [Piece.text, List.cons_append, List.append_assoc, maskFrom_quote quoted,
      maskFrom_items quoted fits, maskFrom_ending quoted ends, Piece.shown, List.cons_append,
      List.append_assoc]
  | comment said =>
    obtain ⟨inside, ends⟩ := fits
    have starts : maskFrom .code ('/' :: '/' :: (said ++ rest)) =
        ' ' :: ' ' :: maskFrom .comment (said ++ rest) := by
      simp [maskFrom, Mode.hides, Mode.next, opensComment, isQuote]
    rw [Piece.text, List.cons_append, List.cons_append, starts, maskFrom_said inside ends]
    rfl

theorem mask_of_reading (reading : IsReading text pieces) :
    mask text = pieces.flatMap Piece.shown := by
  induction reading with
  | nil => rfl
  | cons fits later ih => rw [mask, maskFrom_piece fits, ← mask, ih, List.flatMap_cons]

/-! ### Replacing what is said -/

/-- A piece can be replaced by one that starts alike and fits what comes behind it. -/
theorem IsReading.replace (reading : IsReading text (before ++ piece :: after)) :
    ∃ rest, text = written before ++ (piece.text ++ rest) ∧ piece.Fits rest.head? ∧
      ∀ other : Piece, other.Fits rest.head? → other.text.head? = piece.text.head? →
        IsReading (written before ++ (other.text ++ rest)) (before ++ other :: after) := by
  induction before generalizing text with
  | nil =>
    cases reading with
    | cons fits later => exact ⟨_, rfl, fits, fun other own _ => .cons own later⟩
  | cons first before ih =>
    cases reading with
    | cons fits later =>
      obtain ⟨rest, rfl, own, replaced⟩ := ih later
      refine ⟨rest, ?_, own, fun other fitting same => ?_⟩
      · simp [written]
      · have ahead : (written before ++ (other.text ++ rest)).head? =
            (written before ++ (piece.text ++ rest)).head? := by
          simp [List.head?_append, same]
        have whole : written (first :: before) ++ (other.text ++ rest) =
            first.text ++ (written before ++ (other.text ++ rest)) := by
          simp [written]
        rw [whole]
        exact .cons (ahead ▸ fits) (replaced other fitting same)

/-- Another character behind the start of a piece leaves the mask alone if the piece still fits and
shows the same. -/
theorem IsReading.mask_set {other : Piece} {front back : Text} {c d : Char}
    (reading : IsReading text (before ++ piece :: after)) (said : piece.text = front ++ c :: back)
    (instead : other.text = front ++ d :: back) (inside : front ≠ [])
    (fits : ∀ ahead, piece.Fits ahead → other.Fits ahead) (same : other.shown = piece.shown) :
    mask (text.set ((written before).length + front.length) d) = mask text := by
  obtain ⟨rest, whole, own, replaced⟩ := reading.replace
  have starts : other.text.head? = piece.text.head? := by
    obtain ⟨first, more, rfl⟩ := List.exists_cons_of_ne_nil inside
    rw [said, instead]
    rfl
  have set : text.set ((written before).length + front.length) d =
      written before ++ (other.text ++ rest) := by
    simp [whole, said, instead]
  rw [set, mask_of_reading (replaced other (fits _ own) starts), mask_of_reading reading]
  simp [same]

theorem blank_inside {front back : Text} {c d : Char} (inside : c ≠ '\n') (fits : d ≠ '\n') :
    blank (front ++ c :: back) = blank (front ++ d :: back) := by
  simp [blank, inside, fits]

/-- What may stand at an offset leaves the mask as it is. -/
theorem MayStand.mask_eq {offset : Nat} {d : Char} (may : MayStand text offset d) :
    mask (text.set offset d) = mask text := by
  cases may with
  | @literal before after quote c _ items more ending reading fitting =>
    have said (c : Char) : itemsText (items ++ .plain c :: more) =
        itemsText items ++ c :: itemsText more := by
      simp [itemsText, Item.text]
    have written (c : Char) : (Piece.literal quote (items ++ .plain c :: more) ending).text =
        (quote :: itemsText items) ++ c :: (itemsText more ++ ending.text quote) := by
      simp [Piece.text, said]
    obtain ⟨-, -, ⟨-, own, -⟩, -⟩ := reading.replace
    have old : (Item.plain c).Fits quote := own (.plain c) (by simp)
    rw [Nat.add_assoc, Nat.add_comm 1]
    refine reading.mask_set (written c) (written d) (List.cons_ne_nil _ _) ?_ ?_
    · rintro ahead ⟨quoted, fits, ends⟩
      refine ⟨quoted, ?_, ends⟩
      simp only [List.forall_mem_append, List.forall_mem_cons] at fits ⊢
      exact ⟨fits.1, fitting, fits.2.2⟩
    · rw [Piece.shown, Piece.shown, said, said, blank_inside fitting.2.2 old.2.2]
  | @comment before after c _ said more reading fitting =>
    obtain ⟨-, -, ⟨inside, -⟩, -⟩ := reading.replace
    have old : c ≠ '\n' := by
      rintro rfl
      exact inside (by simp)
    have written (c : Char) : (Piece.comment (said ++ c :: more)).text =
        ('/' :: '/' :: said) ++ c :: more := rfl
    rw [Nat.add_assoc, Nat.add_comm 2]
    refine reading.mask_set (written c) (written d) (List.cons_ne_nil _ _) ?_ ?_
    · rintro ahead ⟨inside, ends⟩
      refine ⟨?_, ends⟩
      simp only [List.mem_append, List.mem_cons, not_or] at inside ⊢
      exact ⟨inside.1, fitting.symm, inside.2.2⟩
    · rw [Piece.shown, Piece.shown, blank_inside fitting old]

/-! ### What the mask shows -/

/-- The mask of a text ends its lines where the text does, and shows otherwise what the text says,
or a space. -/
theorem getElem?_maskFrom (mode : Mode) (text : Text) (offset : Nat) :
    (maskFrom mode text)[offset]? = text[offset]? ∨
      (maskFrom mode text)[offset]? = some ' ' ∧ ∃ c, text[offset]? = some c ∧ c ≠ '\n' := by
  induction text generalizing mode offset with
  | nil => exact .inl rfl
  | cons c rest ih =>
    cases offset with
    | succ offset => exact ih (mode.next c rest.head?) offset
    | zero =>
      by_cases hidden : mode.hides c rest.head? = true
      · have inside : c ≠ '\n' := by
          rintro rfl
          cases mode <;> cases hidden
        simp [maskFrom, hidden, inside]
      · simp [maskFrom, hidden]

theorem length_flatMap_shown (pieces : List Piece) :
    (pieces.flatMap Piece.shown).length = (written pieces).length := by
  simp [written, List.length_flatMap, length_shown]

/-- Text and mask say and show a piece at the same place. -/
theorem IsReading.getElem?_of_piece (reading : IsReading text (before ++ piece :: after))
    {offset : Nat} (inside : offset < piece.text.length) :
    text[(written before).length + offset]? = piece.text[offset]? ∧
      (mask text)[(written before).length + offset]? = piece.shown[offset]? := by
  constructor
  · rw [← reading.written_eq, written, List.flatMap_append, List.flatMap_cons, ← written,
      List.getElem?_append_right (Nat.le_add_right ..), Nat.add_sub_cancel_left,
      List.getElem?_append_left inside]
  · rw [mask_of_reading reading, List.flatMap_append, List.flatMap_cons, ← length_flatMap_shown,
      List.getElem?_append_right (Nat.le_add_right ..), Nat.add_sub_cancel_left,
      List.getElem?_append_left (length_shown piece ▸ inside)]

/-- The mask shows code, and the quotes around literals. -/
theorem IsShown.getElem?_mask {offset : Nat} (shown : IsShown text offset) :
    (mask text)[offset]? = text[offset]? := by
  cases shown with
  | code reading =>
    obtain ⟨said, shown⟩ := reading.getElem?_of_piece Nat.one_pos
    exact shown.trans said.symm
  | opens reading =>
    obtain ⟨said, shown⟩ := reading.getElem?_of_piece (Nat.succ_pos _)
    exact shown.trans said.symm
  | @closes before after quote items reading =>
    have inside : (itemsText items).length + 1 <
        (Piece.literal quote items .closed).text.length := by
      simp [Piece.text, Ending.text]
    obtain ⟨said, shown⟩ := reading.getElem?_of_piece inside
    rw [Nat.add_assoc, Nat.add_comm 1, said, shown]
    simp [Piece.text, Piece.shown, Ending.text, Ending.shown, blank]

theorem breaks_mask (text : Text) : (mask text).breaks = text.breaks := by
  apply List.ext_getElem?
  intro offset
  rw [Text.breaks, Text.breaks, List.getElem?_map, List.getElem?_map]
  rcases getElem?_maskFrom .code text offset with same | ⟨hidden, c, said, inside⟩
  · rw [mask, same]
  · rw [mask, hidden, said]
    simpa using inside

/-- The mask ends its lines where the text does. -/
theorem getElem?_mask_eq_newline (text : Text) (offset : Nat) :
    (mask text)[offset]? = some '\n' ↔ text[offset]? = some '\n' := by
  rw [← Text.getElem?_breaks, breaks_mask, Text.getElem?_breaks]

/-! ### What looks at the mask only -/

variable {other : Text}

theorem length_of_mask_eq (same : mask other = mask text) : other.length = text.length := by
  rw [← length_maskFrom .code other, ← length_maskFrom .code text]
  exact congrArg List.length same

theorem ofSpan_of_mask_eq (same : mask other = mask text) (path : String) (start stop : Int) :
    Location.ofSpan path other start stop = Location.ofSpan path text start stop := by
  apply Location.ofSpan_congr
  rw [← breaks_mask, same, breaks_mask]

theorem spans_of_mask_eq (same : mask other = mask text) :
    EmbeddedStatement.spans other = EmbeddedStatement.spans text := by
  rw [EmbeddedStatement.spans, EmbeddedStatement.spans, same, length_of_mask_eq same]

theorem imbalance?_of_mask_eq (same : mask other = mask text) :
    Brackets.imbalance? other = Brackets.imbalance? text := by
  rw [Brackets.imbalance?_eq, Brackets.imbalance?_eq, same]

theorem imbalanceDiagnostic?_of_mask_eq (same : mask other = mask text) (path : String) :
    Compilers.imbalanceDiagnostic? ⟨path, other⟩ = Compilers.imbalanceDiagnostic? ⟨path, text⟩ := by
  simp [Compilers.imbalanceDiagnostic?, imbalance?_of_mask_eq same, ofSpan_of_mask_eq same]

/-- A unit with a document among others that says a text. -/
def unitSaying (unit : SourceUnit) (before : List Document) (path : String) (after : List Document)
    (text : Text) : SourceUnit :=
  { unit with documents := before ++ ⟨path, text⟩ :: after }

section

variable (same : mask other = mask text) (unit : SourceUnit) (before : List Document) (path : String)
  (after : List Document)

include same

theorem diagnostics_of_mask_eq :
    EmbeddedStatement.diagnostics (unitSaying unit before path after other) =
      EmbeddedStatement.diagnostics (unitSaying unit before path after text) := by
  simp [EmbeddedStatement.diagnostics, unitSaying, spans_of_mask_eq same, ofSpan_of_mask_eq same]

theorem bracketDiagnostics_of_mask_eq :
    Compilers.bracketDiagnostics (unitSaying unit before path after other) =
      Compilers.bracketDiagnostics (unitSaying unit before path after text) := by
  simp [Compilers.bracketDiagnostics, unitSaying, List.filterMap_cons,
    imbalanceDiagnostic?_of_mask_eq same]

end

/-- Every text is read in one way as code, literals and comments. Its mask has the same length and
the same line breaks, shows at each place what the text says or a space, and always what it says in
its code and by its quotes. Whatever else a literal or a comment may say instead of a character, the
mask is the same, and so is all that embedded statements and brackets are reported for. -/
theorem mask_forgets {σ : Type} (text : Text) :
    (∃! pieces, IsReading text pieces) ∧
      (mask text).length = text.length ∧
      (∀ offset : Nat, (mask text)[offset]? = some '\n' ↔ text[offset]? = some '\n') ∧
      (∀ offset : Nat, (mask text)[offset]? = text[offset]? ∨ (mask text)[offset]? = some ' ') ∧
      (∀ offset : Nat, IsShown text offset → (mask text)[offset]? = text[offset]?) ∧
      ∀ (offset : Nat) (c : Char), MayStand text offset c →
        mask (text.set offset c) = mask text ∧
        EmbeddedStatement.spans (text.set offset c) = EmbeddedStatement.spans text ∧
        Brackets.imbalance? (text.set offset c) = Brackets.imbalance? text ∧
        ∀ unit before path after,
          (EmbeddedStatement.analyzer : Analyzer σ).analyze
              (unitSaying unit before path after (text.set offset c)) =
            (EmbeddedStatement.analyzer : Analyzer σ).analyze
              (unitSaying unit before path after text) ∧
          (Compilers.brackets : Compiler σ).compile
              (unitSaying unit before path after (text.set offset c)) =
            (Compilers.brackets : Compiler σ).compile (unitSaying unit before path after text) := by
  obtain ⟨pieces, reading⟩ := exists_reading text
  have once : ∃! pieces, IsReading text pieces :=
    ⟨pieces, reading, fun _ other => other.unique reading⟩
  refine ⟨once, length_maskFrom .code text, getElem?_mask_eq_newline text, ?_, ?_, ?_⟩
  · intro offset
    exact (getElem?_maskFrom .code text offset).imp_right And.left
  · intro offset shown
    exact shown.getElem?_mask
  · intro offset c may
    have same := may.mask_eq
    refine ⟨same, spans_of_mask_eq same, imbalance?_of_mask_eq same, ?_⟩
    intro unit before path after
    constructor
    · exact congrArg Callback.answer (diagnostics_of_mask_eq same unit before path after)
    · exact congrArg Callback.answer (bracketDiagnostics_of_mask_eq same unit before path after)

/-- What a literal says may be a bracket as well as a letter. -/
theorem mask_forgets_bracket :
    MayStand ['(', '"', 'a', '"', ')'] 2 ')' ∧
      mask ['(', '"', ')', '"', ')'] = mask ['(', '"', 'a', '"', ')'] := by
  have last : IsReading [')'] [.code ')'] := @IsReading.cons (.code ')') [] [] ⟨rfl, by decide⟩ .nil
  have literal : IsReading ['"', 'a', '"', ')'] [.literal '"' [.plain 'a'] .closed, .code ')'] :=
    @IsReading.cons (.literal '"' [.plain 'a'] .closed) _ _
      ⟨rfl, by simp [Item.Fits], trivial⟩ last
  have reading : IsReading ['(', '"', 'a', '"', ')']
      ([.code '('] ++ .literal '"' ([] ++ .plain 'a' :: []) .closed :: [.code ')']) :=
    @IsReading.cons (.code '(') _ _ ⟨rfl, by decide⟩ literal
  have may : MayStand ['(', '"', 'a', '"', ')'] 2 ')' := .literal reading (by simp [Item.Fits])
  obtain ⟨-, -, -, -, -, forgets⟩ := @mask_forgets Unit ['(', '"', 'a', '"', ')']
  exact ⟨may, (forgets 2 ')' may).1⟩

end Literals

end FixLoop
