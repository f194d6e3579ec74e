import FixLoop.Proofs.Succeeding
import FixLoop.Text.Lines
import FixLoop.Text.Utf8

/-!
How texts are read and written. Strict decoding loses nothing: a text that was decoded has the bytes
as its encoding. Unifying line breaks does lose something, the carriage returns, and nothing else.
-/

namespace FixLoop

namespace Utf8

variable {a b c d : UInt8}

theorem toNat_ofNat {n : Nat} (valid : n.isValidChar) : (Char.ofNat n).toNat = n := by
  unfold Char.ofNat
  rw [dif_pos valid]
  rfl

theorem toUInt8_eq {n : Nat} (same : n = a.toNat) : n.toUInt8 = a := by
  subst same
  exact UInt8.ofNat_toNat

theorem isContinuation_iff : isContinuation b = true ↔ 0x80 ≤ b.toNat ∧ b.toNat < 0xC0 := by
  simp [isContinuation, UInt8.le_iff_toNat_le, UInt8.lt_iff_toNat_lt]

theorem toNat_ne {n : UInt8} (different : (a != n) = true) : a.toNat ≠ n.toNat :=
  fun same => bne_iff_ne.mp different (UInt8.toNat_inj.mp same)

/-- Which second bytes may follow a lead: below an edge all leads but one have them, from there on
all but another. -/
theorem bounds_of_second {edge low high : UInt8}
    (next : (isContinuation b && (if b < edge then a != low else a != high)) = true) :
    (0x80 ≤ b.toNat ∧ b.toNat < 0xC0) ∧ (b.toNat < edge.toNat → a.toNat ≠ low.toNat) ∧
      (edge.toNat ≤ b.toNat → a.toNat ≠ high.toNat) := by
  obtain ⟨continues, rest⟩ := Bool.and_eq_true_iff.mp next
  refine ⟨isContinuation_iff.mp continues, fun below => ?_, fun above => ?_⟩
  · rw [if_pos (UInt8.lt_iff_toNat_lt.mpr below)] at rest
    exact toNat_ne rest
  · rw [if_neg (by rw [UInt8.lt_iff_toNat_lt]; exact Nat.not_lt.mpr above)] at rest
    exact toNat_ne rest

-- After E0 a low second byte would be overlong, after ED a high one would be a surrogate; after F0
-- and F4 it would be overlong or too large.

theorem bounds_of_three (next : mayFollowOfThree a b = true) :
    (0x80 ≤ b.toNat ∧ b.toNat < 0xC0) ∧ (b.toNat < 0xA0 → a.toNat ≠ 0xE0) ∧
      (0xA0 ≤ b.toNat → a.toNat ≠ 0xED) :=
  bounds_of_second next

theorem bounds_of_four (next : mayFollowOfFour a b = true) :
    (0x80 ≤ b.toNat ∧ b.toNat < 0xC0) ∧ (b.toNat < 0x90 → a.toNat ≠ 0xF0) ∧
      (0x90 ≤ b.toNat → a.toNat ≠ 0xF4) :=
  bounds_of_second next

theorem encodeChar_one (low : a < 0x80) : encodeChar (Char.ofNat a.toNat) = [a] := by
  have bound : a.toNat < 0x80 := UInt8.lt_iff_toNat_lt.mp low
  have value : (Char.ofNat a.toNat).toNat = a.toNat := toNat_ofNat (.inl (by omega))
  simp [encodeChar, value, bound]

theorem encodeChar_two (lower : 0xC2 ≤ a.toNat) (upper : a.toNat < 0xE0)
    (next : isContinuation b = true) : encodeChar (assemble (a.toNat - 0xC0) [b]) = [a, b] := by
  obtain ⟨above, below⟩ := isContinuation_iff.mp next
  have value : (assemble (a.toNat - 0xC0) [b]).toNat = (a.toNat - 0xC0) * 0x40 + b.toNat % 0x40 :=
    toNat_ofNat (.inl (by dsimp; omega))
  unfold encodeChar
  rw [value]
  dsimp only
  rw [if_neg (by omega), if_pos (by omega), toUInt8_eq, toUInt8_eq]
  · omega
  · omega

theorem encodeChar_three (lower : 0xE0 ≤ a.toNat) (upper : a.toNat < 0xF0)
    (next : mayFollowOfThree a b = true) (last : isContinuation c = true) :
    encodeChar (assemble (a.toNat - 0xE0) [b, c]) = [a, b, c] := by
  obtain ⟨⟨above, below⟩, first, surrogate⟩ := bounds_of_three next
  obtain ⟨above', below'⟩ := isContinuation_iff.mp last
  have value : (assemble (a.toNat - 0xE0) [b, c]).toNat =
      ((a.toNat - 0xE0) * 0x40 + b.toNat % 0x40) * 0x40 + c.toNat % 0x40 := by
    refine toNat_ofNat ?_
    simp only [Nat.isValidChar, List.foldl_cons, List.foldl_nil]
    omega
  unfold encodeChar
  rw [value]
  dsimp only
  rw [if_neg (by omega), if_neg (by omega), if_pos (by omega), toUInt8_eq, toUInt8_eq, toUInt8_eq]
  · omega
  · omega
  · omega

theorem encodeChar_four (lower : 0xF0 ≤ a.toNat) (upper : a.toNat < 0xF5)
    (next : mayFollowOfFour a b = true) (third : isContinuation c = true)
    (last : isContinuation d = true) :
    encodeChar (assemble (a.toNat - 0xF0) [b, c, d]) = [a, b, c, d] := by
  obtain ⟨⟨above, below⟩, first, plane⟩ := bounds_of_four next
  obtain ⟨above', below'⟩ := isContinuation_iff.mp third
  obtain ⟨above'', below''⟩ := isContinuation_iff.mp last
  have value : (assemble (a.toNat - 0xF0) [b, c, d]).toNat =
      (((a.toNat - 0xF0) * 0x40 + b.toNat % 0x40) * 0x40 + c.toNat % 0x40) * 0x40 +
        d.toNat % 0x40 := by
    refine toNat_ofNat ?_
    simp only [Nat.isValidChar, List.foldl_cons, List.foldl_nil]
    omega
  unfold encodeChar
  rw [value]
  dsimp only
  rw [if_neg (by omega), if_neg (by omega), if_neg (by omega), toUInt8_eq, toUInt8_eq, toUInt8_eq,
    toUInt8_eq]
  · omega
  · omega
  · omega
  · omega

theorem encode_cons (char : Char) (text : Text) :
    encode (char :: text) = encodeChar char ++ encode text :=
  List.flatMap_cons

theorem toNat_lt {n : UInt8} (below : a < n) : a.toNat < n.toNat := UInt8.lt_iff_toNat_lt.mp below

theorem le_toNat {n : UInt8} (above : ¬ a < n) : n.toNat ≤ a.toNat :=
  Nat.not_lt.mp fun below => above (UInt8.lt_iff_toNat_lt.mpr below)

theorem encode_of_decodeFrom {position : Nat} {bytes : Bytes} {text : Text}
    (decoded : decodeFrom position bytes = .ok text) : encode text = bytes := by
  fun_induction decodeFrom position bytes generalizing text with
  | case1 =>
    cases decoded
    rfl
  | case2 position a rest low ih =>
    obtain ⟨more, later, rfl⟩ := exists_of_map_eq_ok decoded
    rw [encode_cons, encodeChar_one low, ih later]
    rfl
  | case5 position a _ least most b rest next ih =>
    obtain ⟨more, later, rfl⟩ := exists_of_map_eq_ok decoded
    rw [encode_cons, encodeChar_two (le_toNat least) (toNat_lt most) next, ih later]
    rfl
  | case12 position a _ _ least most b c rest next last ih =>
    obtain ⟨more, later, rfl⟩ := exists_of_map_eq_ok decoded
    rw [encode_cons, encodeChar_three (le_toNat least) (toNat_lt most) (by simpa using next)
      (by simpa using last), ih later]
    rfl
  | case22 position a _ _ _ least most b c d rest next third last ih =>
    obtain ⟨more, later, rfl⟩ := exists_of_map_eq_ok decoded
    rw [encode_cons, encodeChar_four (le_toNat least) (toNat_lt most) (by simpa using next)
      (by simpa using third) (by simpa using last), ih later]
    rfl
  -- All other cases end in a fault.
  | _ => cases decoded

/-- A text that was decoded has the bytes as its encoding. -/
theorem encode_of_decode {bytes : Bytes} {text : Text} (decoded : decode bytes = .ok text) :
    encode text = bytes :=
  encode_of_decodeFrom decoded

/-- The code of the carriage return. -/
def returnByte : UInt8 := 13

theorem returnByte_ne {n : Nat} (small : n < 0x100) (other : n ≠ 13) :
    returnByte ≠ n.toUInt8 := by
  intro same
  have code : returnByte.toNat = n % 0x100 := by simp [same]
  change 13 = n % 0x100 at code
  omega

theorem returnByte_not_mem_encodeChar {char : Char} (other : char ≠ '\r') :
    returnByte ∉ encodeChar char := by
  have different : char.toNat ≠ 13 := fun code => other (Char.toNat_inj.mp code)
  have bound : char.toNat < 0x110000 := by
    rcases char.valid with low | ⟨-, high⟩
    · exact Nat.lt_trans low (by decide)
    · exact high
  unfold encodeChar
  dsimp only
  split
  · simpa using returnByte_ne (by omega) different
  · split
    · simp only [List.mem_cons, List.not_mem_nil, or_false, not_or]
      exact ⟨returnByte_ne (by omega) (by omega), returnByte_ne (by omega) (by omega)⟩
    · split
      · simp only [List.mem_cons, List.not_mem_nil, or_false, not_or]
        exact ⟨returnByte_ne (by omega) (by omega), returnByte_ne (by omega) (by omega),
          returnByte_ne (by omega) (by omega)⟩
      · simp only [List.mem_cons, List.not_mem_nil, or_false, not_or]
        exact ⟨returnByte_ne (by omega) (by omega), returnByte_ne (by omega) (by omega),
          returnByte_ne (by omega) (by omega), returnByte_ne (by omega) (by omega)⟩

/-- A carriage return is one byte, which is part of no other encoding. -/
theorem count_encodeChar (char : Char) :
    (encodeChar char).count returnByte = if char = '\r' then 1 else 0 := by
  by_cases same : char = '\r'
  · subst same
    decide
  · rw [if_neg same, List.count_eq_zero]
    exact returnByte_not_mem_encodeChar same

theorem count_encode (text : Text) : (encode text).count returnByte = text.count '\r' := by
  induction text with
  | nil => rfl
  | cons char rest ih =>
    rw [encode_cons, List.count_append, count_encodeChar, ih, List.count_cons]
    simp [Nat.add_comm]

end Utf8

namespace Text

variable {text first second before after : Text}

theorem unifyNewlines_eq_self (none : '\r' ∉ text) : unifyNewlines text = text := by
  fun_induction unifyNewlines text with
  | case1 => rfl
  | case2 rest ih => simp at none
  | case3 char rest _ ih =>
    rw [List.mem_cons, not_or] at none
    rw [ih none.2, if_neg (Ne.symm none.1)]

/-- Texts are unified piece by piece, unless a line break is torn apart. -/
theorem unifyNewlines_append
    (apart : first.getLast? = some '\r' → second.head? ≠ some '\n') :
    unifyNewlines (first ++ second) = unifyNewlines first ++ unifyNewlines second := by
  fun_induction unifyNewlines first with
  | case1 => rfl
  | case2 rest ih =>
    refine congrArg ('\n' :: ·) (ih fun last => apart ?_)
    simp [List.getLast?_cons, last]
  | case3 char rest other ih =>
    refine (unifyNewlines_cons fun more same torn => ?_).trans
      (congrArg (_ :: ·) (ih fun last => apart ?_))
    · cases rest with
      | nil => exact apart (by simp [same]) (by simp_all)
      | cons next rest => exact other rest same (by simp_all)
    · simp [List.getLast?_cons, last]

/-- What is unified around a text is encoded as it was only if nothing had to be unified. -/
theorem encode_unifyNewlines_around (before new after : Text) :
    Utf8.encode (unifyNewlines before ++ new ++ unifyNewlines after) =
      Utf8.encode (before ++ new ++ after) ↔ '\r' ∉ before ∧ '\r' ∉ after := by
  constructor
  · intro same
    have counts := congrArg (List.count Utf8.returnByte) same
    simp only [Utf8.count_encode, List.count_append,
      List.count_eq_zero.mpr (not_mem_unifyNewlines _)] at counts
    exact ⟨List.count_eq_zero.mp (by omega), List.count_eq_zero.mp (by omega)⟩
  · intro ⟨above, below⟩
    rw [unifyNewlines_eq_self above, unifyNewlines_eq_self below]

end Text

end FixLoop
