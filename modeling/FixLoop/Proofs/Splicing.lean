import FixLoop.Edit
import Mathlib.Data.List.Perm.Basic

/-!
Edits that land. A set of edits that lie in a text and do not overlap can be applied, and replaces
the span of each edit by its text and keeps the rest; this does not depend on the order in which the
edits are given.
-/

namespace FixLoop.TextEdit

/-- Whether the edits, in order, turn what stands from an offset on into another text. -/
inductive Patched : Nat → Text → List TextEdit → Text → Prop where
  | done {offset : Nat} {text : Text} : Patched offset text [] text
  | patch {offset : Nat} {kept gap rest result : Text} {edit : TextEdit} {more : List TextEdit}
      (start : edit.start = offset + kept.length) (stop : edit.stop = edit.start + gap.length)
      (later : Patched (offset + kept.length + gap.length) rest more result) :
    Patched offset (kept ++ gap ++ rest) (edit :: more) (kept ++ edit.text ++ result)

/-- Whether edits lie between an offset and the end of a text of some length. -/
def Within (offset length : Nat) (edit : TextEdit) : Prop :=
  offset ≤ edit.start ∧ edit.start ≤ edit.stop ∧ edit.stop ≤ offset + length

/-- Whether two edits do not overlap. -/
def Apart (a b : TextEdit) : Prop := a.overlaps b = false

variable {offset length : Nat} {text rest result whole : Text} {edits : List TextEdit}
  {a b c edit : TextEdit}

namespace Patched

theorem eq_of_nil (patched : Patched offset text [] result) : result = text := by
  cases patched
  rfl

/-- What stands before all edits stays. -/
theorem skip {before : Text} (patched : Patched offset (before ++ rest) edits result)
    (beyond : ∀ edit ∈ edits, (offset + before.length : Int) ≤ edit.start) :
    ∃ later, result = before ++ later ∧ Patched (offset + before.length) rest edits later := by
  generalize whole : before ++ rest = text at patched
  cases patched with
  | done => exact ⟨rest, whole.symm, .done⟩
  | @patch _ kept gap after later edit more start stop patched =>
    have first := beyond edit List.mem_cons_self
    have short : before.length ≤ kept.length := by omega
    have spared : before <+: kept := by
      refine List.prefix_of_prefix_length_le ⟨rest, whole⟩ ⟨gap ++ after, ?_⟩ short
      rw [List.append_assoc]
    obtain ⟨kept, rfl⟩ := spared
    rw [List.append_assoc, List.append_assoc] at whole
    have rest_eq := List.append_cancel_left whole
    refine ⟨kept ++ edit.text ++ later, by simp, ?_⟩
    rw [rest_eq, ← List.append_assoc]
    refine .patch (by rw [List.length_append] at start; omega) stop ?_
    have place : offset + before.length + kept.length + gap.length =
        offset + (before ++ kept).length + gap.length := by
      rw [List.length_append, Nat.add_assoc offset]
    rwa [place]

/-- An edit at the start replaces what it covers. -/
theorem take {gap : Text} {more : List TextEdit}
    (patched : Patched offset (gap ++ rest) (edit :: more) result) (start : edit.start = offset)
    (stop : edit.stop = offset + gap.length) :
    ∃ later, result = edit.text ++ later ∧ Patched (offset + gap.length) rest more later := by
  generalize whole : gap ++ rest = text at patched
  cases patched with
  | @patch _ kept covered after later _ _ start' stop' patched =>
    obtain rfl : kept = [] := List.length_eq_zero_iff.mp (by omega)
    have size : covered.length = gap.length := by simp only [List.length_nil] at start'; omega
    obtain ⟨rfl, rfl⟩ := List.append_inj whole size.symm
    exact ⟨later, rfl, patched⟩

theorem splice (patched : Patched offset rest edits result) (here : whole.drop offset = rest)
    (within : offset ≤ whole.length) : splice whole offset edits = .ok result := by
  induction patched with
  | done => rw [TextEdit.splice, here]
  | @patch offset kept gap rest result edit more start stop later ih =>
    obtain ⟨before, rfl, rfl⟩ :
        ∃ before, before.length = offset ∧ before ++ (kept ++ gap ++ rest) = whole :=
      ⟨whole.take offset, List.length_take_of_le within, here ▸ List.take_append_drop ..⟩
    have split : before ++ (kept ++ gap ++ rest) = before ++ kept ++ gap ++ rest := by simp
    rw [split] at ih ⊢
    have lies : edit.inRange (before ++ kept ++ gap ++ rest).length = true := by
      simp only [inRange, List.length_append, Bool.and_eq_true, decide_eq_true_eq]
      omega
    have first : edit.start.toNat = (before ++ kept).length := by simp; omega
    have last : edit.stop.toNat = before.length + kept.length + gap.length := by omega
    have later := ih (List.drop_left' (by simp; omega)) (by simp; omega)
    rw [TextEdit.splice, if_pos lies, last, later, first, List.append_assoc _ gap, List.take_left,
      List.drop_left]
    rfl

end Patched

/-! ### The order in which edits are applied -/

theorem order_eq : order = compareLex (compareOn (·.start)) (compareOn (·.stop)) := rfl

instance : Std.TransCmp order := order_eq ▸ inferInstance

theorem sorted_perm (edits : List TextEdit) : (sorted edits).Perm edits := List.mergeSort_perm _ _

theorem pairwise_sorted (edits : List TextEdit) :
    (sorted edits).Pairwise fun a b => (order a b).isLE = true := by
  refine List.pairwise_mergeSort (fun _ _ _ => Std.TransCmp.isLE_trans) (fun a b => ?_) edits
  have swap : order b a = (order a b).swap := Std.OrientedCmp.eq_swap
  rw [swap]
  cases order a b <;> rfl

theorem isLE_order : (order a b).isLE = true ↔
    a.start < b.start ∨ a.start = b.start ∧ a.stop ≤ b.stop := by
  simp only [order, compare, compareOfLessAndEq]
  split
  · simp [*]
  · split
    · split
      · simp [*]; omega
      · split <;> simp <;> omega
    · simp; omega

theorem apart_iff (same : a.path = b.path) :
    Apart a b ↔ ¬ (a.start = a.stop ∧ a.stop = b.start ∧ b.start = b.stop) ∧
      ¬ (a.start < b.stop ∧ b.start < a.stop) := by
  simp [Apart, overlaps, same]

theorem Apart.symm (apart : Apart a b) : Apart b a := by
  by_cases same : a.path = b.path
  · rw [apart_iff same] at apart
    rw [apart_iff same.symm]
    omega
  · simp [Apart, overlaps, Ne.symm same]

/-- Of two edits that do not overlap, the one that is applied first ends before the other. -/
theorem Apart.le_of_isLE (apart : Apart a b) (same : a.path = b.path)
    (ordered : b.start ≤ b.stop) (le : (order a b).isLE = true) : a.stop ≤ b.start := by
  rw [apart_iff same] at apart
  rw [isLE_order] at le
  omega

theorem overlap?_eq_none (apart : edits.Pairwise Apart) : overlap? edits = none := by
  induction edits with
  | nil => rfl
  | cons a rest ih =>
    cases rest with
    | nil => rfl
    | cons b more =>
      obtain ⟨first, later⟩ := List.pairwise_cons.mp apart
      have apart : a.overlaps b = false := first b List.mem_cons_self
      rw [overlap?, apart, if_neg Bool.false_ne_true]
      exact ih later

theorem exists_patched (within : ∀ edit ∈ edits, Within offset text.length edit)
    (ascending : edits.Pairwise fun a b => a.stop ≤ b.start) :
    ∃ result, Patched offset text edits result := by
  induction edits generalizing offset text with
  | nil => exact ⟨text, .done⟩
  | cons edit more ih =>
    obtain ⟨low, ordered, high⟩ := within edit List.mem_cons_self
    obtain ⟨before, later⟩ := List.pairwise_cons.mp ascending
    obtain ⟨kept, after, rfl, start⟩ :
        ∃ kept after, kept ++ after = text ∧ edit.start = offset + kept.length := by
      refine ⟨text.take (edit.start.toNat - offset), _, List.take_append_drop .., ?_⟩
      rw [List.length_take]
      omega
    rw [List.length_append] at high
    obtain ⟨gap, rest, rfl, stop⟩ :
        ∃ gap rest, gap ++ rest = after ∧ edit.stop = edit.start + gap.length := by
      refine ⟨after.take (edit.stop - edit.start).toNat, _, List.take_append_drop .., ?_⟩
      rw [List.length_take]
      omega
    have beyond : ∀ other ∈ more,
        Within (offset + kept.length + gap.length) rest.length other := by
      intro other member
      obtain ⟨-, ordered, high⟩ := within other (List.mem_cons_of_mem _ member)
      have later := before other member
      simp only [List.length_append] at high
      unfold Within
      omega
    obtain ⟨result, patched⟩ := ih beyond later
    rw [← List.append_assoc]
    exact ⟨_, .patch start stop patched⟩

/-- Edits of one document that lie in it and do not overlap can be applied. -/
theorem exists_apply (within : ∀ edit ∈ edits, Within 0 text.length edit)
    (apart : edits.Pairwise Apart) (path : ∀ a ∈ edits, ∀ b ∈ edits, a.path = b.path) :
    ∃ result, apply text edits = .ok result ∧ Patched 0 text (sorted edits) result := by
  have permuted := sorted_perm edits
  have within : ∀ edit ∈ sorted edits, Within 0 text.length edit :=
    fun edit member => within edit (permuted.mem_iff.mp member)
  have apart : (sorted edits).Pairwise Apart :=
    (permuted.pairwise_iff Apart.symm).mpr apart
  have ascending : (sorted edits).Pairwise fun a b => a.stop ≤ b.start := by
    refine (apart.and (pairwise_sorted edits)).imp_of_mem ?_
    intro a b first second ⟨apart, le⟩
    have same := path a (permuted.mem_iff.mp first) b (permuted.mem_iff.mp second)
    exact apart.le_of_isLE same (within b second).2.1 le
  obtain ⟨result, patched⟩ := exists_patched within ascending
  refine ⟨result, ?_, patched⟩
  unfold apply
  dsimp only
  rw [overlap?_eq_none apart]
  exact patched.splice rfl (Nat.zero_le _)

end FixLoop.TextEdit
