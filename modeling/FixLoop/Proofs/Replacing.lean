import FixLoop.Proofs.Splicing
import Mathlib

/-!
Applying edits at once or one at a time. Only neighbours in the order of application are looked at
for overlaps, and the text is put together from left to right. This is as good as looking at all
pairs and making one replacement after another from the last place to the first; and it does not
matter in which order the edits are given.
-/

namespace FixLoop.TextEdit

/-- A text with one edit made to it. -/
def replace (text : Text) (edit : TextEdit) : Text :=
  text.take edit.start.toNat ++ edit.text ++ text.drop edit.stop.toNat

/-- By how much an edit makes a text longer. -/
def growth (edit : TextEdit) : Int := edit.text.length - (edit.stop - edit.start)

/-- Whether edits lie in a text of some length and no two of them overlap. -/
structure Fit (length : Nat) (edits : List TextEdit) : Prop where
  within : ∀ edit ∈ edits, Within 0 length edit
  apart : edits.Pairwise Apart

/-- What is wrong with edits for a text of some length: two that overlap, or one that does not lie
in it. -/
inductive Misfit (length : Nat) (edits : List TextEdit) : EditFault → Prop
  | overlap {a b : TextEdit} (given : [a, b].Subperm edits) (overlap : a.overlaps b = true) :
    Misfit length edits (.overlap b.path b.start)
  | outOfRange {edit : TextEdit} (given : edit ∈ edits) (outside : ¬Within 0 length edit) :
    Misfit length edits (.outOfRange edit.path edit.start edit.stop length)

/-- Whether edits are of one document. -/
def OneDocument (edits : List TextEdit) : Prop := ∀ a ∈ edits, ∀ b ∈ edits, a.path = b.path

/-- Whether edits stand in a list from the largest start and end to the smallest. -/
def Descending (edits : List TextEdit) : Prop :=
  edits.Pairwise fun a b => b.start < a.start ∨ b.start = a.start ∧ b.stop ≤ a.stop

variable {offset length cursor : Nat} {text rest result : Text} {edits others : List TextEdit}
  {a b c edit : TextEdit} {fault : EditFault}

theorem inRange_iff : edit.inRange length = true ↔ Within 0 length edit := by
  simp only [inRange, Within, Bool.and_eq_true, decide_eq_true_eq]
  omega

theorem OneDocument.perm (one : OneDocument edits) (reordered : others.Perm edits) :
    OneDocument others :=
  fun a first b second => one a (reordered.mem_iff.mp first) b (reordered.mem_iff.mp second)

theorem Fit.perm (fit : Fit length edits) (reordered : others.Perm edits) : Fit length others where
  within edit member := fit.within edit (reordered.mem_iff.mp member)
  apart := (reordered.pairwise_iff Apart.symm).mpr fit.apart

/-! ### One edit after another -/

/-- Making the edits one at a time, the last first, patches the text. -/
theorem Patched.foldr_replace (patched : Patched offset rest edits result) :
    ∀ before : Text, before.length = offset →
      edits.foldr (fun edit text => replace text edit) (before ++ rest) = before ++ result := by
  induction patched with
  | done => exact fun _ _ => rfl
  | @patch offset kept gap rest result edit more start stop later ih =>
    intro before place
    have regroup : before ++ (kept ++ gap ++ rest) = before ++ kept ++ gap ++ rest := by simp
    have first : edit.start.toNat = (before ++ kept).length := by
      rw [List.length_append]
      omega
    have last : edit.stop.toNat = (before ++ kept ++ gap).length := by
      simp only [List.length_append]
      omega
    rw [List.foldr_cons, regroup, ih (before ++ kept ++ gap) (by simp [place, Nat.add_assoc]),
      replace, last, List.drop_left, first, List.append_assoc _ gap, List.take_left]
    simp

theorem Patched.length_eq (patched : Patched offset rest edits result) :
    (result.length : Int) = rest.length + (edits.map growth).sum := by
  induction patched with
  | done => simp
  | patch start stop later ih =>
    simp only [List.map_cons, List.sum_cons, List.length_append, growth]
    push_cast
    omega

/-! ### What is found out by looking at neighbours -/

theorem overlap?_eq_some (found : overlap? edits = some b) :
    ∃ a, [a, b].Sublist edits ∧ a.overlaps b = true := by
  induction edits with
  | nil => cases found
  | cons first rest ih =>
    cases rest with
    | nil => cases found
    | cons second more =>
      rw [overlap?] at found
      split at found
      · next overlap =>
        cases found
        exact ⟨first, ((List.nil_sublist more).cons_cons _).cons_cons _, overlap⟩
      · obtain ⟨a, member, overlap⟩ := ih found
        exact ⟨a, member.cons _, overlap⟩

/-- Of three edits in order, the outer ones do not overlap if the one between them overlaps
neither. -/
theorem Apart.trans (first : Apart a b) (second : Apart b c) (same : a.path = b.path)
    (too : b.path = c.path) (withinB : Within 0 length b) (withinC : Within 0 length c)
    (le : (order a b).isLE = true) (next : (order b c).isLE = true) : Apart a c := by
  have before := first.le_of_isLE same withinB.2.1 le
  have after := second.le_of_isLE too withinC.2.1 next
  have sound := withinB.2.1
  rw [apart_iff same] at first
  rw [apart_iff (same.trans too)]
  omega

/-- If no neighbours overlap, no two edits do. -/
theorem pairwise_apart (none : overlap? edits = none)
    (within : ∀ edit ∈ edits, Within 0 length edit) (one : OneDocument edits)
    (ordered : edits.Pairwise fun a b => (order a b).isLE = true) : edits.Pairwise Apart := by
  induction edits with
  | nil => exact .nil
  | cons a rest ih =>
    cases rest with
    | nil => exact List.pairwise_singleton _ _
    | cons b more =>
      rw [overlap?] at none
      split at none
      · cases none
      next free =>
        obtain ⟨low, rising⟩ := List.pairwise_cons.mp ordered
        have later := ih none (fun other member => within other (List.mem_cons_of_mem _ member))
          (fun x first y second =>
            one x (List.mem_cons_of_mem _ first) y (List.mem_cons_of_mem _ second)) rising
        have second : b ∈ a :: b :: more := by simp
        have next : Apart a b := by simpa [Apart] using free
        -- The neighbour stands between the first edit and every later one.
        refine List.pairwise_cons.mpr ⟨fun c member => ?_, later⟩
        rcases List.mem_cons.mp member with rfl | beyond
        · exact next
        · have third : c ∈ a :: b :: more := by simp [beyond]
          exact next.trans ((List.pairwise_cons.mp later).1 c beyond)
            (one a List.mem_cons_self b second) (one b second c third) (within b second)
            (within c third) (low b List.mem_cons_self) ((List.pairwise_cons.mp rising).1 c beyond)

theorem within_of_splice (spliced : splice text cursor edits = .ok result) :
    ∀ edit ∈ edits, Within 0 text.length edit := by
  induction edits generalizing cursor result with
  | nil => exact fun _ member => nomatch member
  | cons first rest ih =>
    rw [splice] at spliced
    split at spliced
    · next lies =>
      cases later : splice text first.stop.toNat rest with
      | error fault =>
        rw [later] at spliced
        cases spliced
      | ok tail =>
        intro edit member
        rcases List.mem_cons.mp member with rfl | beyond
        · exact inRange_iff.mp lies
        · exact ih later edit beyond
    · cases spliced

theorem splice_eq_error (failed : splice text cursor edits = .error fault) :
    ∃ edit ∈ edits, ¬Within 0 text.length edit ∧
      fault = .outOfRange edit.path edit.start edit.stop text.length := by
  induction edits generalizing cursor with
  | nil => cases failed
  | cons first rest ih =>
    rw [splice] at failed
    split at failed
    · cases later : splice text first.stop.toNat rest with
      | error blamed =>
        rw [later] at failed
        cases failed
        obtain ⟨edit, member, outside, same⟩ := ih later
        exact ⟨edit, List.mem_cons_of_mem _ member, outside, same⟩
      | ok tail =>
        rw [later] at failed
        cases failed
    · next lies =>
      cases failed
      exact ⟨first, List.mem_cons_self, mt inRange_iff.mpr lies, rfl⟩

/-! ### When edits can be applied -/

theorem fit_of_apply (one : OneDocument edits) (applied : apply text edits = .ok result) :
    Fit text.length edits := by
  have permuted := sorted_perm edits
  unfold apply at applied
  dsimp only at applied
  split at applied
  · cases applied
  next free =>
    have within := within_of_splice applied
    have sorted : Fit text.length (sorted edits) :=
      ⟨within, pairwise_apart free within (one.perm permuted) (pairwise_sorted edits)⟩
    exact sorted.perm permuted.symm

theorem misfit_of_apply (failed : apply text edits = .error fault) :
    Misfit text.length edits fault := by
  have permuted := sorted_perm edits
  unfold apply at failed
  dsimp only at failed
  split at failed
  · next found =>
    obtain ⟨a, member, overlap⟩ := overlap?_eq_some found
    cases failed
    exact .overlap (member.subperm.trans permuted.subperm) overlap
  · obtain ⟨edit, member, outside, rfl⟩ := splice_eq_error failed
    exact .outOfRange (permuted.mem_iff.mp member) outside

/-! ### The order in which edits are given -/

instance : Std.Symm Apart := ⟨fun _ _ => Apart.symm⟩

/-- Edits that do not overlap are descending in one order only. -/
theorem Fit.eq_of_descending (fit : Fit length edits) (one : OneDocument edits)
    (reordered : others.Perm edits) (first : Descending others) (second : Descending edits) :
    others = edits := by
  refine List.Perm.eq_of_pairwise (fun a b left right le ge => ?_) first second reordered
  have left := reordered.mem_iff.mp left
  by_contra differ
  have apart := fit.apart.forall left right differ
  have sound := (fit.within a left).2.1
  rw [apart_iff (one a left b right)] at apart
  omega

theorem descending_sorted (edits : List TextEdit) : Descending (sorted edits).reverse := by
  rw [Descending, List.pairwise_reverse]
  exact (pairwise_sorted edits).imp fun le => isLE_order.mp le

theorem reverse_sorted_perm (edits : List TextEdit) : (sorted edits).reverse.Perm edits :=
  (List.reverse_perm _).trans (sorted_perm edits)

/-- What an edit replaces. -/
def span (edit : TextEdit) : String × Int × Int := (edit.path, edit.start, edit.stop)

/-- Whether two lists of edits replace the same, one after another. -/
def SameSpans (edits others : List TextEdit) : Prop :=
  List.Forall₂ (fun a b => span a = span b) edits others

theorem sameSpans_sorted (one : OneDocument edits) (reordered : others.Perm edits) :
    SameSpans (sorted others) (sorted edits) := by
  have permuted : (sorted others).Perm (sorted edits) :=
    (sorted_perm others).trans (reordered.trans (sorted_perm edits).symm)
  have rising (edits : List TextEdit) : ((sorted edits).map span).Pairwise
      fun p q => p.2.1 < q.2.1 ∨ p.2.1 = q.2.1 ∧ p.2.2 ≤ q.2.2 :=
    List.pairwise_map.mpr ((pairwise_sorted edits).imp isLE_order.mp)
  have same : (sorted others).map span = (sorted edits).map span := by
    refine List.Perm.eq_of_pairwise (fun p q left right le ge => ?_) (rising others) (rising edits)
      (permuted.map span)
    obtain ⟨a, among, rfl⟩ := List.mem_map.mp left
    obtain ⟨b, too, rfl⟩ := List.mem_map.mp right
    have path := one.perm (sorted_perm edits) a (permuted.mem_iff.mp among) b too
    simp only [span, Prod.mk.injEq, path, true_and] at le ge ⊢
    omega
  rwa [← List.forall₂_eq_eq_eq, List.forall₂_map_left_iff, List.forall₂_map_right_iff] at same

namespace SameSpans

theorem overlap? (same : SameSpans edits others) :
    (overlap? edits).map span = (TextEdit.overlap? others).map span := by
  induction same with
  | nil => rfl
  | @cons a b rest more first later ih =>
    cases later with
    | nil => rfl
    | @cons c d _ _ second later =>
      have alike : a.overlaps c = b.overlaps d := by
        simp only [span, Prod.mk.injEq] at first second
        simp only [overlaps, first, second]
      rw [TextEdit.overlap?, TextEdit.overlap?, alike]
      split
      · exact congrArg some second
      · exact ih

theorem splice_eq_error (same : SameSpans edits others)
    (failed : splice text cursor edits = .error fault) (other : Nat) :
    splice text other others = .error fault := by
  induction same generalizing cursor other with
  | nil => cases failed
  | @cons a b rest more first later ih =>
    simp only [span, Prod.mk.injEq] at first
    have lies : b.inRange text.length = a.inRange text.length := by simp only [inRange, first]
    rw [splice] at failed ⊢
    rw [lies]
    split at failed
    · next inside =>
      rw [if_pos inside]
      cases tail : splice text a.stop.toNat rest with
      | error blamed =>
        rw [tail] at failed
        cases failed
        rw [ih tail]
        rfl
      | ok result =>
        rw [tail] at failed
        cases failed
    · next outside =>
      rw [if_neg outside, ← failed, first.1, first.2.1, first.2.2]

theorem apply_eq_error (same : SameSpans (sorted edits) (sorted others))
    (failed : apply text edits = .error fault) : apply text others = .error fault := by
  have places := same.overlap?
  unfold apply at failed ⊢
  dsimp only at failed ⊢
  split at failed
  · next edit found =>
    rw [found] at places
    obtain ⟨other, there, alike⟩ := Option.map_eq_some_iff.mp places.symm
    simp only [span, Prod.mk.injEq] at alike
    rw [there, ← failed]
    dsimp only
    rw [alike.1, alike.2.1]
  · next free =>
    rw [free] at places
    rw [Option.map_eq_none_iff.mp places.symm]
    exact same.splice_eq_error failed 0

end SameSpans

/-- Edits of one document come to the same in any order. -/
theorem apply_perm (one : OneDocument edits) (reordered : others.Perm edits) :
    apply text others = apply text edits := by
  cases applied : apply text edits with
  | error fault =>
    exact (sameSpans_sorted (one.perm reordered) reordered.symm).apply_eq_error applied
  | ok result =>
    have fit := fit_of_apply one applied
    have same : (sorted others).reverse = (sorted edits).reverse :=
      (fit.perm (reverse_sorted_perm edits)).eq_of_descending (one.perm (reverse_sorted_perm edits))
        ((reverse_sorted_perm others).trans (reordered.trans (reverse_sorted_perm edits).symm))
        (descending_sorted others) (descending_sorted edits)
    unfold apply at applied ⊢
    rwa [List.reverse_injective same]

/-- Edits of one document can be applied exactly if they lie in it and no two of them overlap. What
comes of it is what one replacement after another yields, from the last place to the first, so each
edit adds its growth to the length. Otherwise the fault names an edit that is out of range, or one
that overlaps another. None of this depends on the order in which the edits are given. -/
theorem apply_replaces (one : OneDocument edits) :
    ((∃ result, apply text edits = .ok result) ↔ Fit text.length edits) ∧
      (∀ result, apply text edits = .ok result →
        (∀ ordered : List TextEdit, ordered.Perm edits → Descending ordered →
          ordered.foldl replace text = result) ∧
        (result.length : Int) = text.length + (edits.map growth).sum) ∧
      (¬Fit text.length edits →
        ∃ fault, apply text edits = .error fault ∧ Misfit text.length edits fault) ∧
      ∀ others : List TextEdit, others.Perm edits → apply text others = apply text edits := by
  have possible (fit : Fit text.length edits) :
      ∃ result, apply text edits = .ok result ∧ Patched 0 text (sorted edits) result :=
    exists_apply fit.within fit.apart one
  refine ⟨⟨fun ⟨_, applied⟩ => fit_of_apply one applied, fun fit => ?_⟩, ?_, fun misfit => ?_,
    fun others reordered => apply_perm one reordered⟩
  · obtain ⟨result, applied, -⟩ := possible fit
    exact ⟨result, applied⟩
  · intro result applied
    have fit := fit_of_apply one applied
    obtain ⟨_, again, patched⟩ := possible fit
    obtain rfl := Except.ok.inj (again.symm.trans applied)
    refine ⟨fun ordered reordered descending => ?_, ?_⟩
    · have permuted := reverse_sorted_perm edits
      have same : ordered = (sorted edits).reverse :=
        (fit.perm permuted).eq_of_descending (one.perm permuted) (reordered.trans permuted.symm)
          descending (descending_sorted edits)
      rw [same, List.foldl_reverse]
      exact patched.foldr_replace [] rfl
    · rw [patched.length_eq, ((sorted_perm edits).map growth).sum_eq]
  · cases applied : apply text edits with
    | ok result => exact absurd (fit_of_apply one applied) misfit
    | error fault => exact ⟨fault, rfl, misfit_of_apply applied⟩

end FixLoop.TextEdit

namespace FixLoop.Touching

open TextEdit

/-! Three edits, of which one starts where another one stops. -/

def text : Text := ['a', 'b', 'c', 'd', 'e', 'f']

def edit (start stop : Int) (text : Text) : TextEdit := { path := "a", start, stop, text }

def edits : List TextEdit := [edit 5 5 ['z', 'z'], edit 0 0 ['y'], edit 3 5 ['x']]

/-- They touch and do not overlap, so they can be applied, in any order. -/
theorem apply_replaces_touching :
    apply text edits = .ok ['y', 'a', 'b', 'c', 'x', 'z', 'z', 'f'] ∧
      apply text edits.reverse = .ok ['y', 'a', 'b', 'c', 'x', 'z', 'z', 'f'] := by
  have one : OneDocument edits := by unfold OneDocument; decide
  have fit : Fit text.length edits := ⟨by unfold Within; decide, by unfold Apart; decide⟩
  obtain ⟨possible, replaced, -, anyOrder⟩ := @apply_replaces text edits one
  obtain ⟨result, applied⟩ := possible.mpr fit
  have ordered : Descending [edit 5 5 ['z', 'z'], edit 3 5 ['x'], edit 0 0 ['y']] := by
    unfold Descending
    decide
  obtain rfl := (replaced result applied).1 _ (by decide) ordered
  exact ⟨applied, (anyOrder _ (List.reverse_perm edits)).trans applied⟩

end FixLoop.Touching
