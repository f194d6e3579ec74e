import FixLoop.Proofs.Rules.Rule
import Mathlib.Data.List.Pairwise
import Mathlib.Data.List.Sort

/-!
Rules whose edits stand apart. If the edits of a rule lie one behind the other, none of them has to
wait, so all edits for a batch of spans are applied, in the order of the spans.
-/

namespace FixLoop.Rule

open TextEdit

variable {rule : Rule} {document : Document} {chosen : List (Nat × Nat)} {edits : List TextEdit}
  {a b : TextEdit}

/-- Whether the edits of a rule lie in their document, one behind the other. -/
structure Separate (rule : Rule) (document : Document) : Prop where
  path : ∀ span, (rule.edit document span).path = document.path
  within : ∀ span ∈ rule.spans document.text,
    Within 0 document.text.length (rule.edit document span)
  behind : ((rule.spans document.text).map (rule.edit document)).Pairwise fun a b =>
    a.start < b.start ∧ a.stop ≤ b.start

namespace Separate

/-- Whether one of two edits lies behind the other. -/
def Ordered (a b : TextEdit) : Prop :=
  a.start < b.start ∧ a.stop ≤ b.start ∨ b.start < a.start ∧ b.stop ≤ a.start

theorem Ordered.apart (ordered : Ordered a b) : Apart a b := by
  by_cases same : a.path = b.path
  · unfold Ordered at ordered
    rw [apart_iff same]
    omega
  · simp [Apart, overlaps, same]

theorem eq_or_ordered (separate : rule.Separate document) :
    ∀ a ∈ (rule.spans document.text).map (rule.edit document),
      ∀ b ∈ (rule.spans document.text).map (rule.edit document), a = b ∨ Ordered a b := by
  let alike (a b : TextEdit) : Prop := a = b ∨ Ordered a b
  have symm : Std.Symm alike := ⟨fun _ _ alike => alike.imp Eq.symm Or.symm⟩
  have ordered : ((rule.spans document.text).map (rule.edit document)).Pairwise alike :=
    separate.behind.imp fun behind => .inr (.inl behind)
  exact fun a first b second =>
    List.Pairwise.forall_of_forall (fun _ _ => .inl rfl) ordered first second

variable (separate : rule.Separate document) (among : chosen ⊆ rule.spans document.text)
  (accepts : Accepted (chosen.map (rule.edit document)) edits)

include separate among accepts

/-- All edits that are offered are accepted. -/
theorem length_le (distinct : chosen.Nodup) : chosen.length ≤ edits.length := by
  have all : chosen.map (rule.edit document) ⊆ edits := by
    intro edit offered
    obtain ⟨taken, member, rfl | overlap⟩ := accepts.covers edit offered
    · exact member
    · have known := List.map_subset (rule.edit document) among
      rcases separate.eq_or_ordered edit (known offered) taken (known (accepts.subset member))
        with rfl | ordered
      · exact member
      · have apart : edit.overlaps taken = false := ordered.apart
        exact nomatch apart.symm.trans overlap
  have starts : ((rule.spans document.text).map (rule.edit document)).Nodup := by
    refine separate.behind.imp ?_
    rintro a _ behind rfl
    exact lt_irrefl _ behind.1
  have once : (chosen.map (rule.edit document)).Nodup := distinct.map_on fun a left b right same =>
    List.inj_on_of_nodup_map starts (among left) (among right) same
  have fewer := (List.subperm_of_subset once all).length_le
  rwa [List.length_map] at fewer

/-- The edits that are accepted land, in the order of the spans. -/
theorem exists_patched (distinct : chosen.Nodup) :
    ∃ taken result, taken.Sublist ((rule.spans document.text).map (rule.edit document)) ∧
      chosen.length ≤ taken.length ∧ apply document.text edits = .ok result ∧
      Patched 0 document.text taken result := by
  have known : edits ⊆ (rule.spans document.text).map (rule.edit document) :=
    fun _ taken => List.map_subset _ among (accepts.subset taken)
  have within : ∀ edit ∈ edits, Within 0 document.text.length edit := by
    intro edit taken
    obtain ⟨span, broken, rfl⟩ := List.mem_map.mp (known taken)
    exact separate.within span broken
  have path : ∀ a ∈ edits, a.path = document.path := by
    intro edit taken
    obtain ⟨span, -, rfl⟩ := List.mem_map.mp (known taken)
    exact separate.path span
  obtain ⟨result, applied, patched⟩ := exists_apply within accepts.apart fun a first b second =>
    (path a first).trans (path b second).symm
  have permuted := sorted_perm edits
  -- Of two accepted edits, the one that is applied first starts first.
  have ascending : (sorted edits).Pairwise fun a b => a.start < b.start := by
    have apart := (permuted.pairwise_iff Apart.symm).mpr accepts.apart
    refine (apart.and (pairwise_sorted edits)).imp_of_mem ?_
    intro a b first second ⟨apart, le⟩
    have first := permuted.mem_iff.mp first
    have second := permuted.mem_iff.mp second
    rw [isLE_order] at le
    rcases separate.eq_or_ordered a (known first) b (known second) with rfl | ordered
    · have inside := (within a first).2.1
      rw [apart_iff rfl] at apart
      omega
    · unfold Ordered at ordered
      omega
  let before (a b : TextEdit) : Prop := a.start < b.start
  have antisymm : Std.Antisymm before := ⟨fun a b first second => absurd first (lt_asymm second)⟩
  have once : (sorted edits).Nodup := by
    refine ascending.imp ?_
    rintro a _ below rfl
    exact lt_irrefl _ below
  have part := List.subperm_of_subset once fun edit taken => known (permuted.mem_iff.mp taken)
  refine ⟨sorted edits, result, ?_, ?_, applied, patched⟩
  · have ordered : ((rule.spans document.text).map (rule.edit document)).Pairwise before :=
      separate.behind.imp And.left
    exact List.sublist_of_subperm_of_pairwise part ascending ordered
  · rw [permuted.length_eq]
    exact separate.length_le among accepts distinct

end Separate

end FixLoop.Rule
