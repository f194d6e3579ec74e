import FixLoop.Proofs.Findings
import Mathlib.Data.List.Induction

/-!
Collected reports. What analyzers report together is the first report of every finding, sorted. Both
steps commute with leaving out findings, and which findings are kept does not depend on the order in
which they are reported.
-/

namespace FixLoop.Diagnostic

variable {d : Diagnostic} {diagnostics : List Diagnostic}

/-! ### Sorting -/

theorem order_eq : order =
    compareLex (compareOn (·.location.path)) (compareLex (compareOn (·.location.start))
      (compareLex (compareOn (·.location.stop)) (compareLex (compareOn (·.id))
        (compareOn (·.message))))) := rfl

instance : Std.TransCmp order := order_eq ▸ inferInstance

/-- Whether a report is placed behind another one that was reported later. -/
def follows (d other : Diagnostic) : Bool := !(order d other).isLE

theorem order_trans (a b c : Diagnostic) :
    (order a b).isLE = true → (order b c).isLE = true → (order a c).isLE = true :=
  Std.TransCmp.isLE_trans

theorem order_total (a b : Diagnostic) : ((order a b).isLE || (order b a).isLE) = true := by
  have swap : order b a = (order a b).swap := Std.OrientedCmp.eq_swap
  rw [swap]
  cases order a b <;> rfl

theorem pairwise_sorted (diagnostics : List Diagnostic) :
    (sorted diagnostics).Pairwise fun a b => (order a b).isLE = true :=
  List.pairwise_mergeSort order_trans order_total _

theorem sorted_perm (diagnostics : List Diagnostic) : (sorted diagnostics).Perm diagnostics :=
  List.mergeSort_perm _ _

theorem sorted_eq_nil {diagnostics : List Diagnostic} :
    sorted diagnostics = [] ↔ diagnostics = [] := by
  constructor
  · intro empty
    exact (empty ▸ (sorted_perm diagnostics).symm).eq_nil
  · rintro rfl
    exact List.mergeSort_nil

/-- A report is sorted in behind those that it follows, and before all others. -/
theorem exists_insertion (d : Diagnostic) (rest : List Diagnostic) :
    ∃ before after, sorted rest = before ++ after ∧ sorted (d :: rest) = before ++ d :: after ∧
      (∀ other ∈ before, d.follows other = true) ∧ ∀ other ∈ after, d.follows other = false := by
  obtain ⟨before, after, placed, split, low⟩ := List.mergeSort_cons order_trans order_total d rest
  refine ⟨before, after, split, placed, low, fun other member => ?_⟩
  have ascending : (before ++ d :: after).Pairwise fun a b => (order a b).isLE = true := by
    rw [← placed]
    exact pairwise_sorted _
  have above := (List.pairwise_cons.mp (List.pairwise_append.mp ascending).2.1).1 other member
  rw [follows, above, Bool.not_true]

theorem filter_follows {before after : List Diagnostic}
    (low : ∀ other ∈ before, d.follows other = true)
    (high : ∀ other ∈ after, d.follows other = false) :
    (before ++ after).filter d.follows = before := by
  rw [List.filter_append, List.filter_eq_self.mpr low,
    List.filter_eq_nil_iff.mpr fun other member => by simp [high other member], List.append_nil]

/-- Reports that are kept stay in order among themselves. -/
theorem filter_sorted (keep : Diagnostic → Bool) (diagnostics : List Diagnostic) :
    (sorted diagnostics).filter keep = sorted (diagnostics.filter keep) := by
  induction diagnostics with
  | nil => simp [sorted]
  | cons d rest ih =>
    obtain ⟨before, after, split, placed, low, high⟩ := exists_insertion d rest
    rw [split, List.filter_append] at ih
    rw [placed, List.filter_append, List.filter_cons, List.filter_cons]
    cases keep d with
    | false => exact ih
    | true =>
      obtain ⟨smaller, larger, divided, inserted, below, above⟩ :=
        exists_insertion d (rest.filter keep)
      have same : before.filter keep ++ after.filter keep = smaller ++ larger := ih.trans divided
      have first : before.filter keep = smaller := by
        rw [← filter_follows (fun other member => low other (List.mem_filter.mp member).1)
          (fun other member => high other (List.mem_filter.mp member).1), same,
          filter_follows below above]
      rw [first] at same
      simp only [if_pos]
      rw [inserted, first, List.append_cancel_left same]

/-! ### The first report of every finding -/

variable {other : Diagnostic}

theorem same_iff : d.same other = true ↔ d.finding = other.finding := beq_iff_eq

theorem same_congr (alike : d.finding = other.finding) : d.same = other.same := by
  funext another
  rw [same, same, alike]

theorem mem_findings {finding : String × Location × String} :
    finding ∈ findings diagnostics ↔ ∃ d ∈ diagnostics, d.finding = finding := List.mem_map

theorem findings_concat (earlier : List Diagnostic) (d : Diagnostic) :
    findings (earlier ++ [d]) = findings earlier ++ [d.finding] := List.map_append

theorem any_same : diagnostics.any d.same = true ↔ d.finding ∈ findings diagnostics := by
  rw [List.any_eq_true, mem_findings]
  exact exists_congr fun other => and_congr_right fun _ => same_iff.trans eq_comm

theorem foldl_distinct (earlier : List Diagnostic) (d : Diagnostic) :
    distinct (earlier ++ [d]) =
      if (distinct earlier).any d.same then distinct earlier else distinct earlier ++ [d] := by
  unfold distinct
  rw [List.foldl_append]
  rfl

/-- Every finding that is reported is kept. -/
theorem mem_findings_distinct {finding : String × Location × String} :
    finding ∈ findings (distinct diagnostics) ↔ finding ∈ findings diagnostics := by
  induction diagnostics using List.reverseRecOn with
  | nil => rfl
  | append_singleton earlier d ih =>
    rw [foldl_distinct, findings_concat, List.mem_append, ← ih]
    split
    · rename_i known
      refine ⟨.inl, fun member => member.elim (fun old => old) fun new => ?_⟩
      rw [List.mem_singleton.mp new]
      exact any_same.mp known
    · rw [findings_concat, List.mem_append]

theorem distinct_concat (earlier : List Diagnostic) (d : Diagnostic) :
    distinct (earlier ++ [d]) =
      if d.finding ∈ findings earlier then distinct earlier else distinct earlier ++ [d] := by
  rw [foldl_distinct]
  exact if_congr (any_same.trans mem_findings_distinct) rfl rfl

theorem nodup_findings_distinct (diagnostics : List Diagnostic) :
    (findings (distinct diagnostics)).Nodup := by
  induction diagnostics using List.reverseRecOn with
  | nil => exact List.nodup_nil
  | append_singleton earlier d ih =>
    rw [distinct_concat]
    split
    · exact ih
    · rename_i new
      rw [findings_concat]
      refine List.nodup_append.mpr ⟨ih, List.pairwise_singleton _ _, ?_⟩
      intro _ member _ single same
      rw [same, List.mem_singleton.mp single] at member
      exact new (mem_findings_distinct.mp member)

theorem distinct_of_nodup (once : (findings diagnostics).Nodup) :
    distinct diagnostics = diagnostics := by
  induction diagnostics using List.reverseRecOn with
  | nil => rfl
  | append_singleton earlier d ih =>
    rw [findings_concat] at once
    obtain ⟨before, -, apart⟩ := List.nodup_append.mp once
    have new : d.finding ∉ findings earlier := fun known =>
      apart _ known _ (List.mem_singleton_self _) rfl
    rw [distinct_concat, if_neg new, ih before]

/-- Leaving out findings commutes with leaving out repetitions. -/
theorem filter_distinct (keep : Diagnostic → Bool)
    (respects : ∀ a b : Diagnostic, a.finding = b.finding → keep a = keep b)
    (diagnostics : List Diagnostic) :
    (distinct diagnostics).filter keep = distinct (diagnostics.filter keep) := by
  induction diagnostics using List.reverseRecOn with
  | nil => rfl
  | append_singleton earlier d ih =>
    rw [distinct_concat, List.filter_append]
    cases kept : keep d with
    | false =>
      have dropped : [d].filter keep = [] := by simp [kept]
      rw [dropped, List.append_nil, ← ih]
      split
      · rfl
      · rw [List.filter_append, dropped, List.append_nil]
    | true =>
      have stays : [d].filter keep = [d] := by simp [kept]
      have known : d.finding ∈ findings (earlier.filter keep) ↔ d.finding ∈ findings earlier := by
        simp only [mem_findings, List.mem_filter]
        constructor
        · exact fun ⟨other, member, same⟩ => ⟨other, member.1, same⟩
        · exact fun ⟨other, member, same⟩ =>
            ⟨other, ⟨member, (respects other d same).trans kept⟩, same⟩
      rw [stays, distinct_concat]
      split
      · rename_i old
        rw [if_pos (known.mpr old), ih]
      · rename_i new
        rw [if_neg fun old => new (known.mp old), List.filter_append, stays, ih]

theorem find?_same_eq_none :
    diagnostics.find? d.same = none ↔ d.finding ∉ findings diagnostics := by
  rw [← any_same, Bool.not_eq_true, List.any_eq_false, List.find?_eq_none]

/-- What is kept of a finding is its first report. -/
theorem mem_distinct : d ∈ distinct diagnostics ↔ diagnostics.find? d.same = some d := by
  induction diagnostics using List.reverseRecOn with
  | nil => simp [distinct]
  | append_singleton earlier last ih =>
    rw [distinct_concat, List.find?_append]
    cases found : earlier.find? d.same with
    | some first =>
      have known : d.finding ∈ findings earlier := by
        by_contra unknown
        rw [find?_same_eq_none.mpr unknown] at found
        cases found
      rw [found] at ih
      split
      · exact ih
      · rename_i new
        have different : d ≠ last := fun same => new (same ▸ known)
        rw [List.mem_append, List.mem_singleton, ih, Option.some_or]
        exact or_iff_left different
    | none =>
      have unknown := find?_same_eq_none.mp found
      have unkept : d ∉ distinct earlier := fun kept => nomatch found.symm.trans (ih.mp kept)
      rw [Option.none_or, List.find?_singleton]
      split
      · rename_i old
        have different : d.same last ≠ true := fun same => unknown (same_iff.mp same ▸ old)
        rw [if_neg different]
        exact ⟨fun kept => absurd kept unkept, nofun⟩
      · rw [List.mem_append, List.mem_singleton, or_iff_right unkept]
        constructor
        · rintro rfl
          rw [if_pos (same_iff.mpr rfl)]
        · intro chosen
          split at chosen
          · exact (Option.some.inj chosen).symm
          · cases chosen

/-! ### Reports in batches -/

section

variable {keep : Diagnostic → Bool} {one rest : List Diagnostic}
  {batches others : List (List Diagnostic)} {finding : String × Location × String}

theorem mem_distinct_append :
    d ∈ distinct (one ++ rest) ↔
      d ∈ distinct one ∨ d.finding ∉ findings one ∧ d ∈ distinct rest := by
  rw [mem_distinct, mem_distinct, mem_distinct, List.find?_append, ← find?_same_eq_none]
  cases one.find? d.same <;> simp

/-- The first of all reports of a finding is the first one in its batch. -/
theorem mem_distinct_flatten (member : d ∈ distinct batches.flatten) :
    ∃ batch ∈ batches, d ∈ distinct batch := by
  induction batches with
  | nil => cases member
  | cons one rest ih =>
    rw [List.flatten_cons] at member
    rcases mem_distinct_append.mp member with first | ⟨-, later⟩
    · exact ⟨one, List.mem_cons_self, first⟩
    · obtain ⟨batch, among, first⟩ := ih later
      exact ⟨batch, List.mem_cons_of_mem _ among, first⟩

/-- Whether batches agree on what is to be kept, each by its first report of a finding. -/
def Agree (keep : Diagnostic → Bool) (batches : List (List Diagnostic)) : Prop :=
  ∀ one ∈ batches, ∀ other ∈ batches, ∀ a ∈ distinct one, ∀ b ∈ distinct other,
    a.finding = b.finding → keep a = keep b

instance : Decidable (Agree keep batches) :=
  inferInstanceAs (Decidable (∀ one ∈ batches, ∀ other ∈ batches, ∀ a ∈ distinct one,
    ∀ b ∈ distinct other, a.finding = b.finding → keep a = keep b))

theorem nodup_findings_kept (keep : Diagnostic → Bool) (diagnostics : List Diagnostic) :
    (findings ((distinct diagnostics).filter keep)).Nodup :=
  (nodup_findings_distinct diagnostics).sublist (List.filter_sublist.map _)

theorem mem_findings_kept (agree : Agree keep batches) :
    finding ∈ findings ((distinct batches.flatten).filter keep) ↔
      ∃ batch ∈ batches, ∃ d ∈ distinct batch, keep d = true ∧ d.finding = finding := by
  constructor
  · intro member
    obtain ⟨d, kept, rfl⟩ := mem_findings.mp member
    obtain ⟨first, keeps⟩ := List.mem_filter.mp kept
    obtain ⟨batch, among, own⟩ := mem_distinct_flatten first
    exact ⟨batch, among, d, own, keeps, rfl⟩
  · rintro ⟨batch, among, d, own, keeps, rfl⟩
    have reported : d.finding ∈ findings batches.flatten := by
      obtain ⟨d, member, same⟩ := mem_findings.mp
        (mem_findings_distinct.mp (mem_findings.mpr ⟨d, own, rfl⟩))
      exact mem_findings.mpr ⟨d, List.mem_flatten.mpr ⟨batch, among, member⟩, same⟩
    obtain ⟨first, member, same⟩ := mem_findings.mp (mem_findings_distinct.mpr reported)
    obtain ⟨other, among', own'⟩ := mem_distinct_flatten member
    refine mem_findings.mpr ⟨first, List.mem_filter.mpr ⟨member, ?_⟩, same⟩
    rw [agree other among' batch among first own' d own same, keeps]

/-- The order of batches that agree does not matter. -/
theorem Agree.perm (agree : Agree keep batches) (permuted : batches.Perm others) :
    (findings ((distinct batches.flatten).filter keep)).Perm
      (findings ((distinct others.flatten).filter keep)) := by
  have still : Agree keep others := fun one first other second =>
    agree one (permuted.mem_iff.mpr first) other (permuted.mem_iff.mpr second)
  refine (List.perm_ext_iff_of_nodup (nodup_findings_kept ..) (nodup_findings_kept ..)).mpr ?_
  intro finding
  simp only [mem_findings_kept agree, mem_findings_kept still, permuted.mem_iff]

/-- The batch that comes first decides about its findings. -/
theorem mem_findings_kept_first (first : d ∈ distinct one) :
    d.finding ∈ findings ((distinct (one ++ rest)).filter keep) ↔ keep d = true := by
  have chosen : (one ++ rest).find? d.same = some d :=
    mem_distinct.mp (mem_distinct_append.mpr (.inl first))
  constructor
  · intro member
    obtain ⟨other, kept, same⟩ := mem_findings.mp member
    obtain ⟨among, keeps⟩ := List.mem_filter.mp kept
    have found := mem_distinct.mp among
    rw [same_congr same, chosen] at found
    rwa [Option.some.inj found]
  · exact fun keeps => mem_findings.mpr
      ⟨d, List.mem_filter.mpr ⟨mem_distinct.mpr chosen, keeps⟩, rfl⟩

end

end FixLoop.Diagnostic
