import FixLoop.Diagnostic
import Mathlib.Data.List.Perm.Subperm

/-!
Comparing reports. Two reports hold the same findings exactly if their findings, with repetitions,
are a permutation of each other.
-/

namespace FixLoop.Diagnostic

/-- The compared fields of the diagnostics of a report. -/
def findings (diagnostics : List Diagnostic) : List (String × Location × String) :=
  diagnostics.map finding

theorem occurrences_eq_count (d : Diagnostic) (diagnostics : List Diagnostic) :
    occurrences d diagnostics = (findings diagnostics).count d.finding := by
  unfold occurrences findings
  rw [List.count_eq_countP, List.countP_map]
  apply List.countP_congr
  intro other _
  simp only [same, beq_iff_eq, Function.comp_apply]
  exact eq_comm

theorem sameFindings_iff {left right : List Diagnostic} :
    sameFindings left right = true ↔ (findings left).Perm (findings right) := by
  simp only [sameFindings, Bool.and_eq_true, beq_iff_eq, List.all_eq_true, occurrences_eq_count]
  constructor
  · intro ⟨lengths, counts⟩
    have included : (findings left).Subperm (findings right) := by
      apply List.subperm_ext_iff.mpr
      intro finding member
      obtain ⟨d, reported, rfl⟩ := List.mem_map.mp member
      exact Nat.le_of_eq (counts d reported)
    exact included.perm_of_length_le (by simp [findings, lengths])
  · intro permuted
    exact ⟨by simpa [findings] using permuted.length_eq, fun d _ => permuted.count_eq d.finding⟩

/-- A report with findings differs from an empty one. -/
theorem not_sameFindings_nil {diagnostics : List Diagnostic} (found : diagnostics ≠ []) :
    sameFindings diagnostics [] = false := by
  cases diagnostics with
  | nil => exact absurd rfl found
  | cons d rest => rfl

end FixLoop.Diagnostic
