import FixLoop.Proofs.Succeeding

/-!
Where a computation that may fail failed: at one of its steps, after those before it succeeded.
-/

namespace FixLoop

variable {ε ε' α β : Type} {fault : ε}

theorem bind_fails_iff {first : Except ε α} {next : α → Except ε β} :
    first >>= next = .error fault ↔
      first = .error fault ∨ ∃ a, first = .ok a ∧ next a = .error fault := by
  cases first with
  | error cause => simp [bind, Except.bind]
  | ok a => simp [bind, Except.bind]

theorem map_fails_iff {result : Except ε α} {change : α → β} :
    result.map change = .error fault ↔ result = .error fault := by
  cases result with
  | error cause => simp [Except.map]
  | ok a => simp [Except.map]

theorem mapError_fails_iff {result : Except ε' α} {rename : ε' → ε} :
    result.mapError rename = .error fault ↔
      ∃ cause, result = .error cause ∧ rename cause = fault := by
  cases result with
  | error cause => simp [Except.mapError]
  | ok a => simp [Except.mapError]

/-- Going through a list fails at the first item that fails. -/
theorem mapM_fails_iff {act : α → Except ε β} {items : List α} :
    items.mapM act = .error fault ↔ ∃ before item after, items = before ++ item :: after ∧
      (∃ results, before.mapM act = .ok results) ∧ act item = .error fault := by
  induction items with
  | nil => simp [pure, Except.pure]
  | cons first rest ih =>
    rw [List.mapM_cons, bind_fails_iff]
    constructor
    · rintro (failed | ⟨result, acted, later⟩)
      · exact ⟨[], first, rest, rfl, ⟨[], rfl⟩, failed⟩
      · obtain failed := (bind_fails_iff.mp later).resolve_right nofun
        obtain ⟨before, item, after, rfl, ⟨results, went⟩, failed⟩ := ih.mp failed
        refine ⟨first :: before, item, after, rfl, ⟨result :: results, ?_⟩, failed⟩
        rw [List.mapM_cons, acted, went]
        rfl
    · rintro ⟨before, item, after, split, ⟨results, went⟩, failed⟩
      cases before with
      | nil =>
        cases split
        exact .inl failed
      | cons other before =>
        cases split
        rw [List.mapM_cons] at went
        obtain ⟨result, acted, went⟩ := exists_of_bind_eq_ok went
        obtain ⟨others, went, -⟩ := exists_of_bind_eq_ok went
        have later := ih.mpr ⟨before, item, after, rfl, ⟨others, went⟩, failed⟩
        exact .inr ⟨result, acted, bind_fails_iff.mpr (.inl later)⟩

end FixLoop
