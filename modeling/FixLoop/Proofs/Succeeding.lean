import Mathlib.Data.List.Basic

/-!
What a computation that may fail went through when it succeeded: each of its steps succeeded too.
-/

namespace FixLoop

variable {ε ε' α β : Type}

theorem exists_of_bind_eq_ok {first : Except ε α} {next : α → Except ε β} {b : β}
    (ran : first >>= next = .ok b) : ∃ a, first = .ok a ∧ next a = .ok b := by
  cases first with
  | error fault => cases ran
  | ok a => exact ⟨a, rfl, ran⟩

theorem bind_eq_ok_of_eq_ok {first : Except ε α} {next : α → Except ε β} {a : α} {b : β}
    (ran : first = .ok a) (later : next a = .ok b) : first >>= next = .ok b := by
  rw [ran]
  exact later

theorem exists_of_map_eq_ok {result : Except ε α} {change : α → β} {b : β}
    (ran : change <$> result = .ok b) : ∃ a, result = .ok a ∧ change a = b := by
  cases result with
  | error fault => cases ran
  | ok a => exact ⟨a, rfl, Except.ok.inj ran⟩

theorem eq_ok_of_mapError {result : Except ε α} {rename : ε → ε'} {a : α}
    (ran : result.mapError rename = .ok a) : result = .ok a := by
  cases result with
  | error fault => cases ran
  | ok a =>
    cases ran
    rfl

/-- What succeeded can be told from what is seen of its result. -/
theorem exists_of_map_toOption {result : Except ε α} (look : α → β) {seen : β}
    (ran : result.toOption.map look = some seen) : ∃ a, result = .ok a ∧ look a = seen := by
  cases result with
  | error fault => cases ran
  | ok a => exact ⟨a, rfl, Option.some.inj ran⟩

theorem exists_of_mapM_eq_ok {act : α → Except ε β} {items : List α} {results : List β}
    (ran : items.mapM act = .ok results) {result : β} (member : result ∈ results) :
    ∃ item ∈ items, act item = .ok result := by
  induction items generalizing results with
  | nil =>
    cases ran
    cases member
  | cons item rest ih =>
    rw [List.mapM_cons] at ran
    obtain ⟨first, acted, ran⟩ := exists_of_bind_eq_ok ran
    obtain ⟨others, later, ran⟩ := exists_of_bind_eq_ok ran
    cases ran
    rcases List.mem_cons.mp member with rfl | member
    · exact ⟨item, List.mem_cons_self, acted⟩
    · obtain ⟨other, among, acted⟩ := ih later member
      exact ⟨other, List.mem_cons_of_mem _ among, acted⟩

theorem mem_of_filterAuxM_eq_ok {keep : α → Except ε Bool} {items seen kept : List α}
    (ran : items.filterAuxM keep seen = .ok kept) {item : α} (member : item ∈ kept) :
    item ∈ items ∨ item ∈ seen := by
  -- The items that were kept so far are carried along in reverse.
  induction items generalizing seen with
  | nil =>
    cases ran
    exact .inr member
  | cons first rest ih =>
    obtain ⟨keeps, -, later⟩ := exists_of_bind_eq_ok ran
    rcases ih later with among | among
    · exact .inl (List.mem_cons_of_mem _ among)
    · cases keeps with
      | false => exact .inr among
      | true =>
        rcases List.mem_cons.mp among with rfl | among
        · exact .inl List.mem_cons_self
        · exact .inr among

theorem mem_of_filterM_eq_ok {keep : α → Except ε Bool} {items kept : List α}
    (ran : items.filterM keep = .ok kept) {item : α} (member : item ∈ kept) : item ∈ items := by
  obtain ⟨reversed, filtered, ran⟩ := exists_of_bind_eq_ok ran
  cases ran
  exact (mem_of_filterAuxM_eq_ok filtered (List.mem_reverse.mp member)).resolve_right nofun

end FixLoop
