import FixLoop.Value
import Mathlib.Data.List.Basic
import Mathlib.Data.List.Nodup

/-!
Looking up fields by their name, in lists of fields that are put together one by one. A field that
is put has its name from then on, and the names stay distinct.
-/

namespace FixLoop

variable {α : Type} {key other : String} {value : α} {fields : List (String × α)}

theorem lookup_cons_of_ne (different : other ≠ key) :
    ((key, value) :: fields).lookup other = fields.lookup other := by
  rw [List.lookup_cons, beq_false_of_ne different]

theorem lookup_putField :
    (putField key value fields).lookup other =
      if other = key then some value else fields.lookup other := by
  induction fields with
  | nil =>
    by_cases asked : other = key
    · simp [putField, asked]
    · simp [putField, lookup_cons_of_ne asked, asked]
  | cons field rest ih =>
    obtain ⟨first, old⟩ := field
    by_cases same : first = key
    · subst same
      rw [putField, if_pos rfl]
      by_cases asked : other = first
      · simp [asked]
      · simp [lookup_cons_of_ne asked, asked]
    · rw [putField, if_neg same]
      by_cases asked : other = first
      · subst asked
        simp [same]
      · rw [lookup_cons_of_ne asked, lookup_cons_of_ne asked, ih]

theorem mem_keys_putField :
    other ∈ (putField key value fields).map (·.1) ↔ other = key ∨ other ∈ fields.map (·.1) := by
  induction fields with
  | nil => simp [putField]
  | cons field rest ih =>
    obtain ⟨first, old⟩ := field
    by_cases same : first = key
    · subst same
      simp [putField]
    · simp only [putField, if_neg same, List.map_cons, List.mem_cons, ih]
      exact or_left_comm

theorem nodup_keys_putField (distinct : (fields.map (·.1)).Nodup) :
    ((putField key value fields).map (·.1)).Nodup := by
  induction fields with
  | nil => simp [putField]
  | cons field rest ih =>
    obtain ⟨first, old⟩ := field
    obtain ⟨apart, later⟩ := List.nodup_cons.mp distinct
    by_cases same : first = key
    · subst same
      simpa [putField] using distinct
    · simp only [putField, if_neg same, List.map_cons, List.nodup_cons, mem_keys_putField]
      exact ⟨not_or.mpr ⟨same, apart⟩, ih later⟩

theorem lookup_filter_keys (keep : String → Bool) :
    (fields.filter (keep ·.1)).lookup other = if keep other then fields.lookup other else none := by
  induction fields with
  | nil => simp
  | cons field rest ih =>
    obtain ⟨first, old⟩ := field
    by_cases asked : other = first
    · subst asked
      by_cases kept : keep other = true
      · simp [kept]
      · simp [kept, ih]
    · by_cases kept : keep first = true
      · simp [kept, lookup_cons_of_ne asked, ih]
      · simp [kept, lookup_cons_of_ne asked, ih]

theorem lookup_filter_ne :
    (fields.filter (·.1 ≠ key)).lookup other =
      if other = key then none else fields.lookup other := by
  rw [lookup_filter_keys fun name => decide (name ≠ key)]
  by_cases asked : other = key
  · simp [asked]
  · simp [asked]

theorem lookup_eq_some_iff_mem (distinct : (fields.map (·.1)).Nodup) :
    fields.lookup key = some value ↔ (key, value) ∈ fields := by
  induction fields with
  | nil => simp
  | cons field rest ih =>
    obtain ⟨first, old⟩ := field
    obtain ⟨apart, later⟩ := List.nodup_cons.mp distinct
    by_cases asked : key = first
    · subst asked
      have others : (key, value) ∉ rest := fun member => apart (List.mem_map.mpr ⟨_, member, rfl⟩)
      simp [others, eq_comm]
    · rw [lookup_cons_of_ne asked, ih later]
      simp [asked]

theorem lookup_eq_none_of_not_mem (missing : key ∉ fields.map (·.1)) :
    fields.lookup key = none := by
  refine List.lookup_eq_none_iff.mpr fun field member => bne_iff_ne.mpr fun same => missing ?_
  exact same ▸ List.mem_map_of_mem member

/-- Of values that are found by name, one is looked up by its name. -/
theorem lookup_filterMap_names (find : String → Option α) (names : List String) :
    (names.filterMap fun name => (find name).map (name, ·)).lookup other =
      if other ∈ names then find other else none := by
  induction names with
  | nil => rfl
  | cons name names ih =>
    by_cases asked : other = name
    · subst asked
      cases found : find other with
      | none => simp [found, ih]
      | some value => simp [found]
    · cases found : find name with
      | none => simp [found, ih, asked]
      | some value => simp [found, ih, asked, lookup_cons_of_ne asked]

end FixLoop
