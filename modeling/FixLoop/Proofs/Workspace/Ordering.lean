import FixLoop.Proofs.Documents
import FixLoop.Proofs.Workspace.Editing
import FixLoop.Workspace.Order
import Mathlib.Data.List.Induction
import Mathlib.Data.List.Nodup
import Mathlib.Data.List.Perm.Subperm
import Mathlib.Data.String.Basic
import Mathlib.Order.Bounds.Defs

/-!
The order of a run. Counting what each unit still waits for keeps the queue exactly those units
whose dependencies have been placed, so each unit that is placed is the least of them, and none is
left when placing stops. No unit is placed twice, so that an order holds each requested unit once
and no other.
-/

namespace FixLoop

/-! ### Identifiers in order -/

section

variable {id : String} {ids : List String}

theorem mem_sortedIds : id ∈ sortedIds ids ↔ id ∈ ids := by
  simp [sortedIds]

/-- A list of identifiers in order has those of the list. -/
theorem mem_idSet : id ∈ idSet ids ↔ id ∈ ids := by
  simp [idSet, mem_sortedIds]

theorem lt_of_isLE_compare {a b : String} (le : (compare a b).isLE = true) (different : a ≠ b) :
    a < b := by
  change (compareOfLessAndEq a b).isLE = true at le
  refine Decidable.byContradiction fun unordered => ?_
  rw [compareOfLessAndEq, if_neg unordered, if_neg different] at le
  cases le

theorem pairwise_sortedIds (distinct : ids.Nodup) : (sortedIds ids).Pairwise (· < ·) := by
  have ascending : (sortedIds ids).Pairwise fun a b => (compare a b).isLE = true := by
    refine List.pairwise_mergeSort (fun _ _ _ => Std.TransCmp.isLE_trans) (fun a b => ?_) ids
    have swap : compare b a = (compare a b).swap := Std.OrientedCmp.eq_swap
    rw [swap]
    cases compare a b <;> rfl
  have apart : (sortedIds ids).Nodup := (List.mergeSort_perm ids _).nodup_iff.mpr distinct
  exact (ascending.and apart).imp fun ⟨le, different⟩ => lt_of_isLE_compare le different

theorem pairwise_idSet (ids : List String) : (idSet ids).Pairwise (· < ·) :=
  pairwise_sortedIds (nodup_eraseDups ids)

end

namespace Workspace

/-! ### Dependencies -/

/-- Whether a registered unit depends on another one, or on itself. -/
def DependsOn (workspace : Workspace) (id other : String) : Prop :=
  ∃ unit, workspace.snapshot? id = some unit ∧ other ∈ unit.dependsOn ∧ other ∈ workspace.ids

/-- Whether a unit can be placed after others: it is registered and not among them, and all units
that it depends on are. -/
structure CanFollow (workspace : Workspace) (placed : List String) (id : String) : Prop where
  registered : id ∈ workspace.ids
  unplaced : id ∉ placed
  provided : ∀ other, workspace.DependsOn id other → other ∈ placed

/-- Whether each unit of a list can be placed after the units before it. -/
def DependenciesFirst (workspace : Workspace) (placed : List String) : Prop :=
  ∀ before id, before ++ [id] <+: placed → workspace.CanFollow before id

/-- Whether each unit of a list is the least of those that can be placed after the units before
it. -/
def LeastFirst (workspace : Workspace) (placed : List String) : Prop :=
  ∀ before id, before ++ [id] <+: placed → IsLeast {other | workspace.CanFollow before other} id

variable {workspace : Workspace} {placed : List String} {id other : String}

theorem mem_dependencies : other ∈ workspace.dependencies id ↔ workspace.DependsOn id other := by
  cases found : workspace.snapshot? id <;> simp [dependencies, DependsOn, found]

theorem nodup_dependencies (workspace : Workspace) (id : String) :
    (workspace.dependencies id).Nodup :=
  nodup_eraseDups _

theorem DependsOn.registered (depends : workspace.DependsOn id other) :
    id ∈ workspace.ids ∧ other ∈ workspace.ids :=
  let ⟨_, found, _, known⟩ := depends
  ⟨mem_ids_of_snapshot? found, known⟩

namespace DependenciesFirst

theorem of_prefix {before : List String} (first : workspace.DependenciesFirst placed)
    (start : before <+: placed) : workspace.DependenciesFirst before :=
  fun some id earlier => first some id (earlier.trans start)

theorem front (first : workspace.DependenciesFirst (placed ++ [id])) :
    workspace.DependenciesFirst placed :=
  first.of_prefix (List.prefix_append _ _)

theorem last (first : workspace.DependenciesFirst (placed ++ [id])) :
    workspace.CanFollow placed id :=
  first placed id (List.prefix_refl _)

theorem nodup (first : workspace.DependenciesFirst placed) : placed.Nodup := by
  induction placed using List.reverseRecOn with
  | nil => exact List.nodup_nil
  | append_singleton placed id ih =>
    rw [← List.concat_eq_append]
    exact (ih first.front).concat first.last.unplaced

theorem registered (first : workspace.DependenciesFirst placed) :
    ∀ id ∈ placed, id ∈ workspace.ids := by
  induction placed using List.reverseRecOn with
  | nil => exact fun _ member => absurd member List.not_mem_nil
  | append_singleton placed last ih =>
    intro id member
    rcases List.mem_append.mp member with earlier | here
    · exact ih first.front id earlier
    · exact List.mem_singleton.mp here ▸ first.last.registered

/-- What a placed unit depends on was placed too. -/
theorem provided (first : workspace.DependenciesFirst placed) :
    ∀ id ∈ placed, ∀ other, workspace.DependsOn id other → other ∈ placed := by
  induction placed using List.reverseRecOn with
  | nil => exact fun _ member => absurd member List.not_mem_nil
  | append_singleton placed last ih =>
    intro id member other depends
    rcases List.mem_append.mp member with earlier | here
    · exact List.mem_append_left _ (ih first.front id earlier other depends)
    · obtain rfl := List.mem_singleton.mp here
      exact List.mem_append_left _ (first.last.provided other depends)

end DependenciesFirst

namespace LeastFirst

theorem nil : workspace.LeastFirst [] := by
  intro before id start
  simpa using List.prefix_nil.mp start

theorem snoc (least : workspace.LeastFirst placed)
    (next : IsLeast {other | workspace.CanFollow placed other} id) :
    workspace.LeastFirst (placed ++ [id]) := by
  intro before other start
  rcases List.prefix_concat_iff.mp start with same | earlier
  · obtain ⟨rfl, last⟩ := List.append_inj' same rfl
    obtain rfl := List.singleton_inj.mp last
    exact next
  · exact least before other earlier

theorem dependenciesFirst (least : workspace.LeastFirst placed) :
    workspace.DependenciesFirst placed :=
  fun before id start => (least before id start).1

end LeastFirst

end Workspace

/-! ### Placing units -/

namespace Placing

open Workspace

variable {workspace : Workspace} {placing after : Placing} {placed : List String}
  {id other : String}

/-- What a unit waits for when some units have been placed. -/
def waits (workspace : Workspace) (placed : List String) (id : String) : Waiting where
  id
  dependencies := workspace.dependencies id
  missing := ((workspace.dependencies id).filter (· ∉ placed)).length

/-- Whether the counts and the queue are those of the units that have been placed. -/
structure Sound (workspace : Workspace) (placing : Placing) : Prop where
  units : placing.units = workspace.ids.eraseDups.map (waits workspace placing.placed)
  ascending : placing.queue.Pairwise (· < ·)
  queued : ∀ id, id ∈ placing.queue ↔ workspace.CanFollow placing.placed id
  least : workspace.LeastFirst placing.placed

theorem missing_waits : (waits workspace placed id).missing = 0 ↔
    ∀ other, workspace.DependsOn id other → other ∈ placed := by
  simp only [waits, List.length_eq_zero_iff, List.filter_eq_nil_iff, decide_eq_true_eq, not_not,
    mem_dependencies]

theorem length_missing {dependencies : List String} (once : dependencies.Nodup)
    (new : id ∉ placed) :
    (dependencies.filter (· ∉ placed ++ [id])).length =
      if id ∈ dependencies then (dependencies.filter (· ∉ placed)).length - 1
      else (dependencies.filter (· ∉ placed)).length := by
  have apart : dependencies.filter (· ∉ placed ++ [id]) =
      (dependencies.filter (· ∉ placed)).erase id := by
    rw [(once.filter _).erase_eq_filter, List.filter_filter]
    refine List.filter_congr fun other _ => ?_
    by_cases own : other = id <;> simp [own]
  rw [apart, List.length_erase]
  simp [new]

/-- Counting down keeps the counts right. -/
theorem settle_waits (new : id ∉ placed) :
    (waits workspace placed other).settle id = waits workspace (placed ++ [id]) other := by
  have counted := length_missing (workspace.nodup_dependencies other) new
  unfold waits Waiting.settle
  rw [counted]
  dsimp only
  split <;> rfl

theorem mem_freed : other ∈ freed id (workspace.ids.eraseDups.map (waits workspace placed)) ↔
    workspace.DependsOn other id ∧
      ∀ needed, workspace.DependsOn other needed → needed ∈ placed := by
  rw [← missing_waits, ← mem_dependencies]
  simp only [freed, List.mem_map, List.mem_filter, List.mem_eraseDups, Bool.and_eq_true,
    decide_eq_true_eq, beq_iff_eq]
  constructor
  · rintro ⟨_, ⟨⟨unit, -, rfl⟩, depends, provided⟩, rfl⟩
    exact ⟨depends, provided⟩
  · intro ⟨depends, provided⟩
    have known := (mem_dependencies.mp depends).registered.1
    exact ⟨_, ⟨⟨other, known, rfl⟩, depends, provided⟩, rfl⟩

/-- The identifiers of some of the units, each once. -/
theorem nodup_map_filter (keep : Waiting → Bool) :
    (((workspace.ids.eraseDups.map (waits workspace placed)).filter keep).map (·.id)).Nodup := by
  refine List.Sublist.nodup (List.filter_sublist.map _) ?_
  rw [List.map_map]
  exact (List.map_id _).symm ▸ nodup_eraseDups workspace.ids

theorem unplaced_sound (workspace : Workspace) : workspace.unplaced.Sound workspace := by
  have units : workspace.unplaced.units = workspace.ids.eraseDups.map (waits workspace []) := by
    simp [unplaced, waits]
  have queue : workspace.unplaced.queue = sortedIds ((workspace.unplaced.units.filter
      (·.missing == 0)).map (·.id)) := rfl
  rw [units] at queue
  refine ⟨units, queue ▸ pairwise_sortedIds (nodup_map_filter _), fun id => ?_, .nil⟩
  rw [queue, mem_sortedIds]
  simp only [List.mem_map, List.mem_filter, List.mem_eraseDups, beq_iff_eq]
  constructor
  · rintro ⟨_, ⟨⟨unit, known, rfl⟩, provided⟩, rfl⟩
    exact ⟨known, List.not_mem_nil, missing_waits.mp provided⟩
  · intro free
    exact ⟨_, ⟨⟨id, free.registered, rfl⟩, missing_waits.mpr free.provided⟩, rfl⟩

/-- What can be placed next: what could be before, and what is freed. -/
theorem canFollow_snoc (first : workspace.DependenciesFirst placed)
    (next : workspace.CanFollow placed id) :
    workspace.CanFollow (placed ++ [id]) other ↔
      workspace.CanFollow placed other ∧ other ≠ id ∨
        other ∈ freed id (workspace.ids.eraseDups.map (waits workspace (placed ++ [id]))) := by
  rw [mem_freed]
  constructor
  · intro free
    have apart : other ∉ placed ∧ other ≠ id := by simpa using free.unplaced
    -- What did not wait for the new unit could be placed before it.
    by_cases depends : workspace.DependsOn other id
    · exact .inr ⟨depends, free.provided⟩
    · refine .inl ⟨⟨free.registered, apart.1, fun needed also => ?_⟩, apart.2⟩
      refine (List.mem_append.mp (free.provided needed also)).resolve_right fun last => depends ?_
      exact List.mem_singleton.mp last ▸ also
  · rintro (⟨free, apart⟩ | ⟨depends, provided⟩)
    · refine ⟨free.registered, by simpa [apart] using free.unplaced, fun needed also => ?_⟩
      exact List.mem_append_left _ (free.provided needed also)
    · refine ⟨depends.registered.1, fun member => next.unplaced ?_, provided⟩
      rcases List.mem_append.mp member with earlier | here
      · exact first.provided other earlier id depends
      · exact next.provided id (List.mem_singleton.mp here ▸ depends)

/-- Placing a unit places the least of those that can be placed. -/
theorem Sound.next (sound : placing.Sound workspace) (went : placing.next? = some after) :
    after.Sound workspace ∧ after.placed.length = placing.placed.length + 1 := by
  obtain ⟨units, queue, placed⟩ := placing
  obtain ⟨counted, ascending, queued, least⟩ := sound
  dsimp only at counted ascending queued least ⊢
  subst counted
  cases queue with
  | nil => cases went
  | cons id queue =>
    obtain ⟨first, ascending⟩ := List.pairwise_cons.mp ascending
    have free := (queued id).mp List.mem_cons_self
    have settled : (workspace.ids.eraseDups.map (waits workspace placed)).map (Waiting.settle id) =
        workspace.ids.eraseDups.map (waits workspace (placed ++ [id])) := by
      rw [List.map_map]
      exact List.map_congr_left fun other _ => settle_waits free.unplaced
    have rest (other : String) :
        other ∈ queue ↔ workspace.CanFollow placed other ∧ other ≠ id := by
      rw [← queued, List.mem_cons]
      constructor
      · intro later
        exact ⟨.inr later, (first other later).ne'⟩
      · rintro ⟨rfl | later, apart⟩
        · exact absurd rfl apart
        · exact later
    dsimp only [next?] at went
    rw [settled] at went
    cases went
    refine ⟨⟨rfl, ?_, fun other => ?_, least.snoc ⟨free, fun other can => ?_⟩⟩,
      List.length_append⟩
    · refine pairwise_sortedIds (List.Nodup.append (ascending.imp fun less => less.ne)
        (nodup_map_filter _) fun other later new => ?_)
      have provided := ((rest other).mp later).1.provided
      exact free.unplaced (provided id (mem_freed.mp new).1)
    · rw [canFollow_snoc least.dependenciesFirst free, ← rest, mem_sortedIds, List.mem_append]
    · rcases List.mem_cons.mp ((queued other).mpr can) with rfl | later
      · exact le_refl _
      · exact (first other later).le

/-- Placing at most so many units stops early only if no unit can be placed. -/
theorem Sound.place (sound : placing.Sound workspace) (count : Nat) :
    (placing.place count).Sound workspace ∧ ((placing.place count).queue = [] ∨
      (placing.place count).placed.length = placing.placed.length + count) := by
  induction count generalizing placing with
  | zero => exact ⟨sound, .inr rfl⟩
  | succ count ih =>
    unfold Placing.place
    split
    · next stopped =>
      refine ⟨sound, .inl ?_⟩
      unfold next? at stopped
      split at stopped
      · assumption
      · cases stopped
    · next went =>
      obtain ⟨sound, length⟩ := sound.next went
      obtain ⟨sound, stopped | full⟩ := ih sound
      · exact ⟨sound, .inl stopped⟩
      · exact ⟨sound, .inr (by omega)⟩

end Placing

namespace Workspace

variable {workspace : Workspace} {requested : Option (List String)} {order : List String}
  {id : String}

/-- All units that can be placed are placed, the least first. -/
theorem placement_complete (workspace : Workspace) :
    workspace.LeastFirst workspace.placement ∧
      ∀ id, ¬workspace.CanFollow workspace.placement id := by
  obtain ⟨sound, stopped⟩ := (Placing.unplaced_sound workspace).place workspace.units.length
  refine ⟨sound.least, fun id free => ?_⟩
  rcases stopped with none | full
  · have queued := (sound.queued id).mpr free
    rw [none] at queued
    cases queued
  · -- Then as many units were placed as there are, and one more could be.
    have once : (id :: workspace.placement).Nodup :=
      List.nodup_cons.mpr ⟨free.unplaced, sound.least.dependenciesFirst.nodup⟩
    have known : id :: workspace.placement ⊆ workspace.ids :=
      List.cons_subset.mpr ⟨free.registered, sound.least.dependenciesFirst.registered⟩
    have bounded := (once.subperm known).length_le
    have size : workspace.ids.length = workspace.units.length := List.length_map _
    change workspace.placement.length = 0 + _ at full
    rw [List.length_cons] at bounded
    omega

theorem nodup_placement (workspace : Workspace) : workspace.placement.Nodup :=
  workspace.placement_complete.1.dependenciesFirst.nodup

/-- Units that can be ordered are all known and can all be placed. -/
theorem order_eq_ok (ordered : workspace.order requested = .ok order) :
    (∀ id ∈ requested.getD workspace.ids, id ∈ workspace.ids ∧ id ∈ workspace.placement) ∧
      order = workspace.placement.filter (· ∈ requested.getD workspace.ids) := by
  unfold Workspace.order at ordered
  dsimp only at ordered
  split at ordered
  · cases ordered
  · rename_i known
    split at ordered
    · rename_i none
      cases ordered
      refine ⟨fun id selected => ?_, rfl⟩
      have present : id ∈ workspace.ids := by
        simpa using List.find?_eq_none.mp known id selected
      have placed := List.filter_eq_nil_iff.mp (List.isEmpty_iff.mp none) id present
      exact ⟨present, by simpa using placed⟩
    · cases ordered

theorem nodup_order (ordered : workspace.order requested = .ok order) : order.Nodup := by
  rw [(order_eq_ok ordered).2]
  exact workspace.nodup_placement.filter _

theorem mem_order (ordered : workspace.order requested = .ok order) (id : String) :
    id ∈ order ↔ id ∈ requested.getD workspace.ids := by
  obtain ⟨placed, rfl⟩ := order_eq_ok ordered
  constructor
  · intro member
    simpa using (List.mem_filter.mp member).2
  · intro selected
    exact List.mem_filter.mpr ⟨(placed id selected).2, by simpa using selected⟩

theorem mem_ids_of_order (ordered : workspace.order requested = .ok order) {id : String}
    (member : id ∈ order) : id ∈ workspace.ids :=
  ((order_eq_ok ordered).1 id ((mem_order ordered id).mp member)).1

theorem snapshot?_of_mem (once : workspace.ids.Nodup) {tracked : Tracked}
    (member : tracked ∈ workspace.units) :
    workspace.snapshot? tracked.current.id = some tracked.current := by
  have present : (workspace.units.find? (·.current.id == tracked.current.id)).isSome :=
    List.find?_isSome.mpr ⟨tracked, member, beq_self_eq_true _⟩
  obtain ⟨other, found⟩ := Option.isSome_iff_exists.mp present
  have same : other = tracked :=
    List.inj_on_of_nodup_map once (List.mem_of_find?_eq_some found) member
      (by simpa using List.find?_some found)
  rw [snapshot?, found, same]
  rfl

end Workspace

end FixLoop
