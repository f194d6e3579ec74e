import FixLoop.Proofs.Workspace.Ordering
import Mathlib

/-!
Dependencies that units have through others. Units that can be ordered come after all that they
depend on, and of all such orders theirs is the least, in which each next unit is the least that can
be placed. Units are left over exactly if there is a cycle, and these are then the units that reach
one.
-/

namespace FixLoop

namespace Workspace

open Relation

/-- Whether the dependencies of a unit lead to one that depends on itself, at once or through
others. -/
def ReachesCycle (workspace : Workspace) (id : String) : Prop :=
  ∃ looping, ReflTransGen workspace.DependsOn id looping ∧
    TransGen workspace.DependsOn looping looping

variable {workspace : Workspace} {requested : Option (List String)} {placed others : List String}
  {id other : String}

theorem ReachesCycle.head (depends : workspace.DependsOn id other)
    (reaches : workspace.ReachesCycle other) : workspace.ReachesCycle id :=
  let ⟨looping, leads, cycle⟩ := reaches
  ⟨looping, .head depends leads, cycle⟩

namespace DependenciesFirst

/-- All that a placed unit depends on through others was placed. -/
theorem reached (first : workspace.DependenciesFirst placed) (member : id ∈ placed)
    (leads : ReflTransGen workspace.DependsOn id other) : other ∈ placed := by
  induction leads with
  | refl => exact member
  | tail _ depends ih => exact first.provided _ ih _ depends

/-- A placed unit has units before it to depend on, so it reaches no cycle. -/
theorem not_reachesCycle (first : workspace.DependenciesFirst placed) :
    ∀ id ∈ placed, ¬workspace.ReachesCycle id := by
  induction placed using List.reverseRecOn with
  | nil => exact fun _ member => absurd member List.not_mem_nil
  | append_singleton placed last ih =>
    have earlier := ih first.front
    intro id member ⟨looping, leads, cycle⟩
    rcases List.mem_append.mp member with before | here
    · exact earlier id before ⟨looping, leads, cycle⟩
    · obtain rfl := List.mem_singleton.mp here
      rcases leads.cases_head with rfl | ⟨next, depends, leads⟩
      · obtain ⟨next, depends, back⟩ := TransGen.head'_iff.mp cycle
        exact earlier next (first.last.provided next depends) ⟨_, back, cycle⟩
      · exact earlier next (first.last.provided next depends) ⟨looping, leads, cycle⟩

/-- What a unit depends on through others comes before it. -/
theorem precedes (first : workspace.DependenciesFirst placed) (member : id ∈ placed)
    (depends : TransGen workspace.DependsOn id other) : [other, id].Sublist placed := by
  induction placed using List.reverseRecOn with
  | nil => cases member
  | append_singleton placed last ih =>
    rcases List.mem_append.mp member with before | here
    · exact (ih first.front before).trans (List.sublist_append_left _ _)
    · obtain rfl := List.mem_singleton.mp here
      obtain ⟨next, direct, rest⟩ := TransGen.head'_iff.mp depends
      have found := first.front.reached (first.last.provided next direct) rest
      exact (List.singleton_sublist.mpr found).append (List.Sublist.refl _)

end DependenciesFirst

namespace LeastFirst

/-- Where another order of the units with dependencies first goes its own way, it takes a greater
unit. -/
theorem le (least : workspace.LeastFirst placed) (first : workspace.DependenciesFirst others)
    (complete : ∀ id ∈ workspace.ids, id ∈ others) : placed ≤ others := by
  refine not_lt.mp fun less => ?_
  rcases List.lt_iff_exists.mp less with ⟨-, shorter⟩ | ⟨index, here, there, agree, less⟩
  · have known := least.dependenciesFirst.registered
    have bounded := (least.dependenciesFirst.nodup.subperm fun id member =>
      complete id (known id member)).length_le
    omega
  · have same : others.take index = placed.take index :=
      List.ext_getElem (by simp; omega) fun at_ before also => by
        simpa using agree at_ (by simp at before; omega)
    have start := List.take_append_getElem here ▸ List.take_prefix (index + 1) others
    have next := first _ _ start
    rw [same] at next
    have fewest := (least (placed.take index) placed[index]
      (List.take_append_getElem there ▸ List.take_prefix (index + 1) placed)).2 next
    exact fewest.not_gt less

theorem eq_of_complete (least : workspace.LeastFirst placed) (also : workspace.LeastFirst others)
    (complete : ∀ id ∈ workspace.ids, id ∈ placed) (too : ∀ id ∈ workspace.ids, id ∈ others) :
    placed = others :=
  le_antisymm (least.le also.dependenciesFirst too) (also.le least.dependenciesFirst complete)

end LeastFirst

/-- Of units that each depend on another one of them, all reach a cycle, since they are finitely
many. -/
theorem reachesCycle_of_stuck {stuck : List String}
    (each : ∀ id ∈ stuck, ∃ other ∈ stuck, workspace.DependsOn id other) :
    ∀ id ∈ stuck, workspace.ReachesCycle id := by
  intro id member
  by_contra none
  let Reached := {other // other ∈ stuck ∧ ReflTransGen workspace.DependsOn id other}
  let below (later earlier : Reached) : Prop := TransGen workspace.DependsOn earlier.1 later.1
  have : Finite Reached :=
    (stuck.finite_toSet.subset fun _ among => among.1 : Set.Finite {other | _ ∧ _}).to_subtype
  have : IsTrans Reached below := ⟨fun _ _ _ first second => second.trans first⟩
  have : Std.Irrefl below := ⟨fun reached cycle => none ⟨reached.1, reached.2.2, cycle⟩⟩
  have descends := Finite.wellFounded_of_trans_of_irrefl below
  obtain ⟨⟨last, among, leads⟩, -, lowest⟩ :=
    descends.has_min Set.univ ⟨⟨id, member, .refl⟩, trivial⟩
  obtain ⟨next, also, depends⟩ := each last among
  exact lowest ⟨next, also, leads.tail depends⟩ trivial (.single depends)

/-- A unit that is not placed waits for another one that is not. -/
theorem exists_unplaced (known : id ∈ workspace.ids) (unplaced : id ∉ workspace.placement) :
    ∃ other ∈ workspace.ids, other ∉ workspace.placement ∧ workspace.DependsOn id other := by
  by_contra none
  refine workspace.placement_complete.2 id ⟨known, unplaced, fun other depends => ?_⟩
  by_contra missing
  exact none ⟨other, depends.registered.2, missing, depends⟩

/-- The units that are placed are those that reach no cycle. -/
theorem mem_placement_iff (known : id ∈ workspace.ids) :
    id ∈ workspace.placement ↔ ¬workspace.ReachesCycle id := by
  constructor
  · exact fun placed => workspace.placement_complete.1.dependenciesFirst.not_reachesCycle id placed
  · intro free
    by_contra unplaced
    have each : ∀ id ∈ workspace.ids.filter (· ∉ workspace.placement),
        ∃ other ∈ workspace.ids.filter (· ∉ workspace.placement), workspace.DependsOn id other := by
      intro id member
      obtain ⟨known, unplaced⟩ := List.mem_filter.mp member
      obtain ⟨other, also, missing, depends⟩ := exists_unplaced known (by simpa using unplaced)
      exact ⟨other, List.mem_filter.mpr ⟨also, by simpa using missing⟩, depends⟩
    exact free (reachesCycle_of_stuck each id
      (List.mem_filter.mpr ⟨known, by simpa using unplaced⟩))

/-- A cycle goes through registered units. -/
theorem ReachesCycle.registered (reaches : workspace.ReachesCycle id) : id ∈ workspace.ids := by
  obtain ⟨looping, leads, cycle⟩ := reaches
  rcases leads.cases_head with rfl | ⟨next, depends, -⟩
  · obtain ⟨next, depends, -⟩ := TransGen.head'_iff.mp cycle
    exact depends.registered.1
  · exact depends.registered.1

/-- The units that cannot be placed. -/
theorem mem_stuck_iff : id ∈ workspace.ids.filter (· ∉ workspace.placement) ↔
    workspace.ReachesCycle id := by
  rw [List.mem_filter, decide_eq_true_eq]
  constructor
  · intro ⟨known, unplaced⟩
    exact not_not.mp fun free => unplaced ((mem_placement_iff known).mpr free)
  · intro reaches
    have known := reaches.registered
    exact ⟨known, fun placed => (mem_placement_iff known).mp placed reaches⟩

section

variable (known : ∀ id ∈ requested.getD workspace.ids, id ∈ workspace.ids)

include known

/-- An order of registered units fails only for want of a place for some units. -/
theorem order_of_known : workspace.order requested =
    if workspace.ids.filter (· ∉ workspace.placement) = [] then
      .ok (workspace.placement.filter (· ∈ requested.getD workspace.ids))
    else .error (.cycle (idSet (workspace.ids.filter (· ∉ workspace.placement)))) := by
  have found : (requested.getD workspace.ids).find? (· ∉ workspace.ids) = none :=
    List.find?_eq_none.mpr fun id selected => by simpa using known id selected
  unfold order
  simp only [found, List.isEmpty_iff]

/-- Without cycles the requested units have an order, which holds each of them once, and each of
them after all that it depends on, also through units that are not requested. It is the requested
part of the one order of all units in which each next unit is the least of those that can be placed,
and which is the least of all orders with dependencies first. -/
theorem order_leastFirst (acyclic : ∀ id, ¬TransGen workspace.DependsOn id id) :
    ∃ whole order, workspace.order requested = .ok order ∧
      (workspace.LeastFirst whole ∧ ∀ id ∈ workspace.ids, id ∈ whole) ∧
      (∀ other, workspace.LeastFirst other → (∀ id ∈ workspace.ids, id ∈ other) → other = whole) ∧
      (∀ other, workspace.DependenciesFirst other → (∀ id ∈ workspace.ids, id ∈ other) →
        whole ≤ other) ∧
      order = whole.filter (· ∈ requested.getD workspace.ids) ∧
      order.Nodup ∧ (∀ id, id ∈ order ↔ id ∈ requested.getD workspace.ids) ∧
      ∀ id ∈ order, ∀ other ∈ order, TransGen workspace.DependsOn id other →
        [other, id].Sublist order := by
  have least := workspace.placement_complete.1
  have complete : ∀ id ∈ workspace.ids, id ∈ workspace.placement := fun id known =>
    (mem_placement_iff known).mpr fun ⟨looping, _, cycle⟩ => acyclic looping cycle
  have none : workspace.ids.filter (· ∉ workspace.placement) = [] :=
    List.filter_eq_nil_iff.mpr fun id known => by simpa using complete id known
  have ordered := order_of_known known
  rw [if_pos none] at ordered
  refine ⟨_, _, ordered, ⟨least, complete⟩, fun other also too => ?_, fun other first too => ?_,
    rfl, nodup_order ordered, mem_order ordered, fun id later other earlier depends => ?_⟩
  · exact also.eq_of_complete least too complete
  · exact least.le first too
  · -- Both are requested, so that they stay in this order when the others are left out.
    have before := (least.dependenciesFirst.precedes (List.mem_filter.mp later).1 depends).filter
      (· ∈ requested.getD workspace.ids)
    rwa [List.filter_eq_self.mpr] at before
    simpa using ⟨(mem_order ordered other).mp earlier, (mem_order ordered id).mp later⟩

/-- Registered units, whichever are requested, cannot be ordered exactly if some unit depends on
itself, at once or through others. The message then lists the units whose dependencies lead to such
a unit, in ascending order and each once. -/
theorem order_finds_cycles :
    ((∃ order, workspace.order requested = .ok order) ↔
        ¬∃ id, TransGen workspace.DependsOn id id) ∧
      ((∃ ids, workspace.order requested = .error (.cycle ids)) ↔
        ∃ id, TransGen workspace.DependsOn id id) ∧
      ∀ ids, workspace.order requested = .error (.cycle ids) →
        (WorkspaceFault.cycle ids).message =
            "Cannot order units: dependency cycle among " ++ ", ".intercalate ids ∧
          ids.Pairwise (· < ·) ∧ ∀ id, id ∈ ids ↔ workspace.ReachesCycle id := by
  have stuck : workspace.ids.filter (· ∉ workspace.placement) = [] ↔
      ¬∃ id, TransGen workspace.DependsOn id id := by
    rw [List.eq_nil_iff_forall_not_mem]
    constructor
    · intro none ⟨id, cycle⟩
      exact none id (mem_stuck_iff.mpr ⟨id, .refl, cycle⟩)
    · intro acyclic id member
      obtain ⟨looping, -, cycle⟩ := mem_stuck_iff.mp member
      exact acyclic ⟨looping, cycle⟩
  rw [order_of_known known]
  by_cases none : workspace.ids.filter (· ∉ workspace.placement) = []
  · rw [if_pos none]
    exact ⟨iff_of_true ⟨_, rfl⟩ (stuck.mp none),
      iff_of_false nofun (stuck.mp none), nofun⟩
  · rw [if_neg none]
    have cyclic := not_not.mp (mt stuck.mpr none)
    refine ⟨iff_of_false nofun (not_not_intro cyclic), iff_of_true ⟨_, rfl⟩ cyclic, ?_⟩
    intro ids failed
    obtain rfl := WorkspaceFault.cycle.inj (Except.error.inj failed)
    exact ⟨rfl, pairwise_idSet _, fun id => mem_idSet.trans mem_stuck_iff⟩

end

end Workspace

/-! ### Layers -/

namespace Layers

def workspace (units : List (String × List String)) : Workspace where
  units := units.map fun (id, dependsOn) => ⟨{ id, dependsOn }, { id, dependsOn }⟩

/-- One unit depends on another one through a third, which it names twice. -/
def layered : Workspace :=
  workspace [("shell", ["store", "outside", "store"]), ("store", ["core"]), ("core", []),
    ("tools", ["core"])]

theorem layered_acyclic : ∀ id, ¬Relation.TransGen layered.DependsOn id id := by
  intro id cycle
  have reaches : layered.ReachesCycle id := ⟨id, .refl, cycle⟩
  have placed : ∀ id ∈ layered.ids, id ∈ layered.placement := by
    have placed : layered.placement = ["core", "store", "shell", "tools"] := by cbv
    rw [placed]
    decide
  exact (Workspace.mem_placement_iff reaches.registered).mp (placed id reaches.registered) reaches

/-- The unit in between is not requested. -/
theorem order_layered :
    layered.order (some ["tools", "shell", "core", "shell"]) = .ok ["core", "shell", "tools"] ∧
      (∃ whole, layered.LeastFirst whole ∧
        ["core", "shell", "tools"] = whole.filter (· ∈ ["tools", "shell", "core", "shell"])) ∧
      ["core", "shell"].Sublist ["core", "shell", "tools"] := by
  have found : layered.order (some ["tools", "shell", "core", "shell"]) =
    .ok ["core", "shell", "tools"] := by cbv
  have depends : Relation.TransGen layered.DependsOn "shell" "core" :=
    .tail (.single (Workspace.mem_dependencies.mp (show "store" ∈ _ by decide +kernel)))
      (Workspace.mem_dependencies.mp (by decide +kernel))
  obtain ⟨whole, order, ordered, ⟨least, -⟩, -, -, part, -, -, before⟩ :=
    @Workspace.order_leastFirst layered (some ["tools", "shell", "core", "shell"]) (by decide)
      layered_acyclic
  obtain rfl := Except.ok.inj (found.symm.trans ordered)
  exact ⟨found, ⟨whole, least, part⟩, before "shell" (by decide) "core" (by decide) depends⟩

/-- Two units depend on each other, and a third one on them. -/
def looped : Workspace :=
  workspace [("b", ["a"]), ("free", []), ("a", ["b"]), ("c", ["free", "a"])]

theorem order_looped :
    looped.order (some ["free"]) = .error (.cycle ["a", "b", "c"]) ∧
      looped.ReachesCycle "c" ∧ ¬looped.ReachesCycle "free" ∧
      ∃ id, Relation.TransGen looped.DependsOn id id := by
  have failed : looped.order (some ["free"]) = .error (.cycle ["a", "b", "c"]) := by cbv
  obtain ⟨-, cyclic, listed⟩ := @Workspace.order_finds_cycles looped (some ["free"]) (by decide)
  obtain ⟨-, -, exactly⟩ := listed _ failed
  exact ⟨failed, (exactly "c").mp (by decide), mt (exactly "free").mpr (by decide),
    cyclic.mp ⟨_, failed⟩⟩

end Layers

end FixLoop
