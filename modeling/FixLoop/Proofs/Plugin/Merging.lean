import FixLoop.Plugin.Combine
import FixLoop.Proofs.Documents
import FixLoop.Proofs.Splicing
import FixLoop.Session.Basic

/-!
Merging the fixes of a batch that makes one edit for each diagnostic. The edits are taken in the
order of the diagnostics, each unless it overlaps one that was taken before it; so no two of those
taken overlap, and each of the others overlaps one of them.
-/

namespace FixLoop

namespace TextEdit

/-- Whether edits are chosen from others so that no two overlap and no other one could be added. -/
structure Accepted (offered accepted : List TextEdit) : Prop where
  subset : accepted ⊆ offered
  apart : accepted.Pairwise Apart
  covers : ∀ edit ∈ offered, ∃ taken ∈ accepted, edit = taken ∨ edit.overlaps taken = true

variable {offered accepted : List TextEdit} {edit : TextEdit}

namespace Accepted

theorem nil : Accepted [] [] where
  subset := List.Subset.refl _
  apart := .nil
  covers := nofun

/-- An edit that overlaps none of those taken is taken, too. -/
theorem take (accepts : Accepted offered accepted)
    (apart : ∀ taken ∈ accepted, edit.overlaps taken = false) :
    Accepted (offered ++ [edit]) (accepted ++ [edit]) where
  subset := List.append_subset.mpr ⟨List.subset_append_of_subset_left _ accepts.subset,
    List.subset_append_right _ _⟩
  apart := by
    refine List.pairwise_append.mpr ⟨accepts.apart, List.pairwise_singleton _ _, ?_⟩
    intro taken member other single
    rw [List.mem_singleton.mp single]
    exact Apart.symm (apart taken member)
  covers := by
    intro other member
    rcases List.mem_append.mp member with old | new
    · obtain ⟨taken, among, covered⟩ := accepts.covers other old
      exact ⟨taken, List.mem_append_left _ among, covered⟩
    · exact ⟨edit, by simp, .inl (List.mem_singleton.mp new)⟩

/-- An edit that overlaps one of those taken waits. -/
theorem wait (accepts : Accepted offered accepted)
    (clash : ∃ taken ∈ accepted, edit.overlaps taken = true) :
    Accepted (offered ++ [edit]) accepted where
  subset := fun _ member => List.mem_append_left _ (accepts.subset member)
  apart := accepts.apart
  covers := by
    intro other member
    rcases List.mem_append.mp member with old | new
    · exact accepts.covers other old
    · obtain ⟨taken, among, overlap⟩ := clash
      exact ⟨taken, among, .inr (List.mem_singleton.mp new ▸ overlap)⟩

theorem ne_nil (accepts : Accepted offered accepted) (nonempty : offered ≠ []) : accepted ≠ [] := by
  obtain ⟨edit, rest, rfl⟩ := List.exists_cons_of_ne_nil nonempty
  obtain ⟨taken, among, -⟩ := accepts.covers edit List.mem_cons_self
  exact List.ne_nil_of_mem among

/-- Edits of different documents do not overlap, so each document can be looked at alone. -/
theorem editsOf (accepts : Accepted offered accepted) (path : String) :
    Accepted (SourceUnit.editsOf offered path) (SourceUnit.editsOf accepted path) where
  subset := List.filter_subset _ accepts.subset
  apart := accepts.apart.filter _
  covers := by
    intro edit member
    obtain ⟨among, own⟩ := List.mem_filter.mp member
    obtain ⟨taken, held, covered⟩ := accepts.covers edit among
    refine ⟨taken, List.mem_filter.mpr ⟨held, ?_⟩, covered⟩
    rcases covered with rfl | overlap
    · exact own
    · simp only [overlaps, Bool.and_eq_true, beq_iff_eq] at overlap
      rwa [← overlap.1]

end Accepted

end TextEdit

namespace Merge

open TextEdit

/-- Takes in fixes of one edit each. -/
def addEach (merge : Merge) (edits : List TextEdit) : Merge :=
  edits.foldl (fun merge edit => merge.add [edit]) merge

theorem accepted_add {offered : List TextEdit} {merge : Merge}
    (accepts : Accepted offered merge.accepted) (edit : TextEdit) :
    Accepted (offered ++ [edit]) (merge.add [edit]).accepted := by
  have clashes : merge.clashes [edit] = true ↔
      ∃ taken ∈ merge.accepted, edit.overlaps taken = true := by
    simp [Merge.clashes]
  unfold Merge.add
  split
  · rename_i clash
    exact accepts.wait (clashes.mp clash)
  · rename_i free
    refine accepts.take fun taken member => ?_
    by_contra overlap
    exact free (clashes.mpr ⟨taken, member, by simpa using overlap⟩)

theorem accepted_addEach {edits offered : List TextEdit} {merge : Merge}
    (accepts : Accepted offered merge.accepted) :
    Accepted (offered ++ edits) (merge.addEach edits).accepted := by
  induction edits generalizing offered merge with
  | nil =>
    rw [List.append_nil]
    exact accepts
  | cons edit rest ih =>
    have next := ih (accepted_add accepts edit)
    rwa [List.append_assoc] at next

end Merge

namespace Offers

variable {σ : Type} {offers : Offers σ} {context : FixAllContext} {edit : Diagnostic → TextEdit}

/-- Whether a diagnostic of a batch is offered one fix with the key of the batch, which makes one
edit. -/
def Makes (offers : Offers σ) (context : FixAllContext) (edit : Diagnostic → TextEdit)
    (diagnostic : Diagnostic) : Prop :=
  diagnostic.id = context.id ∧ ∃ title, offers diagnostic context.unit =
    [.answer (some { title, key := context.key, edits := [edit diagnostic] })]

theorem merge_eq {diagnostics : List Diagnostic} {merged : Merge}
    (each : ∀ diagnostic ∈ diagnostics, offers.Makes context edit diagnostic) :
    offers.merge context diagnostics merged =
      .answer (merged.addEach (diagnostics.map edit)) := by
  induction diagnostics generalizing merged with
  | nil => rfl
  | cons diagnostic rest ih =>
    obtain ⟨own, title, offered⟩ := each diagnostic List.mem_cons_self
    rw [merge, if_pos own, offered, Candidates.withKey, Callback.andThen]
    dsimp only
    rw [if_pos rfl]
    exact ih fun other member => each other (List.mem_cons_of_mem _ member)

/-- A batch of diagnostics with one edit each is fixed by an action that makes the accepted ones. -/
theorem fixAll_of_makes (found : context.diagnostics ≠ [])
    (each : ∀ diagnostic ∈ context.diagnostics, offers.Makes context edit diagnostic) :
    ∃ action : FixAction, action.edits ≠ [] ∧
      TextEdit.Accepted (context.diagnostics.map edit) action.edits ∧
      ∀ session : Session σ, ∃ journal, (offers.fixAll context).carryOut session =
        (.ok (some action), { session with journal }) := by
  let merged := Merge.addEach {} (context.diagnostics.map edit)
  have start : TextEdit.Accepted [] (Merge.accepted {}) := .nil
  have accepts : TextEdit.Accepted (context.diagnostics.map edit) merged.accepted :=
    Merge.accepted_addEach start
  have nonempty : merged.accepted ≠ [] := accepts.ne_nil (by simpa using found)
  let action : FixAction := {
    title := "Fix all '" ++ context.id ++ "'", key := context.key, edits := merged.accepted }
  have acted : merged.action? context = some action := by
    rw [Merge.action?, if_neg (by simpa using nonempty)]
  refine ⟨action, nonempty, accepts, fun session => ?_⟩
  rw [fixAll, merge_eq each, Callback.andThen]
  dsimp only
  rw [acted]
  split
  · exact ⟨_, rfl⟩
  · exact ⟨_, rfl⟩

/-- Fixes with another key than that of the batch are not taken. -/
theorem merge_of_strange {diagnostics : List Diagnostic} {merged : Merge}
    (each : ∀ diagnostic ∈ diagnostics, ∃ action : FixAction,
      offers diagnostic context.unit = [.answer (some action)] ∧ action.key ≠ context.key) :
    offers.merge context diagnostics merged = .answer merged := by
  induction diagnostics with
  | nil => rfl
  | cons diagnostic rest ih =>
    have others := ih fun other member => each other (List.mem_cons_of_mem _ member)
    obtain ⟨action, offered, strange⟩ := each diagnostic List.mem_cons_self
    rw [merge]
    split
    · rw [offered, Candidates.withKey, Callback.andThen]
      dsimp only
      rw [if_neg strange]
      exact others
    · exact others

theorem fixAll_of_strange
    (each : ∀ diagnostic ∈ context.diagnostics, ∃ action : FixAction,
      offers diagnostic context.unit = [.answer (some action)] ∧ action.key ≠ context.key) :
    offers.fixAll context = .answer none := by
  rw [fixAll, merge_of_strange each]
  rfl

end Offers

end FixLoop
