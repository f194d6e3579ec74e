import FixLoop.Formatting
import FixLoop.Plugin.Combine
import FixLoop.Session.Basic

/-!
What combinations of callbacks inherit. Merging the fixes of a batch asks for candidates and says
how many had to wait, and does nothing else; so whatever holds of the candidates, and survives
asking one thing after another, holds of the combination. It is the same with formatting, which asks
for one document after another.
-/

namespace FixLoop

variable {σ α β : Type}

/-- One callback after another is carried out like that, and not beyond a failure. -/
theorem Callback.carryOut_andThen (callback : Callback σ α) (next : α → Callback σ β) :
    ∀ session, (callback.andThen next).carryOut session =
      match callback.carryOut session with
      | (.ok value, middle) => (next value).carryOut middle
      | (.error failure, middle) => (.error failure, middle) := by
  induction callback with
  | answer value => exact fun _ => rfl
  | fail failure => exact fun _ => rfl
  | look ask ih => exact fun session => ih _ session
  | retrieve ask ih => exact fun session => ih _ session
  | remember memory rest ih => exact fun session => ih _
  | edit unitId version edits ask ih =>
    intro session
    simp only [andThen, carryOut]
    cases session.workspace.tryEdit unitId version edits with
    | error fault => rfl
    | ok answer => exact ih _ _
  | cancel rest ih =>
    intro session
    simp only [andThen, carryOut]
    cases session.cancellation.request? with
    | none => rfl
    | some cancellation => exact ih _
  | defer count id rest ih => exact fun session => ih _

/-- Whether a property of callbacks survives asking for one thing after another. -/
structure Callback.Closed (good : (α : Type) → Callback σ α → Prop) : Prop where
  answer : ∀ (α : Type) (value : α), good α (.answer value)
  andThen : ∀ (α β : Type) (callback : Callback σ α) (next : α → Callback σ β), good α callback →
    (∀ value, good β (next value)) → good β (callback.andThen next)
  defer : ∀ (α : Type) (count : Nat) (id : String) (rest : Callback σ α), good α rest →
    good α (.defer count id rest)

namespace Callback.Closed

variable {good : (α : Type) → Callback σ α → Prop}

theorem withKey (closed : Closed good) (key : String) {candidates : Candidates σ}
    (each : ∀ candidate ∈ candidates, good _ candidate) : good _ (candidates.withKey key) := by
  induction candidates with
  | nil => exact closed.answer _ _
  | cons next rest ih =>
    refine closed.andThen _ _ _ _ (each next (by simp)) fun action => ?_
    cases action with
    | none => exact closed.answer _ _
    | some action =>
      dsimp only
      split
      · exact closed.answer _ _
      · exact ih fun other member => each other (by simp [member])

variable {offers : Offers σ} {context : FixAllContext}

theorem merge (closed : Closed good)
    (each : ∀ diagnostic, ∀ candidate ∈ offers diagnostic context.unit, good _ candidate)
    (diagnostics : List Diagnostic) :
    ∀ merged, good _ (offers.merge context diagnostics merged) := by
  induction diagnostics with
  | nil => exact fun _ => closed.answer _ _
  | cons diagnostic rest ih =>
    intro merged
    unfold Offers.merge
    split
    · refine closed.andThen _ _ _ _ (closed.withKey _ (each diagnostic)) fun action => ?_
      cases action with
      | none => exact ih _
      | some action => exact ih _
    · exact ih _

theorem fixAll (closed : Closed good)
    (each : ∀ diagnostic, ∀ candidate ∈ offers diagnostic context.unit, good _ candidate) :
    good _ (offers.fixAll context) := by
  refine closed.andThen _ _ _ _ (closed.merge each _ _) fun merged => ?_
  dsimp only
  split
  · exact closed.answer _ _
  · exact closed.defer _ _ _ _ (closed.answer _ _)

theorem formats (closed : Closed good) {formatter : Formatter σ}
    (each : ∀ unit document, good _ (formatter.format unit document)) (unit : SourceUnit) :
    good _ (Formatting.edits formatter unit) := by
  unfold Formatting.edits
  split
  · induction unit.documents with
    | nil => exact closed.answer _ _
    | cons document rest ih =>
      unfold Formatting.documentEdits
      split
      · exact ih
      · refine closed.andThen _ _ _ _ (each unit document) fun text => ?_
        refine closed.andThen _ _ _ _ ih fun more => ?_
        split <;> exact closed.answer _ _
  · exact closed.answer _ _

end Callback.Closed

end FixLoop
