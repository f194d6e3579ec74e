import FixLoop.Plugin.Basic

/-!
Combining the fixes of a batch into one action. All edits are computed against one snapshot, so a
fix that overlaps one accepted before it waits for another pass.
-/

namespace FixLoop

namespace Candidates

variable {σ : Type}

/-- The first candidate with a key. -/
def withKey (key : String) : Candidates σ → Callback σ (Option FixAction)
  | [] => .answer none
  | next :: rest => next.andThen fun
    | none => .answer none
    | some action => if action.key = key then .answer (some action) else withKey key rest

end Candidates

/-- Edits accepted for a batch, and how many fixes had to wait. -/
structure Merge where
  accepted : List TextEdit := []
  waiting : Nat := 0
  deriving Repr, DecidableEq

namespace Merge

/-- Whether some of the edits of a fix overlap an edit that was accepted. -/
def clashes (merge : Merge) (edits : List TextEdit) : Bool :=
  edits.any fun edit => merge.accepted.any edit.overlaps

/-- Takes all edits of a fix in, or none. -/
def add (merge : Merge) (edits : List TextEdit) : Merge :=
  if merge.clashes edits then { merge with waiting := merge.waiting + 1 }
  else { merge with accepted := merge.accepted ++ edits }

/-- The action that makes all accepted edits, if there are any. -/
def action? (merge : Merge) (context : FixAllContext) : Option FixAction :=
  if merge.accepted.isEmpty then none
  else some
    { title := "Fix all '" ++ context.id ++ "'", key := context.key, edits := merge.accepted }

end Merge

/-- How the fix for one diagnostic is found. -/
abbrev Offers (σ : Type) := Diagnostic → SourceUnit → Candidates σ

namespace Offers

variable {σ : Type}

/-- Merges the fixes that have the key of a batch, diagnostic by diagnostic. -/
def merge (offers : Offers σ) (context : FixAllContext) :
    List Diagnostic → Merge → Callback σ Merge
  | [], merged => .answer merged
  | diagnostic :: rest, merged =>
    if diagnostic.id = context.id then
      ((offers diagnostic context.unit).withKey context.key).andThen fun
        | none => offers.merge context rest merged
        | some action => offers.merge context rest (merged.add action.edits)
    else offers.merge context rest merged

/-- Fixes a batch by merging what is offered for each of its diagnostics. -/
def fixAll (offers : Offers σ) (context : FixAllContext) : Callback σ (Option FixAction) :=
  (offers.merge context context.diagnostics {}).andThen fun merged =>
    let answer := Callback.answer (merged.action? context)
    if merged.waiting = 0 then answer else .defer merged.waiting context.id answer

end Offers

end FixLoop
