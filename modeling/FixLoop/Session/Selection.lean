import FixLoop.Config
import FixLoop.Plugin.Basic
import FixLoop.Session.Basic

/-!
Selecting the fix for a batch of one identifier. Fixers are asked in registration order, each for
the first diagnostic for which it has one clear fix; of each sequence of candidates no more is
computed than shows whether it is clear. The first fixer with a clear fix then fixes the batch,
unless another one would fix it differently and the configuration does not settle which.
-/

namespace FixLoop

namespace Selection

open Run

variable {σ : Type}

/-- What a fixer's candidates for one diagnostic come to. -/
inductive Offer where
  | nothing
  | clear (action : FixAction)
  /-- The first two candidates have different keys. -/
  | unclear (first second : String)
  deriving Repr, DecidableEq

/-- Demands candidates until one has a key. -/
def demandKey (fixer : Fixer σ) (key : String) : Candidates σ → Run σ (Option FixAction)
  | [] => do
    note (.demanded fixer.fullName)
    return none
  | next :: rest => do
    note (.demanded fixer.fullName)
    match ← call next with
    | none => return none
    | some action => if action.key = key then return some action else demandKey fixer key rest

/-- Demands the next candidate. -/
def demand (fixer : Fixer σ) : Candidates σ → Run σ (Option FixAction)
  | [] => do
    note (.demanded fixer.fullName)
    return none
  | next :: _ => do
    note (.demanded fixer.fullName)
    call next

/-- What the first two candidates come to. -/
def demandTwo (fixer : Fixer σ) (candidates : Candidates σ) : Run σ Offer := do
  match ← demand fixer candidates with
  | none => return .nothing
  | some first =>
    match ← demand fixer (candidates.drop 1) with
    | none => return .clear first
    | some second =>
      if second.key = first.key then return .clear first
      else return .unclear first.key second.key

/-- Consults a fixer about one diagnostic; a configured key is the only one that counts. -/
def consult (fixer : Fixer σ) (key? : Option String) (diagnostic : Diagnostic)
    (unit : SourceUnit) : Run σ Offer := do
  note (.consulted fixer.fullName diagnostic unit)
  match key? with
  | some key => return (← demandKey fixer key (fixer.offers diagnostic unit)).elim .nothing .clear
  | none => demandTwo fixer (fixer.offers diagnostic unit)

/-- Whether a diagnostic of a batch is asked about. -/
def isRelevant (id : String) (unit : SourceUnit) (diagnostic : Diagnostic) : Bool :=
  diagnostic.id == id && (unit.document? diagnostic.location.path).isSome

/--
The first clear fix of a fixer for a diagnostic of a batch. Without one, the first pair of keys
between which it could not choose is an ambiguity. Each pair is reported once.
-/
def representative (fixer : Fixer σ) (key? : Option String) (id : String) (unit : SourceUnit) :
    List Diagnostic → List (String × String) → Run σ (Option FixAction)
  | [], [] => return none
  | [], (first, second) :: _ => throw (.ambiguous ⟨id, first, second⟩)
  | diagnostic :: rest, unclear => do
    if isRelevant id unit diagnostic then
      match ← consult fixer key? diagnostic unit with
      | .clear action => return some action
      | .nothing => representative fixer key? id unit rest unclear
      | .unclear first second =>
        if (first, second) ∈ unclear then representative fixer key? id unit rest unclear
        else
          note (.manyActions fixer.fullName id first second)
          representative fixer key? id unit rest (unclear ++ [(first, second)])
    else representative fixer key? id unit rest unclear

/-- Whether a fixer may be asked to fix an identifier. -/
def isEligible (override? : Option String) (id : String) (fixer : Fixer σ) : Bool :=
  fixer.canFixAll id && override?.all fixer.answersTo

/-- The fixer that fixes a batch, and its representative fix. -/
def choose (config : Config) (id : String) (batch : List Diagnostic) (unit : SourceUnit) :
    List (Fixer σ) → Option (Fixer σ × FixAction) → Run σ (Option (Fixer σ × FixAction))
  | [], chosen => return chosen
  | fixer :: rest, chosen => do
    checkCancelled
    let override? := config.fixerOverrides.lookup id
    if isEligible override? id fixer then
      match ← representative fixer (config.actionOverrides.lookup id) id unit batch [] with
      | none => choose config id batch unit rest chosen
      | some action =>
        match chosen with
        | none => choose config id batch unit rest (some (fixer, action))
        | some (first, winner) =>
          if override? = none ∧ action.key ≠ winner.key then
            note (.manyFixers id first.fullName fixer.fullName)
            throw (.ambiguous ⟨id, first.fullName, fixer.fullName⟩)
          else choose config id batch unit rest chosen
    else choose config id batch unit rest chosen

/-- Selects the action that fixes a batch; none if there is none. -/
def select (config : Config) (id : String) (batch : List Diagnostic) (fixers : List (Fixer σ))
    (unit : SourceUnit) : Run σ (Option FixAction) := do
  note (.selecting id batch)
  match ← choose config id batch unit fixers none with
  | none => return none
  | some (fixer, action) =>
    let context : FixAllContext := { unit, id, key := action.key, diagnostics := batch }
    note (.combining fixer.fullName context)
    let fixAll ← call (fixer.fixAll context)
    if fixAll.isNone then
      note (.notCombined fixer.fullName batch.length id)
    return fixAll

end Selection

end FixLoop
