import FixLoop.Proofs.Session.Endless

/-!
Selecting a fix, whatever the order of the fixers. If fixers are functions of what they are asked,
each of them has, for a batch, one clear fix, or cannot choose, or has nothing to offer. Selecting
goes through the fixers one after another and stops at the first that shows an ambiguity; but
whether there is one to be found does not depend on who is asked first, and if there is none, then
all the fixes that are claimed share one key.
-/

namespace FixLoop

variable {σ α β : Type}

/-- Whether a callback answers a value in every session, and changes neither the workspace nor the
signal. -/
def Callback.Gives (callback : Callback σ α) (value : α) : Prop :=
  ∀ session : Session σ, (callback.carryOut session).1 = .ok value ∧
    (callback.carryOut session).2.workspace = session.workspace ∧
    (callback.carryOut session).2.cancellation = session.cancellation

namespace Run

/-- Whether a step ended with a value while nothing asked it to stop, or, if there is none to end
with, by an ambiguity. -/
def Meets (verdict : Option α) : EStateM.Result Fault (Session σ) α → Prop
  | .ok value last => verdict = some value ∧ last.cancellation.isRequested = false
  | .error fault _ => verdict = none ∧ ∃ ambiguity, fault = .ambiguous ambiguity

/-- Whether a step ends so in every session that is not asked to stop. -/
def Settles (step : Run σ α) (verdict : Option α) : Prop :=
  ∀ session, session.cancellation.isRequested = false → Meets verdict (step session)

namespace Settles

variable {step : Run σ α} {next : α → Run σ β} {value : α} {verdict : Option β}

theorem pure (value : α) : (Pure.pure value : Run σ α).Settles (some value) :=
  fun _ running => ⟨rfl, running⟩

theorem ambiguous (ambiguity : Ambiguity) :
    (throw (.ambiguous ambiguity) : Run σ α).Settles none :=
  fun _ _ => ⟨rfl, ambiguity, rfl⟩

theorem exists_ok (settles : step.Settles (some value)) {session : Session σ}
    (running : session.cancellation.isRequested = false) :
    ∃ last, step session = .ok value last ∧ last.cancellation.isRequested = false := by
  have met := settles session running
  cases ran : step session with
  | ok given last =>
    rw [ran] at met
    cases met.1
    exact ⟨last, rfl, met.2⟩
  | error fault last =>
    rw [ran] at met
    cases met.1

theorem exists_ambiguous (settles : step.Settles none) {session : Session σ}
    (running : session.cancellation.isRequested = false) :
    ∃ ambiguity last, step session = .error (.ambiguous ambiguity) last := by
  have met := settles session running
  cases ran : step session with
  | ok given last =>
    rw [ran] at met
    cases met.1
  | error fault last =>
    rw [ran] at met
    obtain ⟨-, ambiguity, rfl⟩ := met
    exact ⟨ambiguity, last, rfl⟩

theorem bind (first : step.Settles (some value)) (rest : (next value).Settles verdict) :
    (step >>= next).Settles verdict := by
  intro session running
  obtain ⟨middle, ran, still⟩ := first.exists_ok running
  rw [bind_of_ok ran]
  exact rest middle still

theorem bind_none (first : step.Settles none) : (step >>= next).Settles none := by
  intro session running
  obtain ⟨ambiguity, last, failed⟩ := first.exists_ambiguous running
  rw [bind_of_error failed]
  exact ⟨rfl, ambiguity, rfl⟩

theorem note (event : Event) : (note event : Run σ Unit).Settles (some ()) :=
  fun _ running => ⟨rfl, running⟩

theorem checkCancelled : (checkCancelled : Run σ Unit).Settles (some ()) := by
  intro session running
  rw [checkCancelled_eq_ok.mpr ⟨running, rfl⟩]
  exact ⟨rfl, running⟩

theorem call {callback : Callback σ α} (answers : callback.Gives value) :
    (call callback).Settles (some value) := by
  intro session running
  obtain ⟨answered, -, still⟩ := answers session
  rw [call_eq_ok.mpr (Prod.ext answered rfl)]
  exact ⟨rfl, still ▸ running⟩

end Settles

end Run

namespace Selection

open Run

/-! ### Fixers that are functions -/

/-- The candidates that come before the first step without one. -/
inductive Yields : Candidates σ → List FixAction → Prop
  | nil : Yields [] []
  | stop {next : Callback σ (Option FixAction)} {rest : Candidates σ}
      (answers : next.Gives none) : Yields (next :: rest) []
  | more {next : Callback σ (Option FixAction)} {rest : Candidates σ} {action : FixAction}
      {actions : List FixAction} (answers : next.Gives (some action))
      (others : Yields rest actions) : Yields (next :: rest) (action :: actions)

theorem Yields.exists_of_isFunction {candidates : Candidates σ}
    (functions : ∀ candidate ∈ candidates, candidate.IsFunction) :
    ∃ actions, Yields candidates actions := by
  induction candidates with
  | nil => exact ⟨[], .nil⟩
  | cons next rest ih =>
    obtain ⟨answer, answers⟩ := functions next List.mem_cons_self
    cases answer with
    | none => exact ⟨[], .stop answers⟩
    | some action =>
      obtain ⟨actions, others⟩ := ih fun other member => functions other (by simp [member])
      exact ⟨action :: actions, .more answers others⟩

/-- A fixer whose candidates and combined fixes depend on nothing but what it is asked. -/
structure PureFixer (σ : Type) extends Fixer σ where
  candidates : Diagnostic → SourceUnit → List FixAction
  combined : FixAllContext → Option FixAction
  yields : ∀ diagnostic unit, Yields (offers diagnostic unit) (candidates diagnostic unit)
  answers : ∀ context, (fixAll context).Gives (combined context)

/-- Every fixer that calls nothing but functions is one. -/
theorem PureFixer.exists_of_isFunction {fixer : Fixer σ}
    (offers : ∀ diagnostic unit, ∀ candidate ∈ fixer.offers diagnostic unit, candidate.IsFunction)
    (fixAll : ∀ context, (fixer.fixAll context).IsFunction) :
    ∃ pure : PureFixer σ, pure.toFixer = fixer := by
  choose candidates yields using fun diagnostic unit =>
    Yields.exists_of_isFunction (offers diagnostic unit)
  choose combined answers using fixAll
  exact ⟨{ fixer with candidates, combined, yields, answers }, rfl⟩

/-- What the candidates for one diagnostic come to. -/
def Offer.ofCandidates : List FixAction → Offer
  | [] => .nothing
  | [action] => .clear action
  | first :: second :: _ =>
    if second.key = first.key then .clear first else .unclear first.key second.key

def Offer.clear? : Offer → Option FixAction
  | clear action => some action
  | _ => none

def Offer.isUnclear : Offer → Bool
  | unclear .. => true
  | _ => false

variable {fixer : Fixer σ} {candidates : Candidates σ} {actions : List FixAction}

theorem demand_settles (yields : Yields candidates actions) :
    (demand fixer candidates).Settles (some actions.head?) := by
  cases yields with
  | nil => exact (Settles.note _).bind (.pure _)
  | stop answers => exact (Settles.note _).bind (.call answers)
  | more answers others => exact (Settles.note _).bind (.call answers)

theorem demandTwo_settles (yields : Yields candidates actions) :
    (demandTwo fixer candidates).Settles (some (.ofCandidates actions)) := by
  refine (demand_settles yields).bind ?_
  cases yields with
  | nil => exact .pure _
  | stop answers => exact .pure _
  | @more next rest first others answers yields =>
    refine (demand_settles yields).bind ?_
    cases others with
    | nil => exact .pure _
    | cons second others =>
      by_cases same : second.key = first.key
      · simp only [List.head?_cons, Offer.ofCandidates, if_pos same]
        exact .pure _
      · simp only [List.head?_cons, Offer.ofCandidates, if_neg same]
        exact .pure _

/-! ### One fixer and a batch -/

namespace PureFixer

variable (fixer : PureFixer σ) (id : String) (unit : SourceUnit) (batch : List Diagnostic)

/-- What a fixer offers for the diagnostics of a batch about which it is asked. -/
def offered : List Offer :=
  (batch.filter (isRelevant id unit)).map fun diagnostic =>
    .ofCandidates (fixer.candidates diagnostic unit)

/-- The first clear fix. -/
def representative? : Option FixAction := (fixer.offered id unit batch).findSome? Offer.clear?

/-- Whether there are keys to choose from and no clear fix. -/
def IsAmbiguous : Prop :=
  fixer.representative? id unit batch = none ∧
    ∃ offer ∈ fixer.offered id unit batch, offer.isUnclear

instance : Decidable (fixer.IsAmbiguous id unit batch) := instDecidableAnd

/-- What a fixer says to a batch after some offers, of which none was clear. -/
def stance (offers : List Offer) (unclear : Bool) : Option (Option FixAction) :=
  match offers.findSome? Offer.clear? with
  | some action => some (some action)
  | none => if unclear || offers.any Offer.isUnclear then none else some none

variable {fixer id unit batch}

theorem consult_settles (diagnostic : Diagnostic) :
    (consult fixer.toFixer none diagnostic unit).Settles
      (some (.ofCandidates (fixer.candidates diagnostic unit))) :=
  (Settles.note _).bind (demandTwo_settles (fixer.yields diagnostic unit))

theorem representative_settles (unclear : List (String × String)) :
    (representative fixer.toFixer none id unit batch unclear).Settles
      (stance (fixer.offered id unit batch) !unclear.isEmpty) := by
  induction batch generalizing unclear with
  | nil =>
    cases unclear with
    | nil => exact .pure _
    | cons pair rest => exact .ambiguous _
  | cons diagnostic rest ih =>
    unfold representative
    by_cases relevant : isRelevant id unit diagnostic = true
    · rw [if_pos relevant, offered, List.filter_cons_of_pos relevant, List.map_cons]
      refine (consult_settles diagnostic).bind ?_
      cases offer : Offer.ofCandidates (fixer.candidates diagnostic unit) with
      | nothing => exact ih unclear
      | clear action => exact .pure _
      | unclear first second =>
        -- From here on the fixer is known to be unclear, be the pair a new one or not.
        have later (pairs : List (String × String)) (known : pairs ≠ []) :
            (representative fixer.toFixer none id unit rest pairs).Settles
              (stance (.unclear first second :: fixer.offered id unit rest) !unclear.isEmpty) := by
          have said := ih pairs
          simpa [stance, List.findSome?_cons, Offer.clear?, Offer.isUnclear, known] using said
        dsimp only
        split
        · next member => exact later unclear (List.ne_nil_of_mem member)
        · exact (Settles.note _).bind (later _ (by simp))
    · rw [if_neg relevant, offered, List.filter_cons_of_neg relevant]
      exact ih unclear

theorem representative_settles_of_some {action : FixAction}
    (first : fixer.representative? id unit batch = some action) :
    (representative fixer.toFixer none id unit batch []).Settles (some (some action)) := by
  have settles : (representative fixer.toFixer none id unit batch []).Settles
      (stance (fixer.offered id unit batch) false) := representative_settles []
  rwa [stance, show List.findSome? _ _ = _ from first] at settles

theorem representative_settles_of_none (missing : fixer.representative? id unit batch = none) :
    (representative fixer.toFixer none id unit batch []).Settles
      (if fixer.IsAmbiguous id unit batch then none else some none) := by
  have settles : (representative fixer.toFixer none id unit batch []).Settles
      (stance (fixer.offered id unit batch) false) := representative_settles []
  rw [stance, show List.findSome? _ _ = _ from missing] at settles
  simpa [IsAmbiguous, missing] using settles

end PureFixer

/-! ### All the fixers -/

/-- The fixes that fixers claim to be the one for a batch, in the order of the fixers. -/
def claims (id : String) (unit : SourceUnit) (batch : List Diagnostic)
    (fixers : List (PureFixer σ)) : List (PureFixer σ × FixAction) :=
  (fixers.filter (·.canFixAll id)).filterMap fun fixer =>
    (fixer.representative? id unit batch).map (fixer, ·)

/-- Whether a fixer that may be asked cannot choose between its own fixes. -/
def AnyAmbiguous (id : String) (unit : SourceUnit) (batch : List Diagnostic)
    (fixers : List (PureFixer σ)) : Prop :=
  ∃ fixer ∈ fixers, fixer.canFixAll id ∧ fixer.IsAmbiguous id unit batch

instance (id : String) (unit : SourceUnit) (batch : List Diagnostic)
    (fixers : List (PureFixer σ)) : Decidable (AnyAmbiguous id unit batch fixers) :=
  List.decidableBEx _ _

/-- Whether two fixes go by different keys. -/
def Differ (claims : List (PureFixer σ × FixAction)) : Prop :=
  ∃ one ∈ claims, ∃ other ∈ claims, one.2.key ≠ other.2.key

instance (claims : List (PureFixer σ × FixAction)) : Decidable (Differ claims) :=
  List.decidableBEx _ _

/-- What choosing comes to once a fix was chosen or not. -/
def verdict (id : String) (unit : SourceUnit) (batch : List Diagnostic)
    (fixers : List (PureFixer σ)) (chosen : Option (PureFixer σ × FixAction)) :
    Option (Option (PureFixer σ × FixAction)) :=
  if AnyAmbiguous id unit batch fixers ∨ Differ (chosen.toList ++ claims id unit batch fixers)
  then none else some (chosen.or (claims id unit batch fixers).head?)

variable {config : Config} {id : String} {batch : List Diagnostic} {unit : SourceUnit}
  {fixers others : List (PureFixer σ)} {fixer : PureFixer σ} {action : FixAction}
  {chosen : Option (PureFixer σ × FixAction)} {session : Session σ}

theorem mem_claims {claim : PureFixer σ × FixAction} :
    claim ∈ claims id unit batch fixers ↔ claim.1 ∈ fixers ∧ claim.1.canFixAll id = true ∧
      claim.1.representative? id unit batch = some claim.2 := by
  obtain ⟨fixer, action⟩ := claim
  simp only [claims, List.mem_filterMap, List.mem_filter, Option.map_eq_some_iff, Prod.mk.injEq]
  constructor
  · rintro ⟨other, ⟨member, able⟩, given, first, rfl, rfl⟩
    exact ⟨member, able, first⟩
  · rintro ⟨member, able, first⟩
    exact ⟨fixer, ⟨member, able⟩, action, first, rfl, rfl⟩

theorem anyAmbiguous_cons : AnyAmbiguous id unit batch (fixer :: fixers) ↔
    (fixer.canFixAll id = true ∧ fixer.IsAmbiguous id unit batch) ∨
      AnyAmbiguous id unit batch fixers :=
  List.exists_mem_cons_iff ..

theorem claims_cons_of_some (able : fixer.canFixAll id = true)
    (first : fixer.representative? id unit batch = some action) :
    claims id unit batch (fixer :: fixers) = (fixer, action) :: claims id unit batch fixers := by
  simp [claims, able, first]

/-- A fix of the same key as one that is there adds no difference. -/
theorem differ_cons_cons {one other : PureFixer σ × FixAction}
    {claims : List (PureFixer σ × FixAction)} (like : one.2.key = other.2.key) :
    Differ (other :: one :: claims) ↔ Differ (other :: claims) := by
  simp only [Differ, List.exists_mem_cons_iff]
  grind

theorem verdict_of_unable (unable : ¬fixer.canFixAll id = true) :
    verdict id unit batch (fixer :: fixers) chosen = verdict id unit batch fixers chosen := by
  have same : claims id unit batch (fixer :: fixers) = claims id unit batch fixers := by
    simp [claims, unable]
  refine if_congr (or_congr ?_ (by rw [same])) rfl (by rw [same])
  simp [anyAmbiguous_cons, unable]

theorem verdict_of_none (missing : fixer.representative? id unit batch = none)
    (decided : ¬fixer.IsAmbiguous id unit batch) :
    verdict id unit batch (fixer :: fixers) chosen = verdict id unit batch fixers chosen := by
  have same : claims id unit batch (fixer :: fixers) = claims id unit batch fixers := by
    by_cases able : fixer.canFixAll id = true <;> simp [claims, able, missing]
  refine if_congr (or_congr ?_ (by rw [same])) rfl (by rw [same])
  simp [anyAmbiguous_cons, decided]

theorem verdict_of_ambiguous (able : fixer.canFixAll id = true)
    (ambiguous : fixer.IsAmbiguous id unit batch) :
    verdict id unit batch (fixer :: fixers) chosen = none :=
  if_pos (.inl (anyAmbiguous_cons.mpr (.inl ⟨able, ambiguous⟩)))

theorem PureFixer.not_isAmbiguous (first : fixer.representative? id unit batch = some action) :
    ¬fixer.IsAmbiguous id unit batch :=
  fun ambiguous => nomatch first.symm.trans ambiguous.1

theorem verdict_of_first (able : fixer.canFixAll id = true)
    (first : fixer.representative? id unit batch = some action) :
    verdict id unit batch (fixer :: fixers) none =
      verdict id unit batch fixers (some (fixer, action)) := by
  refine if_congr (or_congr ?_ ?_) rfl ?_
  · simp [anyAmbiguous_cons, fixer.not_isAmbiguous first]
  · rw [claims_cons_of_some able first]
    rfl
  · rw [claims_cons_of_some able first]
    rfl

theorem verdict_of_unlike (able : fixer.canFixAll id = true)
    (first : fixer.representative? id unit batch = some action)
    {winner : PureFixer σ × FixAction} (unlike : action.key ≠ winner.2.key) :
    verdict id unit batch (fixer :: fixers) (some winner) = none := by
  refine if_pos (.inr ⟨(fixer, action), ?_, winner, by simp, unlike⟩)
  simp [claims_cons_of_some able first]

theorem verdict_of_like (able : fixer.canFixAll id = true)
    (first : fixer.representative? id unit batch = some action)
    {winner : PureFixer σ × FixAction} (like : action.key = winner.2.key) :
    verdict id unit batch (fixer :: fixers) (some winner) =
      verdict id unit batch fixers (some winner) := by
  refine if_congr (or_congr ?_ ?_) rfl rfl
  · simp [anyAmbiguous_cons, fixer.not_isAmbiguous first]
  · rw [claims_cons_of_some able first]
    exact differ_cons_cons like

/-- The fixer and the fix of a claim, as the run knows them. -/
def asked (claim : PureFixer σ × FixAction) : Fixer σ × FixAction := (claim.1.toFixer, claim.2)

theorem choose_settles (unforced : config.fixerOverrides.lookup id = none)
    (unkeyed : config.actionOverrides.lookup id = none) :
    ∀ chosen : Option (PureFixer σ × FixAction),
      (choose config id batch unit (fixers.map PureFixer.toFixer) (chosen.map asked)).Settles
        ((verdict id unit batch fixers chosen).map (·.map asked)) := by
  -- The induction carries the claim that stands so far, with which all later ones must agree.
  induction fixers with
  | nil =>
    intro chosen
    cases chosen with
    | none => exact .pure _
    | some winner =>
      have settled : verdict id unit batch [] (some winner) = some (some winner) :=
        if_neg (by simp [claims, AnyAmbiguous, Differ])
      rw [settled]
      exact .pure _
  | cons fixer rest ih =>
    intro chosen
    refine Settles.checkCancelled.bind ?_
    simp only [unforced, unkeyed, isEligible, Option.all_none, Bool.and_true]
    by_cases able : fixer.canFixAll id = true
    · rw [if_pos able]
      cases first : fixer.representative? id unit batch with
      | none =>
        have said := fixer.representative_settles_of_none first
        by_cases ambiguous : fixer.IsAmbiguous id unit batch
        · rw [if_pos ambiguous] at said
          rw [verdict_of_ambiguous able ambiguous]
          exact said.bind_none
        · rw [if_neg ambiguous] at said
          rw [verdict_of_none first ambiguous]
          exact said.bind (ih chosen)
      | some action =>
        refine (fixer.representative_settles_of_some first).bind ?_
        cases chosen with
        | none =>
          rw [verdict_of_first able first]
          exact ih (some (fixer, action))
        | some winner =>
          dsimp only [Option.map_some, asked]
          by_cases like : action.key = winner.2.key
          · rw [if_neg (by simp [like]), verdict_of_like able first like]
            exact ih (some winner)
          · rw [if_pos (by simp [like]), verdict_of_unlike able first like]
            exact (Settles.note _).bind (.ambiguous _)
    · rw [if_neg able, verdict_of_unable able]
      exact ih chosen

/-- Whether there is an ambiguity to be found among the fixers that may be asked: one cannot choose,
or two have clear fixes of different keys. -/
def IsDisputed (id : String) (unit : SourceUnit) (batch : List Diagnostic)
    (fixers : List (PureFixer σ)) : Prop :=
  AnyAmbiguous id unit batch fixers ∨
    ∃ one ∈ fixers, ∃ other ∈ fixers, one.canFixAll id ∧ other.canFixAll id ∧
      ∃ action another, one.representative? id unit batch = some action ∧
        other.representative? id unit batch = some another ∧ action.key ≠ another.key

/-- What the first fixer that has a clear fix makes of the whole batch. -/
def combinedFix (id : String) (unit : SourceUnit) (batch : List Diagnostic)
    (fixers : List (PureFixer σ)) : Option FixAction :=
  (claims id unit batch fixers).head?.bind fun (fixer, action) =>
    fixer.combined { unit, id, key := action.key, diagnostics := batch }

/-- The key for which it does. -/
def chosenKey? (id : String) (unit : SourceUnit) (batch : List Diagnostic)
    (fixers : List (PureFixer σ)) : Option String :=
  (claims id unit batch fixers).head?.map fun (_, action) => action.key

theorem isDisputed_iff : IsDisputed id unit batch fixers ↔
    AnyAmbiguous id unit batch fixers ∨ Differ (claims id unit batch fixers) := by
  refine or_congr_right ⟨?_, ?_⟩
  · rintro ⟨one, member, other, too, able, capable, action, another, first, second, unlike⟩
    exact ⟨(one, action), mem_claims.mpr ⟨member, able, first⟩, (other, another),
      mem_claims.mpr ⟨too, capable, second⟩, unlike⟩
  · rintro ⟨one, claimed, other, too, unlike⟩
    obtain ⟨member, able, first⟩ := mem_claims.mp claimed
    obtain ⟨among, capable, second⟩ := mem_claims.mp too
    exact ⟨one.1, member, other.1, among, able, capable, one.2, other.2, first, second, unlike⟩

/-- Whether there is an ambiguity is a matter of which fixers there are, not of their order. -/
theorem isDisputed_perm (reordered : fixers.Perm others) :
    IsDisputed id unit batch others ↔ IsDisputed id unit batch fixers := by
  simp only [IsDisputed, AnyAmbiguous, reordered.mem_iff]

/-- Without one, all claims have one key, so the first of them has it in every order. -/
theorem chosenKey?_perm (reordered : fixers.Perm others)
    (settled : ¬IsDisputed id unit batch fixers) :
    chosenKey? id unit batch others = chosenKey? id unit batch fixers := by
  have same : (claims id unit batch fixers).Perm (claims id unit batch others) :=
    (reordered.filter _).filterMap _
  have alike {one other : PureFixer σ × FixAction} (member : one ∈ claims id unit batch fixers)
      (too : other ∈ claims id unit batch fixers) : one.2.key = other.2.key := by
    by_contra unlike
    exact settled (isDisputed_iff.mpr (.inr ⟨one, member, other, too, unlike⟩))
  unfold chosenKey?
  cases here : claims id unit batch fixers with
  | nil =>
    rw [here] at same
    rw [same.nil_eq]
  | cons one rest =>
    cases there : claims id unit batch others with
    | nil =>
      rw [here, there] at same
      exact absurd same.eq_nil (List.cons_ne_nil _ _)
    | cons other later =>
      have member : other ∈ claims id unit batch fixers :=
        same.mem_iff.mpr (there ▸ List.mem_cons_self)
      exact congrArg some (alike member (here ▸ List.mem_cons_self))

theorem verdict_of_disputed (disputed : IsDisputed id unit batch fixers) :
    verdict id unit batch fixers none = none :=
  if_pos (isDisputed_iff.mp disputed)

theorem verdict_of_settled (settled : ¬IsDisputed id unit batch fixers) :
    verdict id unit batch fixers none = some (claims id unit batch fixers).head? :=
  if_neg (mt isDisputed_iff.mpr settled)

theorem select_of_disputed (unforced : config.fixerOverrides.lookup id = none)
    (unkeyed : config.actionOverrides.lookup id = none)
    (disputed : IsDisputed id unit batch fixers) :
    (select config id batch (fixers.map PureFixer.toFixer) unit).Settles none := by
  have chose : (choose config id batch unit (fixers.map PureFixer.toFixer) none).Settles
      ((verdict id unit batch fixers none).map (·.map asked)) :=
    choose_settles unforced unkeyed none
  rw [verdict_of_disputed disputed] at chose
  exact (Settles.note _).bind chose.bind_none

theorem select_of_settled (unforced : config.fixerOverrides.lookup id = none)
    (unkeyed : config.actionOverrides.lookup id = none)
    (settled : ¬IsDisputed id unit batch fixers) :
    (select config id batch (fixers.map PureFixer.toFixer) unit).Settles
      (some (combinedFix id unit batch fixers)) := by
  have chose : (choose config id batch unit (fixers.map PureFixer.toFixer) none).Settles
      ((verdict id unit batch fixers none).map (·.map asked)) :=
    choose_settles unforced unkeyed none
  rw [verdict_of_settled settled] at chose
  refine (Settles.note _).bind (chose.bind ?_)
  unfold combinedFix
  cases (claims id unit batch fixers).head? with
  | none => exact .pure _
  | some claim =>
    refine (Settles.note _).bind ((Settles.call (claim.1.answers _)).bind ?_)
    dsimp only
    split
    · exact (Settles.note _).bind (.pure _)
    · exact .pure _

/-- Whether selecting a fix ends by an ambiguity. -/
def EndsAmbiguous (config : Config) (id : String) (unit : SourceUnit) (batch : List Diagnostic)
    (fixers : List (PureFixer σ)) (session : Session σ) : Prop :=
  ∃ ambiguity last, select config id batch (fixers.map PureFixer.toFixer) unit session =
    .error (.ambiguous ambiguity) last

theorem endsAmbiguous_iff (unforced : config.fixerOverrides.lookup id = none)
    (unkeyed : config.actionOverrides.lookup id = none)
    (running : session.cancellation.isRequested = false) :
    EndsAmbiguous config id unit batch fixers session ↔ IsDisputed id unit batch fixers := by
  constructor
  · rintro ⟨ambiguity, last, failed⟩
    by_contra settled
    obtain ⟨after, ran, -⟩ := (select_of_settled unforced unkeyed settled).exists_ok running
    cases failed.symm.trans ran
  · intro disputed
    exact (select_of_disputed unforced unkeyed disputed).exists_ambiguous running

/-- Where nothing is configured for an identifier, selecting a fix for a batch from fixers that are
functions ends by an ambiguity exactly if there is one among them. Otherwise it yields what the
first fixer with a clear fix makes of the batch, for the key of that fix, and nothing if there is no
such fixer. Another order of the fixers changes neither whether it ends so nor the key. -/
theorem select_of_pure_fixers {again : Session σ}
    (unforced : config.fixerOverrides.lookup id = none)
    (unkeyed : config.actionOverrides.lookup id = none) (reordered : fixers.Perm others)
    (running : session.cancellation.isRequested = false)
    (too : again.cancellation.isRequested = false) :
    (EndsAmbiguous config id unit batch fixers session ↔ IsDisputed id unit batch fixers) ∧
      (¬IsDisputed id unit batch fixers →
        ∃ last, select config id batch (fixers.map PureFixer.toFixer) unit session =
          .ok (combinedFix id unit batch fixers) last) ∧
      (EndsAmbiguous config id unit batch others again ↔
        EndsAmbiguous config id unit batch fixers session) ∧
      (¬EndsAmbiguous config id unit batch fixers session →
        chosenKey? id unit batch others = chosenKey? id unit batch fixers) := by
  have here : EndsAmbiguous config id unit batch fixers session ↔ IsDisputed id unit batch fixers :=
    endsAmbiguous_iff unforced unkeyed running
  have there : EndsAmbiguous config id unit batch others again ↔ IsDisputed id unit batch others :=
    endsAmbiguous_iff unforced unkeyed too
  refine ⟨here, fun settled => ?_, ?_, fun peaceful => ?_⟩
  · obtain ⟨last, ran, -⟩ := (select_of_settled unforced unkeyed settled).exists_ok running
    exact ⟨last, ran⟩
  · rw [here, there, isDisputed_perm reordered]
  · exact chosenKey?_perm reordered (mt here.mpr peaceful)

end Selection

namespace Bidding

open Selection

/-- An action without edits. -/
def bid (title key : String) : FixAction := { title, key, edits := [] }

/-- A fixer that offers the same keys for every diagnostic. -/
def bidder (type : String) (keys : List String) : PureFixer Unit where
  type
  package := "plugins"
  fixableIds := [Letters.descriptor.id]
  offers _ _ := keys.map fun key => .answer (some (bid type key))
  fixAll context := .answer (some (bid type context.key))
  candidates _ _ := keys.map (bid type)
  combined context := some (bid type context.key)
  yields _ _ := by
    induction keys with
    | nil => exact .nil
    | cons key rest ih => exact .more (fun _ => ⟨rfl, rfl, rfl⟩) ih
  answers _ _ := ⟨rfl, rfl, rfl⟩

/-- Everything that was reported in the unit `a`. -/
def batch : List Diagnostic :=
  Letters.diagnostics Letters.descriptor .analyzer 'p' (Letters.source ['p'])

def one : PureFixer Unit := bidder "One" ["k"]

def two : PureFixer Unit := bidder "Two" ["k", "k"]

/-- Two fixers with one key: the first of them fixes the batch, and in the other order the key is
the same. -/
theorem select_bidders :
    ∃ last, select default "X1" batch [one.toFixer, two.toFixer] (Letters.source ['p'])
        (Letters.session ['p']) = .ok (some (bid "One" "k")) last ∧
      chosenKey? "X1" (Letters.source ['p']) batch [two, one] = some "k" := by
  obtain ⟨ends, goes, -, key⟩ := @select_of_pure_fixers Unit default "X1" batch
    (Letters.source ['p']) [one, two] [two, one] (Letters.session ['p']) (Letters.session ['p'])
    rfl rfl (List.Perm.swap two one []) rfl rfl
  have settled : ¬IsDisputed "X1" (Letters.source ['p']) batch [one, two] :=
    mt isDisputed_iff.mp (by decide)
  obtain ⟨last, selected⟩ := goes settled
  exact ⟨last, selected, key (mt ends.mp settled)⟩

end Bidding

end FixLoop
