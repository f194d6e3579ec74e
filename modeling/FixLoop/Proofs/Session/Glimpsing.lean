import FixLoop.Proofs.Session.Consulting

/-!
How far candidates are read while a fix is selected. Without a configured key, no more than two of
them are demanded for a diagnostic. So what lies beyond the second candidate makes no difference,
and cannot fail, before a fixer is asked to fix the whole batch.
-/

namespace FixLoop

variable {σ : Type}

/-- A fixer of whose candidates there are never more than two. -/
def Fixer.glimpsed (fixer : Fixer σ) : Fixer σ :=
  { fixer with offers := fun diagnostic unit => (fixer.offers diagnostic unit).take 2 }

namespace Selection

open Run Session

/-! ### Lazy sequences -/

/-- What the next candidate can be, if there is one, or why there is none. -/
inductive Heads : Candidates σ → Except Failure (Option FixAction) → Prop where
  | nil : Heads [] (.ok none)
  | cons {next : Callback σ (Option FixAction)} {rest : Candidates σ}
      {answer : Except Failure (Option FixAction)} (answers : next.MayAnswer answer) :
    Heads (next :: rest) answer

/-- What demanding no more than a number of candidates can show, and by what it can fail. -/
inductive Takes : Nat → Candidates σ → List FixAction → Option Failure → Prop where
  | enough {candidates : Candidates σ} : Takes 0 candidates [] none
  | ended {count : Nat} {candidates : Candidates σ} (ends : Heads candidates (.ok none)) :
    Takes (count + 1) candidates [] none
  | fail {count : Nat} {candidates : Candidates σ} {failure : Failure}
      (fails : Heads candidates (.error failure)) :
    Takes (count + 1) candidates [] (some failure)
  | more {count : Nat} {candidates : Candidates σ} {action : FixAction} {shown : List FixAction}
      {failure? : Option Failure} (gives : Heads candidates (.ok (some action)))
      (others : Takes count (candidates.drop 1) shown failure?) :
    Takes (count + 1) candidates (action :: shown) failure?

variable {candidates : Candidates σ} {count : Nat} {shown : List FixAction}
  {failure? : Option Failure} {failure : Failure}

/-- A failure is that of a candidate that was demanded. -/
theorem Takes.exists_mayAnswer (takes : Takes count candidates shown (some failure)) :
    ∃ candidate ∈ candidates.take count, candidate.MayAnswer (.error failure) := by
  generalize given : some failure = failure? at takes
  induction takes with
  | enough => cases given
  | ended ends => cases given
  | fail fails =>
    cases given
    cases fails with
    | cons answers => exact ⟨_, List.mem_cons_self, answers⟩
  | more gives others ih =>
    obtain ⟨candidate, member, fails⟩ := ih given
    cases gives with
    | cons answers => exact ⟨candidate, List.mem_cons_of_mem _ member, fails⟩

/-- What the candidates shown come to, if none of them failed. -/
def Offer.ofShown (shown : List FixAction) : Option Failure → Except Fault Offer
  | none => .ok (.ofCandidates shown)
  | some failure => .error (.plugin failure)

/-- Whether no more than two candidates were demanded, and decided what came of it. -/
structure Request.IsLazy (request : Request) (fixer : Fixer σ) (unit : SourceUnit) : Prop where
  few : request.demands ≤ 2
  takes : ∃ shown failure?, Takes 2 (fixer.offers request.diagnostic unit) shown failure? ∧
    request.offer = Offer.ofShown shown failure?

variable {fixer : Fixer σ} {id : String} {unit : SourceUnit} {batch : List Diagnostic}
  {config : Config} {fixers : List (Fixer σ)}

/-! ### One question -/

theorem demand_heads (fixer : Fixer σ) (candidates : Candidates σ) (session : Session σ) :
    ∃ last, session.Puts last [.demanded fixer.fullName] ∧
      ((∃ given, Heads candidates (.ok given) ∧
          demand fixer candidates session = .ok given last) ∨
        ∃ failure, Heads candidates (.error failure) ∧
          demand fixer candidates session = .error (.plugin failure) last) := by
  let noted : Session σ := { session with journal := .demanded fixer.fullName :: session.journal }
  have asked : session.Puts noted [.demanded fixer.fullName] := .ask session rfl
  cases candidates with
  | nil => exact ⟨noted, asked, .inl ⟨none, .nil, rfl⟩⟩
  | cons next rest =>
    have demanded : demand fixer (next :: rest) session = call next noted := rfl
    refine ⟨_, asked.trans (.carryOut next noted), ?_⟩
    rw [demanded, call]
    cases ran : next.carryOut noted with
    | mk answer last =>
      cases answer with
      | ok given => exact .inl ⟨given, .cons ⟨noted, last, ran⟩, rfl⟩
      | error failure => exact .inr ⟨failure, .cons ⟨noted, last, ran⟩, rfl⟩

theorem demandTwo_takes (fixer : Fixer σ) (candidates : Candidates σ) (session : Session σ) :
    ∃ shown failure? count, Takes 2 candidates shown failure? ∧ count ≤ 2 ∧
      (outcome (demandTwo fixer candidates session)).1 = Offer.ofShown shown failure? ∧
      session.Puts (final (demandTwo fixer candidates session))
        (List.replicate count (.demanded fixer.fullName)) := by
  obtain ⟨middle, asked, ⟨first?, heads, ran⟩ | ⟨failure, heads, failed⟩⟩ :=
    demand_heads fixer candidates session
  · rw [demandTwo, bind_of_ok ran]
    cases first? with
    | none => exact ⟨[], none, 1, .ended heads, Nat.le_succ 1, rfl, asked⟩
    | some first =>
      obtain ⟨last, too, ⟨second?, others, ran⟩ | ⟨failure, others, failed⟩⟩ :=
        demand_heads fixer (candidates.drop 1) middle
      · dsimp only
        rw [bind_of_ok ran]
        cases second? with
        | none =>
          exact ⟨[first], none, 2, .more heads (.ended others), Nat.le_refl 2, rfl, asked.trans too⟩
        | some second =>
          refine ⟨[first, second], none, 2, .more heads (.more others .enough), Nat.le_refl 2,
            ?_, ?_⟩
          · simp only [Offer.ofShown, Offer.ofCandidates]
            split <;> rfl
          · dsimp only
            split <;> exact asked.trans too
      · dsimp only
        rw [bind_of_error failed]
        exact ⟨[first], some failure, 2, .more heads (.fail others), Nat.le_refl 2, rfl,
          asked.trans too⟩
  · rw [demandTwo, bind_of_error failed]
    exact ⟨[], some failure, 1, .fail heads, Nat.le_succ 1, rfl, asked⟩

/-- Without a configured key, a question takes no more than two candidates. -/
theorem consults_lazily (fixer : Fixer σ) (unit : SourceUnit) :
    Consults fixer none unit (Request.IsLazy · fixer unit) := by
  intro diagnostic session
  let noted : Session σ :=
    { session with journal := .consulted fixer.fullName diagnostic unit :: session.journal }
  obtain ⟨shown, failure?, count, takes, few, came, asked⟩ :=
    demandTwo_takes fixer (fixer.offers diagnostic unit) noted
  have consulted : consult fixer none diagnostic unit session =
      demandTwo fixer (fixer.offers diagnostic unit) noted := rfl
  refine ⟨⟨diagnostic, count, Offer.ofShown shown failure?⟩, rfl,
    ⟨few, shown, failure?, takes, rfl⟩, ?_, ?_⟩
  · rwa [consulted]
  · rw [consulted]
    exact (Puts.ask session rfl).trans asked

/-! ### Candidates that nobody takes -/

theorem demand_take (count : Nat) :
    demand fixer (candidates.take (count + 1)) = demand fixer candidates := by
  cases candidates <;> rfl

theorem demandTwo_take : demandTwo fixer (candidates.take 2) = demandTwo fixer candidates := by
  simp only [demandTwo, demand_take, List.drop_take]

theorem representative_glimpsed (batch : List Diagnostic) (unclear : List (String × String)) :
    representative fixer.glimpsed none id unit batch unclear =
      representative fixer none id unit batch unclear := by
  have consulted (diagnostic : Diagnostic) :
      consult fixer.glimpsed none diagnostic unit = consult fixer none diagnostic unit :=
    congrArg (note (.consulted fixer.fullName diagnostic unit) >>= fun _ => ·) demandTwo_take
  induction batch generalizing unclear with
  | nil => cases unclear <;> rfl
  | cons diagnostic rest ih =>
    unfold representative
    simp only [consulted, ih]
    rfl

/-- What is kept of a choice between fixers. -/
def glimpse : Option (Fixer σ × FixAction) → Option (Fixer σ × FixAction) :=
  Option.map fun (fixer, action) => (fixer.glimpsed, action)

theorem choose_glimpsed (unkeyed : config.actionOverrides.lookup id = none)
    (chosen : Option (Fixer σ × FixAction)) :
    choose config id batch unit (fixers.map Fixer.glimpsed) (glimpse chosen) =
      glimpse <$> choose config id batch unit fixers chosen := by
  induction fixers generalizing chosen with
  | nil => rfl
  | cons fixer rest ih =>
    rw [List.map_cons, choose, choose, map_bind]
    refine bind_congr fun _ => ?_
    have same : isEligible (config.fixerOverrides.lookup id) id fixer.glimpsed =
        isEligible (config.fixerOverrides.lookup id) id fixer := rfl
    simp only [same, unkeyed, representative_glimpsed, ih]
    by_cases able : isEligible (config.fixerOverrides.lookup id) id fixer = true
    · rw [if_pos able, if_pos able, map_bind]
      refine bind_congr fun action? => ?_
      cases action? with
      | none => rfl
      | some action =>
        cases chosen with
        | none => exact ih (some (fixer, action))
        | some winner =>
          simp only [glimpse, Option.map_some]
          split <;> rfl
    · rw [if_neg able, if_neg able]

theorem select_glimpsed (unkeyed : config.actionOverrides.lookup id = none) :
    select config id batch (fixers.map Fixer.glimpsed) unit =
      select config id batch fixers unit := by
  have chosen : choose config id batch unit (fixers.map Fixer.glimpsed) none =
      glimpse <$> choose config id batch unit fixers none := choose_glimpsed unkeyed none
  refine bind_congr fun _ => ?_
  rw [chosen, bind_map_left]
  refine bind_congr fun winner? => ?_
  cases winner? <;> rfl

/-- A question that failed is one whose first or second candidate failed. -/
theorem Request.IsLazy.exists_failed {request : Request} (isLazy : request.IsLazy fixer unit)
    {failure : Failure} (failed : request.offer = .error (.plugin failure)) :
    ∃ candidate ∈ (fixer.offers request.diagnostic unit).take 2,
      candidate.MayAnswer (.error failure) := by
  obtain ⟨shown, failure?, takes, came⟩ := isLazy.takes
  rw [came] at failed
  cases failure? with
  | none => cases failed
  | some blamed =>
    cases failed
    exact takes.exists_mayAnswer

/-- Without a configured key, fixers are asked in their order, each about the diagnostics of the
batch in their order until one has a clear fix, and no question takes more than two candidates.
Until the fixer that was chosen is asked to fix the batch, only such candidates can fail; and
whatever comes after them makes no difference at all. -/
theorem select_reads_lazily (unkeyed : config.actionOverrides.lookup id = none)
    (batch : List Diagnostic) (fixers : List (Fixer σ)) (unit : SourceUnit) (session : Session σ) :
    (∃ inquiries closing,
      Canvassed (fun fixer request => request.IsLazy fixer unit) none unit
        (batch.filter (isRelevant id unit))
        (fixers.filter (isEligible (config.fixerOverrides.lookup id) id)) session
        (select config id batch fixers unit session) inquiries closing ∧
      session.Puts (final (select config id batch fixers unit session))
        (inquiries.flatMap (·.questions unit) ++ closing) ∧
      (closing = [] ∨ ∃ fixer ∈ fixers, ∃ action,
        closing = [combining id unit batch (fixer, action)]) ∧
      ∀ failure last, select config id batch fixers unit session = .error (.plugin failure) last →
        closing = [] → ∃ inquiry ∈ inquiries, ∃ request ∈ inquiry.requests,
          ∃ candidate ∈ (inquiry.fixer.offers request.diagnostic unit).take 2,
            candidate.MayAnswer (.error failure)) ∧
    select config id batch (fixers.map Fixer.glimpsed) unit session =
      select config id batch fixers unit session := by
  have consults : ∀ fixer ∈ fixers, Consults fixer (config.actionOverrides.lookup id) unit
      (Request.IsLazy · fixer unit) := by
    intro fixer member
    rw [unkeyed]
    exact consults_lazily fixer unit
  obtain ⟨inquiries, winner?, canvassed, won⟩ := select_canvassed consults batch session
  rw [unkeyed] at canvassed
  refine ⟨⟨inquiries, _, canvassed, canvassed.puts, ?_, ?_⟩,
    congrFun (select_glimpsed unkeyed) session⟩
  · cases winner? with
    | none => exact .inl rfl
    | some winner =>
      obtain ⟨before, after, chose⟩ := won.chosen winner rfl
      rcases mem_of_choose chose with none | ⟨pair, same, member⟩
      · cases none
      · cases same
        exact .inr ⟨winner.1, member, winner.2, rfl⟩
  · intro failure last failed closed
    obtain ⟨inquiry, asked, request, put, blamed⟩ := canvassed.blames failure last failed closed
    have isLazy := canvassed.kind inquiry asked request put
    exact ⟨inquiry, asked, request, put, isLazy.exists_failed blamed⟩

end Selection

namespace Overreaching

open Run Selection Bidding

/-- A fixer that has one candidate, another one with its key, and then fails. -/
def fixer : Fixer Unit where
  type := "Fixer"
  package := "plugins"
  fixableIds := [Letters.descriptor.id]
  offers _ _ := [.answer (some (bid "one" "k")), .answer (some (bid "two" "k")),
    .fail (.raised "there are no more")]
  fixAll context := .answer (some (bid "both" context.key))

/-- It fixes the batch, since nobody takes its third candidate. -/
theorem select_reads_lazily_overreaching :
    ∃ last, ∃ inquiries : List (Inquiry Unit),
      select default "X1" batch [fixer] (Letters.source ['p']) (Letters.session ['p']) =
        .ok (some (bid "both" "k")) last ∧
      inquiries.map (·.fixer) = [fixer] ∧
      ∀ inquiry ∈ inquiries, ∀ request ∈ inquiry.requests, request.demands ≤ 2 := by
  have unkeyed : (default : Config).actionOverrides.lookup "X1" = none := rfl
  obtain ⟨⟨inquiries, closing, canvassed, -⟩, same⟩ := select_reads_lazily unkeyed batch [fixer]
    (Letters.source ['p']) (Letters.session ['p'])
  have ran : ∃ last, select default "X1" batch ([fixer].map Fixer.glimpsed) (Letters.source ['p'])
      (Letters.session ['p']) = .ok (some (bid "both" "k")) last := ⟨_, rfl⟩
  obtain ⟨last, ran⟩ := ran
  have selected := same.symm.trans ran
  exact ⟨last, inquiries, selected, canvassed.complete _ last selected,
    fun inquiry asked request put => (canvassed.kind inquiry asked request put).few⟩

end Overreaching

end FixLoop
