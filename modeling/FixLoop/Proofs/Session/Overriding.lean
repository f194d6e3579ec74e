import FixLoop.Proofs.Session.Glimpsing

/-!
What the configuration settles about the fix for a batch. Where it names the fixer, selecting
depends on the fixers of that name alone: the others are asked nothing and could as well be missing.
Where it names the key, no two actions compete; the key of the batch is the one that was named, and
each edit that is merged for it comes from an action with that key.
-/

namespace FixLoop

variable {σ α β : Type}

/-! ### Where merged edits come from -/

theorem Callback.andThen_eq_ok {callback : Callback σ α} {next : α → Callback σ β} {value : β}
    {session last : Session σ} :
    (callback.andThen next).carryOut session = (.ok value, last) ↔
      ∃ first middle, callback.carryOut session = (.ok first, middle) ∧
        (next first).carryOut middle = (.ok value, last) := by
  rw [carryOut_andThen]
  cases callback.carryOut session with
  | mk answer middle => cases answer <;> simp

/-- Whether an action can come up among candidates. -/
inductive Candidates.Shows : Candidates σ → FixAction → Prop where
  | here {next : Callback σ (Option FixAction)} {rest : Candidates σ} {action : FixAction}
      (answers : next.MayAnswer (.ok (some action))) : Shows (next :: rest) action
  | later {next : Callback σ (Option FixAction)} {rest : Candidates σ} {other action : FixAction}
      (answers : next.MayAnswer (.ok (some other))) (others : Shows rest action) :
    Shows (next :: rest) action

theorem Candidates.shows_of_withKey {candidates : Candidates σ} {key : String}
    {action : FixAction} {session last : Session σ}
    (ran : (candidates.withKey key).carryOut session = (.ok (some action), last)) :
    action.key = key ∧ candidates.Shows action := by
  induction candidates generalizing session with
  | nil => cases ran
  | cons next rest ih =>
    obtain ⟨first?, middle, asked, ran⟩ := Callback.andThen_eq_ok.mp ran
    cases first? with
    | none => cases ran
    | some first =>
      dsimp only at ran
      split at ran
      · next own =>
        cases ran
        exact ⟨own, .here ⟨_, _, asked⟩⟩
      · obtain ⟨own, others⟩ := ih ran
        exact ⟨own, .later ⟨_, _, asked⟩ others⟩

namespace Offers

/-- Whether an edit belongs to an action with the key of a batch, and that action can come up among
what is offered for one of its diagnostics. -/
def Originates (offers : Offers σ) (context : FixAllContext) (edit : TextEdit) : Prop :=
  ∃ diagnostic ∈ context.diagnostics, diagnostic.id = context.id ∧
    ∃ action, (offers diagnostic context.unit).Shows action ∧ action.key = context.key ∧
      edit ∈ action.edits

variable {offers : Offers σ} {context : FixAllContext} {diagnostics : List Diagnostic}
  {merged result : Merge} {session last : Session σ}

theorem merge_originates (among : diagnostics ⊆ context.diagnostics)
    (earlier : ∀ edit ∈ merged.accepted, offers.Originates context edit)
    (ran : (offers.merge context diagnostics merged).carryOut session = (.ok result, last)) :
    ∀ edit ∈ result.accepted, offers.Originates context edit := by
  induction diagnostics generalizing merged session with
  | nil =>
    cases ran
    exact earlier
  | cons diagnostic rest ih =>
    obtain ⟨present, others⟩ := List.cons_subset.mp among
    unfold merge at ran
    split at ran
    · next own =>
      obtain ⟨action?, middle, found, ran⟩ := Callback.andThen_eq_ok.mp ran
      cases action? with
      | none => exact ih others earlier ran
      | some action =>
        obtain ⟨keyed, shows⟩ := Candidates.shows_of_withKey found
        refine ih others (fun edit member => ?_) ran
        unfold Merge.add at member
        split at member
        · exact earlier edit member
        · rcases List.mem_append.mp member with old | new
          · exact earlier edit old
          · exact ⟨diagnostic, present, own, action, shows, keyed, new⟩
    · exact ih others earlier ran

theorem fixAll_originates {action : FixAction}
    (answers : (offers.fixAll context).MayAnswer (.ok (some action))) :
    ∀ edit ∈ action.edits, offers.Originates context edit := by
  obtain ⟨session, last, ran⟩ := answers
  obtain ⟨result, middle, merged, ran⟩ := Callback.andThen_eq_ok.mp ran
  have same : result.action? context = some action := by
    dsimp only at ran
    split at ran <;> exact Except.ok.inj (congrArg Prod.fst ran)
  unfold Merge.action? at same
  split at same
  · cases same
  · cases same
    exact merge_originates (List.Subset.refl _) (by simp) merged

end Offers

/-! ### Fixers that do the same in every session -/

/-- Whether a callback does the same in every session, be it answering or giving up, and changes
neither the workspace nor the signal. -/
def Callback.IsSteady (callback : Callback σ α) : Prop :=
  ∃ answer, ∀ session : Session σ, (callback.carryOut session).1 = answer ∧
    (callback.carryOut session).2.workspace = session.workspace ∧
    (callback.carryOut session).2.cancellation = session.cancellation

theorem Callback.IsSteady.call_determined {callback : Callback σ α} (steady : callback.IsSteady) :
    (Run.call callback).DeterminedIn fun signal => signal.isRequested = false := by
  obtain ⟨answer, answers⟩ := steady
  exact .call fun session running => ⟨(answers session).1, (answers session).2.1,
    (answers session).2.2 ▸ running⟩

theorem Callback.IsFunction.isSteady {callback : Callback σ α} (function : callback.IsFunction) :
    callback.IsSteady := by
  obtain ⟨value, answers⟩ := function
  exact ⟨.ok value, answers⟩

/-- Whether nothing that a fixer is asked depends on the session. -/
structure Fixer.IsSteady (fixer : Fixer σ) : Prop where
  offers : ∀ diagnostic unit, ∀ candidate ∈ fixer.offers diagnostic unit, candidate.IsSteady
  fixAll : ∀ context, (fixer.fixAll context).IsSteady

/-- An engine that has nothing but fixers. -/
def Engine.ofFixers (config : Config) (fixers : List (Fixer σ)) : Engine σ where
  analyzers := []
  fixers
  compiler := { type := "", package := "", compile := fun _ => .answer [] }
  formatter := Formatting.whitespace
  config
  passLimit := 0

theorem Engine.ofFixers_selects {fixers : List (Fixer σ)}
    (steady : ∀ fixer ∈ fixers, fixer.IsSteady) (config : Config) (unit : SourceUnit) (id : String)
    (batch : List Diagnostic) : (Engine.ofFixers config fixers).Selects unit id batch
      fun _ step => step.DeterminedIn fun signal => signal.isRequested = false :=
  selects_of_determined
    (fun fixer able diagnostic candidate offered =>
      ((steady fixer able).offers diagnostic unit candidate offered).call_determined)
    fun fixer able context => ((steady fixer able).fixAll context).call_determined

/-! ### Steps that never end by an ambiguity -/

/-- Whether what a step comes to is always of some kind, and the step never ends by an ambiguity. -/
def Run.Decides (kind : α → Prop) (step : Run σ α) : Prop :=
  ∀ session, match step session with
    | .ok value _ => kind value
    | .error fault _ => ∀ ambiguity, fault ≠ .ambiguous ambiguity

namespace Run.Decides

variable {kind : α → Prop} {other : β → Prop} {step : Run σ α} {next : α → Run σ β}
  {session last : Session σ}

theorem of_ok (decides : step.Decides kind) {value : α} (ran : step session = .ok value last) :
    kind value := by
  have decided := decides session
  rwa [ran] at decided

theorem ne_ambiguous (decides : step.Decides kind) (ambiguity : Ambiguity) :
    step session ≠ .error (.ambiguous ambiguity) last := by
  intro failed
  have decided := decides session
  rw [failed] at decided
  exact decided ambiguity rfl

theorem pure {value : α} (holds : kind value) : (Pure.pure value : Run σ α).Decides kind :=
  fun _ => holds

theorem bind (first : step.Decides kind) (rest : ∀ value, kind value → (next value).Decides other) :
    (step >>= next).Decides other := by
  intro session
  have decided := first session
  cases ran : step session with
  | ok value middle =>
    rw [ran] at decided
    rw [bind_of_ok ran]
    exact rest value decided middle
  | error fault last =>
    rw [ran] at decided
    rw [bind_of_error ran]
    exact decided

theorem note (event : Event) : (note event : Run σ Unit).Decides fun _ => True :=
  fun _ => trivial

theorem call (callback : Callback σ α) : (call callback).Decides fun _ => True := by
  intro session
  unfold Run.call
  cases callback.carryOut session with
  | mk answer last =>
    cases answer with
    | ok value => trivial
    | error failure => simp

theorem checkCancelled : (checkCancelled : Run σ Unit).Decides fun _ => True := by
  intro session
  cases requested : session.cancellation.isRequested with
  | true =>
    rw [checkCancelled_of_requested requested]
    simp
  | false =>
    rw [checkCancelled_eq_ok.mpr ⟨requested, rfl⟩]
    trivial

end Run.Decides

/-! ### One fixer for an identifier -/

namespace Selection

open Run Session

variable {fixer : Fixer σ} {key? : Option String} {key id : String} {unit : SourceUnit}
  {batch : List Diagnostic} {config : Config} {fixers others : List (Fixer σ)}
  {session last again : Session σ} {candidates : Candidates σ}

theorem demandKey_puts (fixer : Fixer σ) (key : String) (candidates : Candidates σ)
    (session : Session σ) : ∃ count,
      session.Puts (final (demandKey fixer key candidates session))
        (List.replicate count (.demanded fixer.fullName)) := by
  induction candidates generalizing session with
  | nil => exact ⟨1, .ask session rfl⟩
  | cons next rest ih =>
    let noted : Session σ := { session with journal := .demanded fixer.fullName :: session.journal }
    have asked : session.Puts (final (call next noted)) [.demanded fixer.fullName] := by
      rw [final_call]
      exact (Puts.ask session rfl).trans (.carryOut next noted)
    rw [demandKey, bind_of_ok (note_apply _ _)]
    cases ran : call next noted with
    | error fault middle =>
      rw [ran] at asked
      rw [bind_of_error ran]
      exact ⟨1, asked⟩
    | ok action? middle =>
      rw [ran] at asked
      rw [bind_of_ok ran]
      cases action? with
      | none => exact ⟨1, asked⟩
      | some action =>
        dsimp only
        split
        · exact ⟨1, asked⟩
        · obtain ⟨count, later⟩ := ih middle
          exact ⟨count + 1, asked.trans later⟩

/-- A fixer is asked about one diagnostic at a time, with or without a configured key. -/
theorem consults_anyway (fixer : Fixer σ) (key? : Option String) (unit : SourceUnit) :
    Consults fixer key? unit fun _ => True := by
  intro diagnostic session
  cases key? with
  | none =>
    obtain ⟨request, same, -, put⟩ := consults_lazily fixer unit diagnostic session
    exact ⟨request, same, trivial, put⟩
  | some key =>
    let noted : Session σ :=
      { session with journal := .consulted fixer.fullName diagnostic unit :: session.journal }
    obtain ⟨count, put⟩ := demandKey_puts fixer key (fixer.offers diagnostic unit) noted
    have asked := (Puts.ask session rfl).trans put
    let offer := (outcome (consult fixer (some key) diagnostic unit session)).1
    refine ⟨⟨diagnostic, count, offer⟩, rfl, trivial, ⟨rfl, ?_⟩⟩
    rw [consult, bind_of_ok (note_apply _ _)]
    cases ran : demandKey fixer key (fixer.offers diagnostic unit) noted with
    | error fault last =>
      rw [ran] at asked
      rw [bind_of_error ran]
      exact asked
    | ok action? last =>
      rw [ran] at asked
      rw [bind_of_ok ran]
      exact asked

theorem representative_running (steady : fixer.IsSteady)
    (running : session.cancellation.isRequested = false) {unclear : List (String × String)}
    {action? : Option FixAction}
    (ran : representative fixer key? id unit batch unclear session = .ok action? last) :
    last.cancellation.isRequested = false := by
  have alone : ∀ other ∈ [fixer], other.IsSteady := by simpa using steady
  have selects := Engine.ofFixers_selects alone default unit id batch
  have determined := representative_good selects List.mem_cons_self key? batch unclear
  exact (determined.of_ok running ran).2.1

/-- Fixers that may not be asked make no difference to the choice. -/
theorem choose_filter
    (steady : ∀ fixer ∈ fixers.filter (isEligible (config.fixerOverrides.lookup id) id),
      fixer.IsSteady) (chosen : Option (Fixer σ × FixAction)) (session : Session σ)
    (running : session.cancellation.isRequested = false) :
    choose config id batch unit (fixers.filter (isEligible (config.fixerOverrides.lookup id) id))
      chosen session = choose config id batch unit fixers chosen session := by
  induction fixers generalizing chosen session with
  | nil => rfl
  | cons fixer rest ih =>
    -- The check before a fixer that is skipped has no counterpart; while running, it does nothing.
    have unchecked := checkCancelled_eq_ok.mpr ⟨running, rfl⟩
    by_cases able : isEligible (config.fixerOverrides.lookup id) id fixer = true
    · rw [List.filter_cons_of_pos able] at steady ⊢
      have others := ih fun other member => steady other (List.mem_cons_of_mem _ member)
      unfold choose
      rw [bind_of_ok unchecked, bind_of_ok unchecked, if_pos able, if_pos able]
      cases ran : representative fixer (config.actionOverrides.lookup id) id unit batch []
          session with
      | error fault middle => rw [bind_of_error ran, bind_of_error ran]
      | ok action? middle =>
        have still := representative_running (steady fixer List.mem_cons_self) running ran
        rw [bind_of_ok ran, bind_of_ok ran]
        cases action? with
        | none => exact others chosen middle still
        | some action =>
          cases chosen with
          | none => exact others _ middle still
          | some winner =>
            dsimp only
            split
            · rfl
            · exact others _ middle still
    · have skipped : choose config id batch unit (fixer :: rest) chosen session =
          choose config id batch unit rest chosen session := by
        rw [choose, bind_of_ok unchecked, if_neg able]
      rw [List.filter_cons_of_neg able] at steady ⊢
      rw [skipped]
      exact ih steady chosen session running

theorem select_filter
    (steady : ∀ fixer ∈ fixers.filter (isEligible (config.fixerOverrides.lookup id) id),
      fixer.IsSteady) (running : session.cancellation.isRequested = false) :
    select config id batch (fixers.filter (isEligible (config.fixerOverrides.lookup id) id)) unit
      session = select config id batch fixers unit session := by
  let noted : Session σ := { session with journal := .selecting id batch :: session.journal }
  have chosen : choose config id batch unit
      (fixers.filter (isEligible (config.fixerOverrides.lookup id) id)) none noted =
      choose config id batch unit fixers none noted := choose_filter steady none noted running
  rw [select, select, bind_of_ok (note_apply _ _), bind_of_ok (note_apply _ _)]
  cases chose : choose config id batch unit fixers none noted with
  | error fault last => rw [bind_of_error (chosen.trans chose), bind_of_error chose]
  | ok winner? last => rw [bind_of_ok (chosen.trans chose), bind_of_ok chose]

/-- Fixers that do the same in every session are selected from in the same way in all of them. -/
theorem select_determined (steady : ∀ fixer ∈ fixers, fixer.IsSteady) :
    (select config id batch fixers unit).DeterminedIn fun signal => signal.isRequested = false :=
  select_good (Engine.ofFixers_selects steady config unit id batch) (List.Subset.refl _)

/-! ### One key for an identifier -/

theorem demandKey_decides (fixer : Fixer σ) (key : String) (candidates : Candidates σ) :
    (demandKey fixer key candidates).Decides
      fun action? => ∀ action, action? = some action → action.key = key := by
  induction candidates with
  | nil => exact (Decides.note _).bind fun _ _ => .pure (by simp)
  | cons next rest ih =>
    refine (Decides.note _).bind fun _ _ => (Decides.call next).bind fun action? _ => ?_
    cases action? with
    | none => exact .pure (by simp)
    | some action =>
      dsimp only
      split
      · next own =>
        refine .pure fun other same => ?_
        cases same
        exact own
      · exact ih

theorem consult_decides (fixer : Fixer σ) (key : String) (diagnostic : Diagnostic)
    (unit : SourceUnit) :
    (consult fixer (some key) diagnostic unit).Decides
      fun offer => offer = .nothing ∨ ∃ action, offer = .clear action ∧ action.key = key := by
  refine (Decides.note _).bind fun _ _ => ?_
  refine (demandKey_decides fixer key _).bind fun action? keyed => ?_
  cases action? with
  | none => exact .pure (.inl rfl)
  | some action => exact .pure (.inr ⟨action, rfl, keyed action rfl⟩)

/-- With a configured key, a fixer has that key or nothing to offer. -/
theorem representative_decides (fixer : Fixer σ) (key id : String) (unit : SourceUnit)
    (batch : List Diagnostic) :
    (representative fixer (some key) id unit batch []).Decides
      fun action? => ∀ action, action? = some action → action.key = key := by
  induction batch with
  | nil =>
    rw [representative]
    exact .pure (by simp)
  | cons diagnostic rest ih =>
    unfold representative
    split
    · refine (consult_decides fixer key diagnostic unit).bind fun offer came => ?_
      obtain rfl | ⟨action, rfl, own⟩ := came
      · exact ih
      · refine .pure fun other same => ?_
        cases same
        exact own
    · exact ih

/-- With a configured key no two fixers compete, and the action that is chosen has that key. -/
theorem choose_decides (keyed : config.actionOverrides.lookup id = some key)
    {able : Fixer σ → Prop}
    (each : ∀ fixer ∈ fixers.filter (isEligible (config.fixerOverrides.lookup id) id), able fixer)
    (chosen : Option (Fixer σ × FixAction))
    (earlier : ∀ pair, chosen = some pair → able pair.1 ∧ pair.2.key = key) :
    (choose config id batch unit fixers chosen).Decides
      fun winner? => ∀ pair, winner? = some pair → able pair.1 ∧ pair.2.key = key := by
  induction fixers generalizing chosen with
  | nil => exact .pure earlier
  | cons fixer rest ih =>
    refine Decides.checkCancelled.bind fun _ _ => ?_
    dsimp only
    split
    · next eligible =>
      rw [List.filter_cons_of_pos eligible] at each
      have others := ih fun other member => each other (List.mem_cons_of_mem _ member)
      rw [keyed]
      refine (representative_decides fixer key id unit batch).bind fun action? own => ?_
      cases action? with
      | none => exact others chosen earlier
      | some action =>
        cases chosen with
        | none =>
          refine others _ fun pair same => ?_
          cases same
          exact ⟨each fixer List.mem_cons_self, own action rfl⟩
        | some winner =>
          have agree : action.key = winner.2.key :=
            (own action rfl).trans (earlier winner rfl).2.symm
          dsimp only
          rw [if_neg fun disagree => disagree.2 agree]
          exact others _ earlier
    · next other =>
      rw [List.filter_cons_of_neg other] at each
      exact ih each chosen earlier

theorem select_decides (keyed : config.actionOverrides.lookup id = some key) :
    (select config id batch fixers unit).Decides fun _ => True := by
  refine (Decides.note _).bind fun _ _ => ?_
  refine (choose_decides keyed (fun _ _ => trivial) none (by simp)).bind fun winner? _ => ?_
  cases winner? with
  | none => exact .pure trivial
  | some winner =>
    refine (Decides.note _).bind fun _ _ => (Decides.call _).bind fun answer? _ => ?_
    split
    · exact (Decides.note _).bind fun _ _ => .pure trivial
    · exact .pure trivial

/-! ### What the configuration settles -/

/-- What came of selecting: none but the fixers that may be asked were asked, one of them may have
won, and nobody else made the action that was selected. -/
structure Selected (config : Config) (id : String) (batch : List Diagnostic) (unit : SourceUnit)
    (fixers : List (Fixer σ)) (start : Session σ)
    (result : EStateM.Result Fault (Session σ) (Option FixAction))
    (winner? : Option (Fixer σ × FixAction)) : Prop where
  asked : ∃ inquiries, Canvassed (fun _ _ => True) (config.actionOverrides.lookup id) unit
    (batch.filter (isRelevant id unit))
    (fixers.filter (isEligible (config.fixerOverrides.lookup id) id)) start result inquiries
    (winner?.map (combining id unit batch)).toList
  able : ∀ pair, winner? = some pair →
    pair.1 ∈ fixers.filter (isEligible (config.fixerOverrides.lookup id) id)
  made : ∀ action last, result = .ok (some action) last → ∃ pair, winner? = some pair ∧
    (pair.1.fixAll { unit, id, key := pair.2.key, diagnostics := batch }).MayAnswer
      (.ok (some action))

/-- Fixers that may be asked, and do the same in every session, settle alone what is selected. -/
theorem select_of_steady
    (steady : ∀ fixer ∈ fixers.filter (isEligible (config.fixerOverrides.lookup id) id),
      fixer.IsSteady) (running : session.cancellation.isRequested = false) :
    ∃ winner?, Selected config id batch unit fixers session
      (select config id batch fixers unit session) winner? := by
  obtain ⟨inquiries, winner?, canvassed, won⟩ := select_canvassed (fun fixer _ =>
    consults_anyway fixer (config.actionOverrides.lookup id) unit) batch session
  rw [select_filter steady running] at canvassed won
  simp only [List.filter_filter, Bool.and_self] at canvassed
  refine ⟨winner?, ⟨inquiries, canvassed⟩, fun pair same => ?_, won.made⟩
  obtain ⟨before, after, chose⟩ := won.chosen pair same
  rcases mem_of_choose chose with none | ⟨other, same, member⟩
  · cases none
  · cases same
    exact member

/-- With a configured key, every action that is chosen has that key. -/
theorem select_of_keyed (keyed : config.actionOverrides.lookup id = some key)
    (fixers : List (Fixer σ)) (session : Session σ) :
    ∃ winner?, Selected config id batch unit fixers session
        (select config id batch fixers unit session) winner? ∧
      ∀ pair, winner? = some pair → pair.2.key = key := by
  obtain ⟨inquiries, winner?, canvassed, won⟩ := select_canvassed (fun fixer _ =>
    consults_anyway fixer (config.actionOverrides.lookup id) unit) batch session
  have each : ∀ pair, winner? = some pair →
      pair.1 ∈ fixers.filter (isEligible (config.fixerOverrides.lookup id) id) ∧
        pair.2.key = key := by
    intro pair same
    obtain ⟨before, after, chose⟩ := won.chosen pair same
    exact (choose_decides keyed (fun _ member => member) none (by simp)).of_ok chose pair rfl
  exact ⟨winner?, ⟨⟨inquiries, canvassed⟩, fun pair same => (each pair same).1, won.made⟩,
    fun pair same => (each pair same).2⟩

/-- If the configuration names the fixer for an identifier, the others make no difference and are
asked nothing. If it names the key, selecting is never ambiguous, the batch is fixed with that key,
and each edit that is merged for it comes from an action with that key. -/
theorem select_isolates (config : Config) (id : String) (batch : List Diagnostic)
    (unit : SourceUnit) (fixers : List (Fixer σ)) (session : Session σ) :
    (∀ identity, config.fixerOverrides.lookup id = some identity →
      session.cancellation.isRequested = false →
      (∀ fixer ∈ fixers.filter (isEligible (some identity) id), fixer.IsSteady) →
      (∃ winner?, Selected config id batch unit fixers session
        (select config id batch fixers unit session) winner?) ∧
      ∀ others : List (Fixer σ), others.filter (isEligible (some identity) id) =
          fixers.filter (isEligible (some identity) id) →
        select config id batch others unit session = select config id batch fixers unit session ∧
        ∀ again : Session σ, again.cancellation.isRequested = false →
          (outcome (select config id batch others unit again)).1 =
            (outcome (select config id batch fixers unit session)).1) ∧
    ∀ key, config.actionOverrides.lookup id = some key →
      (∀ ambiguity last,
        select config id batch fixers unit session ≠ .error (.ambiguous ambiguity) last) ∧
      ∃ winner?, Selected config id batch unit fixers session
          (select config id batch fixers unit session) winner? ∧
        ∀ pair, winner? = some pair → pair.2.key = key ∧
          (pair.1.fixAll = Offers.fixAll pair.1.offers → ∀ action last,
            select config id batch fixers unit session = .ok (some action) last →
            ∀ edit ∈ action.edits, Offers.Originates pair.1.offers
              { unit, id, key, diagnostics := batch } edit) := by
  refine ⟨fun identity forced running steady => ?_, fun key keyed => ?_⟩
  · rw [← forced] at steady
    refine ⟨select_of_steady steady running, fun others same => ?_⟩
    rw [← forced] at same
    have alike (session : Session σ) (running : session.cancellation.isRequested = false) :
        select config id batch others unit session =
          select config id batch
            (fixers.filter (isEligible (config.fixerOverrides.lookup id) id)) unit session := by
      rw [← same] at steady ⊢
      exact (select_filter steady running).symm
    have determined : (select config id batch
        (fixers.filter (isEligible (config.fixerOverrides.lookup id) id)) unit).DeterminedIn
        fun signal => signal.isRequested = false := select_determined steady
    refine ⟨(alike session running).trans (select_filter steady running), fun again still => ?_⟩
    obtain ⟨answer, answers⟩ := determined
    rw [alike again still, ← select_filter steady running, (answers again still).1,
      (answers session running).1]
  · obtain ⟨winner?, selected, own⟩ := select_of_keyed keyed fixers session
    refine ⟨fun ambiguity last => (select_decides keyed).ne_ambiguous ambiguity,
      winner?, selected, fun pair same => ⟨own pair same, fun merges action last ran => ?_⟩⟩
    obtain ⟨author, won, answers⟩ := selected.made action last ran
    obtain rfl := Option.some.inj (same.symm.trans won)
    rw [own _ same, merges] at answers
    exact Offers.fixAll_originates answers

end Selection

namespace Overridden

open Run Selection Bidding

def config : Config :=
  { (default : Config) with
    fixerOverrides := [("X1", "Chooser")], actionOverrides := [("X1", "replace")] }

/-- To put something in the place of what was reported. -/
def change (diagnostic : Diagnostic) (key : String) (text : Text) : FixAction where
  title := key
  key
  edits := [{ path := diagnostic.location.path, start := diagnostic.location.start
              stop := diagnostic.location.stop, text }]

/-- A fixer with two actions between which it cannot choose. -/
def chooser : Fixer Unit :=
  { Letters.fixer (fun diagnostic _ => [.answer (some (change diagnostic "drop" [])),
      .answer (some (change diagnostic "replace" ['q']))]) with type := "Chooser" }

/-- A fixer that gives up when it is asked. -/
def stray : Fixer Unit :=
  { Letters.fixer (fun _ _ => [.fail (.raised "nobody should ask")]) with type := "Stray" }

theorem chooser_isSteady : chooser.IsSteady := by
  have function (diagnostic : Diagnostic) (unit : SourceUnit) :
      ∀ candidate ∈ chooser.offers diagnostic unit, candidate.IsFunction := by
    intro candidate member
    rcases List.mem_pair.mp member with rfl | rfl <;> exact ⟨_, fun _ => ⟨rfl, rfl, rfl⟩⟩
  constructor
  · exact fun diagnostic unit candidate member =>
      (function diagnostic unit candidate member).isSteady
  · exact fun context =>
      (Callback.IsFunction.closed.fixAll fun diagnostic => function diagnostic _).isSteady

/-- The other fixer is not asked, and the action with the key is taken though it comes second. -/
theorem select_isolates_chooser :
    ∃ action last, select config "X1" batch [stray, chooser] (Letters.source ['p'])
        (Letters.session ['p']) = .ok (some action) last ∧
      action.edits = [{ path := "a", start := 0, stop := 1, text := ['q'] }] ∧
      ∀ edit ∈ action.edits, Offers.Originates chooser.offers
        { unit := Letters.source ['p'], id := "X1", key := "replace", diagnostics := batch }
        edit := by
  obtain ⟨forced, keyed⟩ := select_isolates config "X1" batch (Letters.source ['p']) [chooser]
    (Letters.session ['p'])
  have steady : ∀ fixer ∈ [chooser].filter (isEligible (some "Chooser") "X1"), fixer.IsSteady := by
    intro fixer member
    obtain rfl := List.mem_singleton.mp (List.mem_filter.mp member).1
    exact chooser_isSteady
  have alone : ∃ action last, select config "X1" batch [chooser] (Letters.source ['p'])
      (Letters.session ['p']) = .ok (some action) last ∧
      action.edits = [{ path := "a", start := 0, stop := 1, text := ['q'] }] := ⟨_, _, rfl, rfl⟩
  obtain ⟨action, last, ran, edits⟩ := alone
  obtain ⟨same, -⟩ := (forced "Chooser" rfl rfl steady).2 [stray, chooser] rfl
  obtain ⟨-, winner?, selected, own⟩ := keyed "replace" rfl
  obtain ⟨⟨fixer, first⟩, won, -⟩ := selected.made action last ran
  obtain rfl : fixer = chooser :=
    List.mem_singleton.mp (List.mem_filter.mp (selected.able _ won)).1
  exact ⟨action, last, same.trans ran, edits, (own _ won).2 rfl action last ran⟩

end Overridden

end FixLoop
