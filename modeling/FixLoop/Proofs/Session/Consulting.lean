import FixLoop.Proofs.Session.Journal
import FixLoop.Proofs.Session.Selecting

/-!
What selecting a fix asks of fixers. Those that may be asked are asked in their order, each about
one diagnostic of the batch after another until a question is settled; and the one that is chosen in
the end is asked to fix the whole batch. The journal tells of these questions and no others.
-/

namespace FixLoop

variable {σ α β : Type}

namespace Event

/-- Whether an event tells of a question put to a fixer. -/
def isQuestion : Event → Bool
  | consulted .. | demanded _ | combining .. => true
  | _ => false

theorem not_isQuestion_of_isOfPlugin {event : Event} (own : event.isOfPlugin = true) :
    event.isQuestion = false := by
  cases event <;> first | rfl | cases own

end Event

/-- Whether a callback can answer so, or fail so. -/
def Callback.MayAnswer (callback : Callback σ α) (answer : Except Failure α) : Prop :=
  ∃ before after, callback.carryOut before = (answer, after)

/-- Whether some questions were put to fixers between two sessions, in this order. -/
def Session.Puts (start now : Session σ) (questions : List Event) : Prop :=
  ∃ news, now.journal = news ++ start.journal ∧ news.reverse.filter Event.isQuestion = questions

namespace Session.Puts

variable {start middle last session : Session σ} {earlier later : List Event} {event : Event}

theorem refl (session : Session σ) : session.Puts session [] := ⟨[], rfl, rfl⟩

theorem trans (first : start.Puts middle earlier) (second : middle.Puts last later) :
    start.Puts last (earlier ++ later) := by
  obtain ⟨older, noted, rfl⟩ := first
  obtain ⟨newer, goesOn, rfl⟩ := second
  exact ⟨newer ++ older, by rw [goesOn, noted, List.append_assoc], by simp⟩

theorem ask (session : Session σ) (question : event.isQuestion = true) :
    session.Puts { session with journal := event :: session.journal } [event] :=
  ⟨[event], rfl, by simp [question]⟩

theorem remark (puts : start.Puts last earlier) (other : event.isQuestion = false) :
    start.Puts { last with journal := event :: last.journal } earlier := by
  obtain ⟨news, noted, rfl⟩ := puts
  exact ⟨event :: news, by rw [noted, List.cons_append], by simp [other]⟩

/-- Callbacks put no questions to fixers. -/
theorem carryOut (callback : Callback σ α) (session : Session σ) :
    session.Puts (callback.carryOut session).2 [] := by
  have noted : callback.Notes fun event => event.isQuestion = false :=
    callback.notes fun _ own => Event.not_isQuestion_of_isOfPlugin own
  obtain ⟨news, follows, others⟩ := noted session
  refine ⟨news, follows.journal, List.filter_eq_nil_iff.mpr fun event member => ?_⟩
  simp [others event (List.mem_reverse.mp member)]

end Session.Puts

/-- Whether nothing but notes that tell of no questions lies between two sessions. -/
def Session.Remarked (session next : Session σ) : Prop :=
  ∃ news : List Event, (∀ event ∈ news, event.isQuestion = false) ∧
    next = { session with journal := news ++ session.journal }

namespace Session.Remarked

variable {session middle last : Session σ}

theorem refl (session : Session σ) : session.Remarked session := ⟨[], by simp, rfl⟩

theorem note (session : Session σ) {event : Event} (other : event.isQuestion = false) :
    session.Remarked { session with journal := event :: session.journal } :=
  ⟨[event], by simpa using other, rfl⟩

theorem trans (first : session.Remarked middle) (second : middle.Remarked last) :
    session.Remarked last := by
  obtain ⟨older, others, rfl⟩ := first
  obtain ⟨newer, more, rfl⟩ := second
  refine ⟨newer ++ older, fun event member => ?_, by simp⟩
  rcases List.mem_append.mp member with new | old
  · exact more event new
  · exact others event old

theorem puts (remarked : session.Remarked last) : session.Puts last [] := by
  obtain ⟨news, others, rfl⟩ := remarked
  refine ⟨news, rfl, List.filter_eq_nil_iff.mpr fun event member => ?_⟩
  simp [others event (List.mem_reverse.mp member)]

end Session.Remarked

namespace Selection

open Run Session

/-! ### Questions -/

/-- A question about one diagnostic: how many candidates were demanded, and what came of it. -/
structure Request where
  diagnostic : Diagnostic
  demands : Nat
  offer : Except Fault Offer

namespace Request

/-- What is noted of a question. -/
def questions (request : Request) (fixer : Fixer σ) (unit : SourceUnit) : List Event :=
  .consulted fixer.fullName request.diagnostic unit ::
    List.replicate request.demands (.demanded fixer.fullName)

/-- Whether a fixer has nothing more to be asked: it has a clear fix, or gave up. -/
def settles (request : Request) : Bool :=
  match request.offer with
  | .ok offer => offer.clear?.isSome
  | .error _ => true

end Request

/-- Whether a question is what consulting a fixer in a session amounts to. -/
structure Request.IsPut (request : Request) (fixer : Fixer σ) (key? : Option String)
    (unit : SourceUnit) (session : Session σ) : Prop where
  offer : (outcome (consult fixer key? request.diagnostic unit session)).1 = request.offer
  puts : session.Puts (final (consult fixer key? request.diagnostic unit session))
    (request.questions fixer unit)

/-- Whether a fixer was asked about the given diagnostics, in order and about each once, until a
question was settled; in which session it began, and in which it ended. -/
inductive Asked (fixer : Fixer σ) (key? : Option String) (unit : SourceUnit) :
    List Diagnostic → Session σ → List Request → Session σ → Prop where
  | none {session : Session σ} : Asked fixer key? unit [] session [] session
  | settled {request : Request} {rest : List Diagnostic} {session : Session σ}
      (put : request.IsPut fixer key? unit session) (settles : request.settles = true) :
    Asked fixer key? unit (request.diagnostic :: rest) session [request]
      (final (consult fixer key? request.diagnostic unit session))
  | goesOn {request : Request} {rest : List Diagnostic} {requests : List Request}
      {session next last : Session σ} (put : request.IsPut fixer key? unit session)
      (unsettled : request.settles = false)
      (remarked : (final (consult fixer key? request.diagnostic unit session)).Remarked next)
      (later : Asked fixer key? unit rest next requests last) :
    Asked fixer key? unit (request.diagnostic :: rest) session (request :: requests) last

/-- All the questions that were put to a fixer. -/
structure Inquiry (σ : Type) where
  fixer : Fixer σ
  requests : List Request

def Inquiry.questions (inquiry : Inquiry σ) (unit : SourceUnit) : List Event :=
  inquiry.requests.flatMap (·.questions inquiry.fixer unit)

/-- Whether fixers were asked about the same diagnostics, one fixer after another. -/
inductive Interviewed (key? : Option String) (unit : SourceUnit) (diagnostics : List Diagnostic) :
    Session σ → List (Inquiry σ) → Session σ → Prop where
  | nil {session : Session σ} : Interviewed key? unit diagnostics session [] session
  | cons {fixer : Fixer σ} {requests : List Request} {inquiries : List (Inquiry σ)}
      {session middle next last : Session σ}
      (asked : Asked fixer key? unit diagnostics session requests middle)
      (remarked : middle.Remarked next)
      (later : Interviewed key? unit diagnostics next inquiries last) :
    Interviewed key? unit diagnostics session (⟨fixer, requests⟩ :: inquiries) last

variable {fixer : Fixer σ} {key? : Option String} {id : String} {unit : SourceUnit}
  {batch : List Diagnostic} {config : Config} {fixers : List (Fixer σ)} {session : Session σ}

/-! ### One fixer -/

/-- Whether every consultation of a fixer is a question of some kind. -/
def Consults (fixer : Fixer σ) (key? : Option String) (unit : SourceUnit)
    (kind : Request → Prop) : Prop :=
  ∀ diagnostic session, ∃ request : Request, request.diagnostic = diagnostic ∧ kind request ∧
    request.IsPut fixer key? unit session

theorem Asked.puts {diagnostics : List Diagnostic} {requests : List Request} {last : Session σ}
    (asked : Asked fixer key? unit diagnostics session requests last) :
    session.Puts last (requests.flatMap (·.questions fixer unit)) := by
  induction asked with
  | none => exact .refl _
  | settled put settles => simpa using put.puts
  | goesOn put unsettled remarked later ih => exact put.puts.trans (remarked.puts.trans ih)

/-- What a fixer was asked until it had its say about a batch. -/
structure Heard (kind : Request → Prop) (fixer : Fixer σ) (key? : Option String)
    (unit : SourceUnit) (diagnostics : List Diagnostic) (start : Session σ)
    (result : EStateM.Result Fault (Session σ) (Option FixAction)) (requests : List Request) :
    Prop where
  asked : Asked fixer key? unit diagnostics start requests (final result)
  kind : ∀ request ∈ requests, kind request
  blames : ∀ failure last, result = .error (.plugin failure) last →
    ∃ request ∈ requests, request.offer = .error (.plugin failure)

namespace Heard

variable {kind : Request → Prop} {diagnostics : List Diagnostic} {start next : Session σ}
  {result : EStateM.Result Fault (Session σ) (Option FixAction)} {requests : List Request}
  {request : Request}

theorem nil (same : final result = start)
    (own : ∀ failure last, result ≠ .error (.plugin failure) last) :
    Heard kind fixer key? unit [] start result [] where
  asked := same ▸ .none
  kind := by simp
  blames failure last failed := absurd failed (own failure last)

theorem goesOn (own : kind request) (put : request.IsPut fixer key? unit start)
    (unsettled : request.settles = false)
    (remarked : (final (consult fixer key? request.diagnostic unit start)).Remarked next)
    (heard : Heard kind fixer key? unit diagnostics next result requests) :
    Heard kind fixer key? unit (request.diagnostic :: diagnostics) start result
      (request :: requests) where
  asked := .goesOn put unsettled remarked heard.asked
  kind := List.forall_mem_cons.mpr ⟨own, heard.kind⟩
  blames failure last failed := by
    obtain ⟨request, member, blamed⟩ := heard.blames failure last failed
    exact ⟨request, List.mem_cons_of_mem _ member, blamed⟩

theorem settled (own : kind request) (put : request.IsPut fixer key? unit start)
    (settles : request.settles = true)
    (same : final result = final (consult fixer key? request.diagnostic unit start))
    (blames : ∀ failure last, result = .error (.plugin failure) last →
      request.offer = .error (.plugin failure)) :
    Heard kind fixer key? unit (request.diagnostic :: diagnostics) start result [request] where
  asked := same ▸ .settled put settles
  kind := by simpa using own
  blames failure last failed := ⟨request, List.mem_singleton_self _, blames failure last failed⟩

end Heard

theorem representative_heard {kind : Request → Prop} (consults : Consults fixer key? unit kind)
    (id : String) (batch : List Diagnostic) : ∀ unclear session, ∃ requests,
    Heard kind fixer key? unit (batch.filter (isRelevant id unit)) session
      (representative fixer key? id unit batch unclear session) requests := by
  induction batch with
  | nil =>
    intro unclear session
    cases unclear with
    | nil =>
      rw [representative]
      exact ⟨[], .nil rfl (by rintro _ _ ⟨⟩)⟩
    | cons pair rest =>
      rw [representative]
      exact ⟨[], .nil rfl (by rintro _ _ ⟨⟩)⟩
  | cons diagnostic rest ih =>
    intro unclear session
    unfold representative
    by_cases relevant : isRelevant id unit diagnostic = true
    · rw [if_pos relevant, List.filter_cons_of_pos relevant]
      obtain ⟨request, rfl, own, put⟩ := consults diagnostic session
      have came := put.offer
      cases ran : consult fixer key? request.diagnostic unit session with
      | error fault middle =>
        rw [ran] at came
        rw [bind_of_error ran]
        have settles : request.settles = true := by simp [Request.settles, ← came, outcome]
        refine ⟨_, .settled own put settles (by rw [ran]; rfl) fun failure last failed => ?_⟩
        cases failed
        exact came.symm
      | ok offer middle =>
        rw [ran] at came
        rw [bind_of_ok ran]
        have ends : final (consult fixer key? request.diagnostic unit session) = middle := by
          rw [ran, final_ok]
        have unsettled (unclear : offer.clear? = none) : request.settles = false := by
          simp [Request.settles, ← came, outcome, unclear]
        cases offer with
        | nothing =>
          obtain ⟨requests, heard⟩ := ih unclear middle
          exact ⟨_, .goesOn own put (unsettled rfl) (ends ▸ .refl _) heard⟩
        | clear action =>
          have settles : request.settles = true := by
            simp [Request.settles, ← came, outcome, Offer.clear?]
          exact ⟨_, .settled own put settles ends.symm (by rintro _ _ ⟨⟩)⟩
        | unclear first second =>
          dsimp only
          split
          · obtain ⟨requests, heard⟩ := ih unclear middle
            exact ⟨_, .goesOn own put (unsettled rfl) (ends ▸ .refl _) heard⟩
          · -- An ambiguity is remarked on, and the next diagnostic is asked about all the same.
            rw [bind_of_ok (note_apply _ _)]
            obtain ⟨requests, heard⟩ := ih (unclear ++ [(first, second)]) _
            exact ⟨_, .goesOn own put (unsettled rfl) (ends ▸ .note middle rfl) heard⟩
    · rw [if_neg relevant, List.filter_cons_of_neg relevant]
      exact ih unclear session

/-! ### All the fixers -/

theorem Interviewed.puts {diagnostics : List Diagnostic} {inquiries : List (Inquiry σ)}
    {last : Session σ} (interviewed : Interviewed key? unit diagnostics session inquiries last) :
    session.Puts last (inquiries.flatMap (·.questions unit)) := by
  induction interviewed with
  | nil => exact .refl _
  | cons asked remarked later ih => exact asked.puts.trans (remarked.puts.trans ih)

/-- What fixers were asked, one after another, until a step came to an end, and what was asked of
them to close it. -/
structure Canvassed (kind : Fixer σ → Request → Prop) (key? : Option String) (unit : SourceUnit)
    (diagnostics : List Diagnostic) (eligible : List (Fixer σ)) (start : Session σ)
    (result : EStateM.Result Fault (Session σ) α) (inquiries : List (Inquiry σ))
    (closing : List Event) : Prop where
  fixers : inquiries.map (·.fixer) <+: eligible
  asked : ∃ first last, start.Remarked first ∧
    Interviewed key? unit diagnostics first inquiries last ∧ last.Puts (final result) closing
  kind : ∀ inquiry ∈ inquiries, ∀ request ∈ inquiry.requests, kind inquiry.fixer request
  complete : ∀ value last, result = .ok value last → inquiries.map (·.fixer) = eligible
  blames : ∀ failure last, result = .error (.plugin failure) last → closing = [] →
    ∃ inquiry ∈ inquiries, ∃ request ∈ inquiry.requests, request.offer = .error (.plugin failure)

namespace Canvassed

variable {kind : Fixer σ → Request → Prop} {diagnostics : List Diagnostic}
  {eligible : List (Fixer σ)} {start : Session σ} {result : EStateM.Result Fault (Session σ) α}
  {first : EStateM.Result Fault (Session σ) (Option FixAction)} {requests : List Request}
  {inquiries : List (Inquiry σ)} {closing : List Event}

/-- The journal tells of these questions and no others. -/
theorem puts (canvassed : Canvassed kind key? unit diagnostics eligible start result inquiries
    closing) : start.Puts (final result) (inquiries.flatMap (·.questions unit) ++ closing) := by
  obtain ⟨first, last, remarked, interviewed, closes⟩ := canvassed.asked
  exact remarked.puts.trans (interviewed.puts.trans closes)

theorem nil (unasked : ∀ value last, result = .ok value last → eligible = [])
    (same : final result = start)
    (own : ∀ failure last, result ≠ .error (.plugin failure) last) :
    Canvassed kind key? unit diagnostics eligible start result [] [] where
  fixers := List.nil_prefix
  asked := ⟨start, start, .refl start, .nil, same ▸ .refl _⟩
  kind := by simp
  complete value last ended := (unasked value last ended).symm
  blames failure last failed := absurd failed (own failure last)

theorem cons (heard : Heard (kind fixer) fixer key? unit diagnostics start first requests)
    (later : Canvassed kind key? unit diagnostics eligible (final first) result inquiries
      closing) :
    Canvassed kind key? unit diagnostics (fixer :: eligible) start result
      (⟨fixer, requests⟩ :: inquiries) closing where
  fixers := List.prefix_cons_inj _ |>.mpr later.fixers
  asked := by
    obtain ⟨next, last, remarked, interviewed, closes⟩ := later.asked
    exact ⟨start, last, .refl start, .cons heard.asked remarked interviewed, closes⟩
  kind := List.forall_mem_cons.mpr ⟨heard.kind, later.kind⟩
  complete value last ended := congrArg (fixer :: ·) (later.complete value last ended)
  blames failure last failed closed := by
    obtain ⟨inquiry, member, blamed⟩ := later.blames failure last failed closed
    exact ⟨inquiry, List.mem_cons_of_mem _ member, blamed⟩

/-- A fixer that gave up, or disagreed with another one, is the last to be asked. -/
theorem failed {fault : Fault} {last : Session σ}
    (heard : Heard (kind fixer) fixer key? unit diagnostics start first requests)
    (remarked : (final first).Remarked last)
    (blames : ∀ failure, fault = .plugin failure → ∃ middle, first = .error fault middle) :
    Canvassed kind key? unit diagnostics (fixer :: eligible) start
      (.error fault last : EStateM.Result Fault (Session σ) α) [⟨fixer, requests⟩] [] where
  fixers := List.prefix_append [fixer] eligible
  asked := ⟨start, last, .refl start, .cons heard.asked remarked .nil, .refl last⟩
  kind := by simpa using heard.kind
  complete := by simp
  blames failure _ failed _ := by
    cases failed
    obtain ⟨middle, same⟩ := blames failure rfl
    exact ⟨_, List.mem_singleton_self _, heard.blames failure middle same⟩

/-- More can be done after the fixers were asked. -/
theorem follow {last : EStateM.Result Fault (Session σ) β} {before : Session σ}
    (canvassed : Canvassed kind key? unit diagnostics eligible start result inquiries [])
    (noted : before.Remarked start) (closes : (final result).Puts (final last) closing)
    (succeeds : ∀ value after, last = .ok value after → ∃ value after, result = .ok value after)
    (fails : ∀ failure after, last = .error (.plugin failure) after → closing = [] →
      ∃ after, result = .error (.plugin failure) after) :
    Canvassed kind key? unit diagnostics eligible before last inquiries closing where
  fixers := canvassed.fixers
  asked := by
    obtain ⟨first, middle, remarked, interviewed, ends⟩ := canvassed.asked
    exact ⟨first, middle, noted.trans remarked, interviewed, ends.trans closes⟩
  kind := canvassed.kind
  complete value after ended := by
    obtain ⟨value, after, ended⟩ := succeeds value after ended
    exact canvassed.complete value after ended
  blames failure after failed closed := by
    obtain ⟨after, failed⟩ := fails failure after failed closed
    exact canvassed.blames failure after failed rfl

end Canvassed

theorem choose_canvassed {kind : Fixer σ → Request → Prop}
    (consults : ∀ fixer ∈ fixers,
      Consults fixer (config.actionOverrides.lookup id) unit (kind fixer))
    (batch : List Diagnostic) : ∀ chosen session, ∃ inquiries,
    Canvassed kind (config.actionOverrides.lookup id) unit (batch.filter (isRelevant id unit))
      (fixers.filter (isEligible (config.fixerOverrides.lookup id) id)) session
      (choose config id batch unit fixers chosen session) inquiries [] := by
  induction fixers with
  | nil =>
    intro chosen session
    exact ⟨[], .nil (fun _ _ _ => rfl) rfl (by rintro _ _ ⟨⟩)⟩
  | cons fixer rest ih =>
    intro chosen session
    have others := ih fun other member => consults other (List.mem_cons_of_mem _ member)
    unfold choose
    cases requested : session.cancellation.isRequested with
    | true =>
      rw [bind_of_error (checkCancelled_of_requested requested)]
      exact ⟨[], .nil (by simp) rfl (by simp)⟩
    | false =>
      rw [bind_of_ok (checkCancelled_eq_ok.mpr ⟨requested, rfl⟩)]
      by_cases able : isEligible (config.fixerOverrides.lookup id) id fixer = true
      · rw [if_pos able, List.filter_cons_of_pos able]
        obtain ⟨requests, heard⟩ :=
          representative_heard (consults fixer List.mem_cons_self) id batch [] session
        cases ran : representative fixer (config.actionOverrides.lookup id) id unit batch []
            session with
        | error fault middle =>
          rw [ran] at heard
          rw [bind_of_error ran]
          exact ⟨_, .failed heard (.refl middle) fun _ _ => ⟨middle, rfl⟩⟩
        | ok action? middle =>
          rw [ran] at heard
          rw [bind_of_ok ran]
          cases action? with
          | none =>
            obtain ⟨inquiries, later⟩ := others chosen middle
            exact ⟨_, .cons heard later⟩
          | some action =>
            cases chosen with
            | none =>
              obtain ⟨inquiries, later⟩ := others (some (fixer, action)) middle
              exact ⟨_, .cons heard later⟩
            | some winner =>
              dsimp only
              split
              · rw [bind_of_ok (note_apply _ _)]
                exact ⟨_, .failed heard (.note middle rfl) (by simp)⟩
              · obtain ⟨inquiries, later⟩ := others (some winner) middle
                exact ⟨_, .cons heard later⟩
      · rw [if_neg able, List.filter_cons_of_neg able]
        exact others chosen session

/-- What is noted when the fixer that was chosen is asked to fix the batch. -/
def combining (id : String) (unit : SourceUnit) (batch : List Diagnostic)
    (winner : Fixer σ × FixAction) : Event :=
  .combining winner.1.fullName { unit, id, key := winner.2.key, diagnostics := batch }

/-- The fixer that was chosen is asked for the batch, and no other question is put. -/
theorem select_of_chosen {pair : Fixer σ × FixAction} {middle : Session σ}
    (chose : choose config id batch unit fixers none
      { session with journal := .selecting id batch :: session.journal } =
      .ok (some pair) middle) :
    middle.Puts (final (select config id batch fixers unit session))
        [combining id unit batch pair] ∧
      ∀ answer? last, select config id batch fixers unit session = .ok answer? last →
        (pair.1.fixAll { unit, id, key := pair.2.key, diagnostics := batch }).MayAnswer
          (.ok answer?) := by
  obtain ⟨fixer, action⟩ := pair
  let context : FixAllContext := { unit, id, key := action.key, diagnostics := batch }
  let noted : Session σ :=
    { middle with journal := .combining fixer.fullName context :: middle.journal }
  have asked : middle.Puts noted [.combining fixer.fullName context] := .ask middle rfl
  have combined : noted.Puts (final (call (fixer.fixAll context) noted)) [] := by
    rw [final_call]
    exact .carryOut _ noted
  have puts := asked.trans combined
  rw [select, bind_of_ok (note_apply _ _), bind_of_ok chose]
  dsimp only
  rw [bind_of_ok (note_apply _ _)]
  cases ran : call (fixer.fixAll context) noted with
  | error fault last =>
    rw [ran] at puts
    rw [bind_of_error ran]
    exact ⟨puts, by simp⟩
  | ok answer? last =>
    rw [ran] at puts
    rw [bind_of_ok ran]
    have answers : (fixer.fixAll context).MayAnswer (.ok answer?) :=
      ⟨noted, last, call_eq_ok.mp ran⟩
    cases answer? with
    | none =>
      refine ⟨puts.remark rfl, fun answer? after ended => ?_⟩
      cases ended
      exact answers
    | some made =>
      refine ⟨puts, fun answer? after ended => ?_⟩
      cases ended
      exact answers

/-- What was chosen while a fix was selected: it was asked for the batch, and nobody else is the
author of the action that was selected. -/
structure Won (config : Config) (id : String) (batch : List Diagnostic) (unit : SourceUnit)
    (fixers : List (Fixer σ)) (result : EStateM.Result Fault (Session σ) (Option FixAction))
    (winner? : Option (Fixer σ × FixAction)) : Prop where
  chosen : ∀ pair, winner? = some pair → ∃ before after,
    choose config id batch unit fixers none before = .ok (some pair) after
  made : ∀ action last, result = .ok (some action) last → ∃ pair, winner? = some pair ∧
    (pair.1.fixAll { unit, id, key := pair.2.key, diagnostics := batch }).MayAnswer
      (.ok (some action))

/-- Selecting asks the fixers first, and then the one that was chosen for the batch. -/
theorem select_canvassed {kind : Fixer σ → Request → Prop}
    (consults : ∀ fixer ∈ fixers,
      Consults fixer (config.actionOverrides.lookup id) unit (kind fixer)) (batch : List Diagnostic)
    (session : Session σ) :
    ∃ (inquiries : List (Inquiry σ)) (winner? : Option (Fixer σ × FixAction)),
      Canvassed kind (config.actionOverrides.lookup id) unit (batch.filter (isRelevant id unit))
        (fixers.filter (isEligible (config.fixerOverrides.lookup id) id)) session
        (select config id batch fixers unit session) inquiries
        (winner?.map (combining id unit batch)).toList ∧
      Won config id batch unit fixers (select config id batch fixers unit session) winner? := by
  let noted : Session σ := { session with journal := .selecting id batch :: session.journal }
  have start : session.Remarked noted := .note session rfl
  obtain ⟨inquiries, canvassed⟩ := choose_canvassed consults batch none noted
  refine ⟨inquiries, ?_⟩
  cases chose : choose config id batch unit fixers none noted with
  | error fault last =>
    have ends : select config id batch fixers unit session = .error fault last :=
      (bind_of_ok (note_apply _ _)).trans (bind_of_error chose)
    rw [chose] at canvassed
    rw [ends]
    refine ⟨none, canvassed.follow start ?_ ?_ ?_, ?_, ?_⟩
    · exact .refl last
    · intro value after ended
      cases ended
    · intro failure after failed closed
      cases failed
      exact ⟨last, rfl⟩
    · intro pair won
      cases won
    · intro action after ended
      cases ended
  | ok winner? middle =>
    rw [chose] at canvassed
    cases winner? with
    | none =>
      have ends : select config id batch fixers unit session = .ok none middle :=
        (bind_of_ok (note_apply _ _)).trans (bind_of_ok chose)
      rw [ends]
      refine ⟨none, canvassed.follow start ?_ ?_ ?_, ?_, ?_⟩
      · exact .refl middle
      · intro value after ended
        exact ⟨none, middle, rfl⟩
      · intro failure after failed
        cases failed
      · intro pair won
        cases won
      · intro action after ended
        cases ended
    | some pair =>
      -- Only now is there one more question, to the fixer that was chosen.
      obtain ⟨closes, made⟩ := select_of_chosen chose
      refine ⟨some pair, canvassed.follow start closes ?_ ?_, ?_, ?_⟩
      · intro value after ended
        exact ⟨some pair, middle, rfl⟩
      · intro failure after failed closed
        cases closed
      · intro other won
        cases won
        exact ⟨noted, middle, chose⟩
      · intro action last ended
        exact ⟨pair, rfl, made _ last ended⟩

end Selection

end FixLoop
