import FixLoop.Proofs.Session.Building
import FixLoop.Proofs.Session.Journal
import FixLoop.Proofs.Session.Totality
import FixLoop.Proofs.Session.Touring

/-!
Stopping. A pass asks whether it is to stop before it does anything and lands one edit set at most,
so no more than one lands after a request for cancellation. A request that is made while a unit is
fixed ends the whole run there.
-/

namespace FixLoop

variable {σ : Type}

/-- Whether events tell that work on a unit heeded each request for cancellation: at most one edit
set landed after it, and no edit set on another unit at all. -/
structure IsPrompt (unitId : String) (news : List Event) : Prop where
  few : ∀ newer older, news = newer ++ .cancelRequested :: older → newer.countP (·.isLanding) ≤ 1
  own : ∀ event ∈ news, ∀ other, other ≠ unitId → event.landsOn other = false

/-- Whether a session follows another one by work on a unit that heeds requests for cancellation. -/
def Session.Heeds (unitId : String) (start now : Session σ) : Prop :=
  ∃ news, start.Follows now news ∧ IsPrompt unitId news ∧
    (start.cancellation.isRequested = true → news.countP (·.isLanding) = 0)

variable {unitId : String} {start middle now last session : Session σ}
  {earlier later news : List Event}

theorem IsPrompt.append (first : IsPrompt unitId earlier) (second : IsPrompt unitId later)
    (rested : .cancelRequested ∈ earlier → later.countP (·.isLanding) = 0) :
    IsPrompt unitId (later ++ earlier) where
  few newer older split := by
    rcases append_eq_append_cons split with ⟨rest, within, -⟩ | ⟨rest, rfl, within⟩
    · exact second.few newer rest within
    · -- After a request among the earlier events nothing landed later.
      have none := rested (by simp [within])
      rw [List.countP_append, none, Nat.zero_add]
      exact first.few rest older within
  own event member := (List.mem_append.mp member).elim (second.own event) (first.own event)

/-- If at most one edit set landed at all, then after each request too. -/
theorem IsPrompt.of_few (few : news.countP (·.isLanding) ≤ 1)
    (own : ∀ event ∈ news, ∀ other, other ≠ unitId → event.landsOn other = false) :
    IsPrompt unitId news where
  few newer older split := by
    rw [split, List.countP_append] at few
    omega
  own := own

namespace Session.Heeds

theorem refl (session : Session σ) : session.Heeds unitId session :=
  ⟨[], .refl session, .of_few (by simp) (by simp), fun _ => rfl⟩

theorem trans (first : start.Heeds unitId middle) (second : middle.Heeds unitId last) :
    start.Heeds unitId last := by
  obtain ⟨earlier, follows, prompt, rests⟩ := first
  obtain ⟨later, goesOn, stillPrompt, stillRests⟩ := second
  refine ⟨later ++ earlier, follows.trans goesOn, prompt.append stillPrompt fun asked => ?_, ?_⟩
  · exact stillRests (follows.requested.mpr (.inr asked))
  · intro requested
    rw [List.countP_append, rests requested,
      stillRests (follows.requested.mpr (.inl requested))]

theorem of_grows (grown : start.Grows (fun event => event.isLanding = false) now) :
    start.Heeds unitId now := by
  obtain ⟨news, follows, calm⟩ := grown
  have none : news.countP (·.isLanding) = 0 := by
    refine List.countP_eq_zero.mpr fun event member => ?_
    simp [calm event member]
  refine ⟨news, follows, .of_few (by omega) fun event member other _ => ?_, fun _ => none⟩
  exact Event.landsOn_of_not_isLanding other (calm event member)

end Session.Heeds

/-- What is true of a run whose cancellation was requested during a stop; the events after the
request, while the unit was still being fixed, are given. -/
structure Stop.EndsRun (stop : Stop σ) (newer : List Event) (report : RunReport)
    (last : Session σ) : Prop where
  few : newer.countP (·.isLanding) ≤ 1
  others : ∀ other, other ≠ stop.unitId →
    last.workspace.snapshot? other = stop.before.workspace.snapshot? other
  /-- Nothing is done after the unit, to it or to another one. -/
  workspace : last.workspace = stop.after.workspace
  journal : last.journal = .runDone report.results.length :: stop.after.journal
  cancelled : report.cancelled = true
  aborted : report.aborted = false
  result : report.results.getLast? = some stop.result

namespace Engine

open Run Session

variable {engine : Engine σ} {catalog : Catalog σ} {id : String} {state : PassState}

/-- Whether the plugins that are asked while a unit is fixed leave the workspace alone. -/
structure LeavesWorkspace (engine : Engine σ) : Prop where
  compiler : ∀ unit, (engine.compiler.compile unit).LeavesWorkspace
  analyzers : ∀ analyzer ∈ engine.analyzers, ∀ unit, (analyzer.analyze unit).LeavesWorkspace
  offers : ∀ fixer ∈ engine.fixers, ∀ diagnostic unit,
    ∀ candidate ∈ fixer.offers diagnostic unit, candidate.LeavesWorkspace
  fixAll : ∀ fixer ∈ engine.fixers, ∀ context, (fixer.fixAll context).LeavesWorkspace

theorem LeavesWorkspace.pluginsNote (aloof : engine.LeavesWorkspace) :
    engine.PluginsNote fun event => event.isLanding = false where
  compiler unit := (aloof.compiler unit).notes
  analyzers analyzer member unit := (aloof.analyzers analyzer member unit).notes
  offers fixer able diagnostic unit candidate offered :=
    (aloof.offers fixer able diagnostic unit candidate offered).notes
  fixAll fixer able context := (aloof.fixAll fixer able context).notes

theorem isLanding_of_isQuiet (event : Event) (quiet : event.isQuiet = true) :
    event.isLanding = false :=
  Event.isLanding_of_not_isEffect (Event.isEffect_of_isQuiet quiet)

theorem pass_heeds (aloof : engine.LeavesWorkspace)
    (analyzers : catalog.analyzers ⊆ engine.analyzers) (fixers : catalog.fixers ⊆ engine.fixers)
    (session : Session σ) :
    session.Heeds unitId (final (engine.pass unitId catalog id state session)) := by
  by_cases requested : session.cancellation.isRequested = true
  · have ended : engine.pass unitId catalog id state session = .error .cancelled session :=
      bind_of_error (checkCancelled_of_requested requested)
    rw [ended]
    exact .refl session
  obtain ⟨reached, reaches, ends⟩ := engine.pass_ends unitId catalog id state session
  have grown := reaches.grows aloof.pluginsNote isLanding_of_isQuiet analyzers fixers
  generalize engine.pass unitId catalog id state session = ran at ends
  cases ends with
  | refused refusals counted =>
    refine (Heeds.of_grows grown).trans (.of_grows (refusals.mono fun event refusal => ?_))
    exact isLanding_of_isQuiet event (Event.isQuiet_of_isRefusal refusal)
  | landed lands counted =>
    obtain ⟨title, name, version, edits, follows⟩ := lands
    obtain ⟨earlier, prepared, calm⟩ := grown
    have none : earlier.countP (·.isLanding) = 0 :=
      List.countP_eq_zero.mpr fun event member => by simp [calm event member]
    refine ⟨_, prepared.trans follows, .of_few ?_ ?_, fun asked => absurd asked requested⟩
    · rw [List.countP_append, none]
      simp [Event.isLanding]
    · intro event member other different
      rcases List.mem_append.mp member with new | old
      · simp only [List.mem_cons, List.not_mem_nil, or_false] at new
        rcases new with rfl | rfl | rfl
        · rfl
        · rfl
        · simp [Event.landsOn, different.symm]
      · exact Event.landsOn_of_not_isLanding other (calm event old)

/-- Fixing a unit heeds requests for cancellation. -/
theorem fixUnit_heeds (aloof : engine.LeavesWorkspace) (unitId : String) (session : Session σ) :
    session.Heeds unitId (final (engine.fixUnit unitId session)) :=
  (aloof.pluginsNote.fixUnit_keeps isLanding_of_isQuiet
    (fun _ _ holds grown => holds.trans (.of_grows grown))
    fun unit _ _ now holds => holds.trans
      (pass_heeds aloof (engine.analyzers_catalog unit) (engine.fixers_catalog unit) now)).final
    (.refl session)

/-- Cancellation stops a run promptly, if only analyzers and no others give up, and if no plugin
that is asked while a unit is fixed edits the workspace. Unless its units cannot be ordered, or
passes do not come to an end although nobody asks the run to stop, it comes to a report. -/
theorem remediate_stops (requested : Option (List String))
    (steady : engine.OnlyAnalyzersFail session)
    (format : ∀ unit document, (engine.formatter.format unit document).Answers session)
    (aloof : engine.LeavesWorkspace) :
    (∃ fault, session.workspace.order requested = .error fault ∧
        engine.remediate requested session = .error (.workspace fault) session) ∨
      (∃ last, engine.remediate requested session = .error .unfinished last ∧
        last.cancellation.isRequested = false) ∨
      ∃ report last, engine.remediate requested session = .ok report last ∧
        ∃ order stops final finished, session.workspace.order requested = .ok order ∧
          engine.Tour order.length 1 order {} (engine.begun session) stops final finished ∧
          report.results = final.results ∧
          ∀ stop ∈ stops, ∀ newer older,
            stop.after.journal = newer ++ .cancelRequested :: older →
            stop.before.journal <:+ older → stop.EndsRun newer report last := by
  cases ordered : session.workspace.order requested with
  | error fault =>
    refine .inl ⟨fault, rfl, bind_of_error ?_⟩
    rw [unitOrder, ordered]
  | ok order =>
    refine .inr ?_
    rcases remediate_answers steady format ordered with given | ⟨report, last, ran⟩
    · exact .inl given
    obtain ⟨order, stops, final, finished, placed, tour, results, cancelled, aborted, rfl⟩ :=
      remediate_of_ok ran
    refine .inr ⟨report, _, ran, order, stops, final, finished, ordered ▸ placed, tour, results, ?_⟩
    intro stop member newer older split inside
    have heeds := fixUnit_heeds aloof stop.unitId stop.before
    rw [tour.fixed stop member, final_ok] at heeds
    obtain ⟨news, follows, prompt, -⟩ := heeds
    obtain ⟨rest, news_eq, -⟩ := follows.split_news split inside
    have asked : stop.after.cancellation.isRequested = true :=
      follows.requested.mpr (.inr (by simp [news_eq]))
    obtain ⟨rfl, stopped, unaborted, result⟩ := tour.of_requested member asked
    exact {
      few := prompt.few newer rest news_eq
      others := fun other different => follows.untouched other <| by
        refine List.countP_eq_zero.mpr fun event within => ?_
        simp [prompt.own event within other different]
      workspace := rfl
      journal := by rw [results]
      cancelled := cancelled.trans stopped
      aborted := aborted.trans unaborted
      result := results ▸ result }

end Engine

namespace Halting

/-! A fixer that requests cancellation and then answers all the same. -/

def offers : Offers Unit := fun diagnostic unit => (Opening.offers diagnostic unit).map .cancel

def engine : Engine Unit where
  analyzers := Opening.engine.analyzers
  fixers := [{
    type := "Halter", package := "plugins", fixableIds := [Opening.descriptor.id], offers
    fixAll := Offers.fixAll Opening.offers }]
  compiler := Compilers.brackets
  formatter := Formatting.whitespace
  config := default
  passLimit := 4

theorem onlyAnalyzersFail : engine.OnlyAnalyzersFail Opening.session where
  compiler _ _ _ := ⟨_, rfl⟩
  offers fixer able diagnostic unit candidate offered := by
    obtain rfl := List.mem_singleton.mp able
    obtain rfl := List.mem_singleton.mp offered
    exact Callback.Answers.cancel (fun _ _ => ⟨_, rfl⟩) (by decide)
  fixAll fixer able context := by
    obtain rfl := List.mem_singleton.mp able
    refine (Callback.Answers.closed Opening.session).fixAll fun diagnostic candidate offered => ?_
    obtain rfl := List.mem_singleton.mp offered
    exact fun _ _ => ⟨_, rfl⟩

theorem leavesWorkspace : engine.LeavesWorkspace where
  compiler _ _ := rfl
  analyzers analyzer member unit session := by
    obtain rfl := List.mem_singleton.mp member
    rfl
  offers fixer able diagnostic unit candidate offered session := by
    obtain rfl := List.mem_singleton.mp able
    obtain rfl := List.mem_singleton.mp offered
    unfold Callback.carryOut
    cases session.cancellation.request? <;> rfl
  fixAll fixer able context := by
    obtain rfl := List.mem_singleton.mp able
    obtain ⟨answer, answers⟩ :=
      Opening.statelessPlugins.fixAll _ (List.mem_singleton_self _) context
    exact fun session => (answers session).2

/-- The session in which work on the first unit starts. -/
def started : Session Unit := (engine.begun Opening.session).started (Opening.source "a") 1 2

/-- The fix that was under way lands; the rest of the unit and the other unit are left alone. -/
theorem remediate_stops_halting :
    ∃ report last, ∃ stop : Stop Unit, ∃ newer : List Event,
      engine.remediate none Opening.session = .ok report last ∧
      stop.EndsRun newer report last ∧ newer.countP (·.isLanding) = 1 := by
  have evaluated : Run.peek? (fun _ _ => ()) (engine.remediate none Opening.session) = some () := by
    cbv
  obtain ⟨report, last, ran, -⟩ := Run.peek?_eq_some.mp evaluated
  have placed : (Opening.session.workspace.order none).toOption = some ["a", "b"] := by cbv
  have seen : Run.peek? (fun _ after =>
      let newer := after.journal.takeWhile (· != .cancelRequested)
      let older := (after.journal.dropWhile (· != .cancelRequested)).tail
      (after.cancellation.isRequested, newer.countP (·.isLanding),
        started.journal.isSuffixOf older, after.journal == newer ++ .cancelRequested :: older))
      (engine.fixUnit "a" started) = some (true, 1, true, true) := by decide +kernel
  obtain ⟨result, after, fixed, seen⟩ := Run.peek?_eq_some.mp seen
  obtain ⟨asked, counted, inside, split⟩ := by simpa only [Prod.mk.injEq] using seen
  rcases Engine.remediate_stops none onlyAnalyzersFail (fun _ _ _ _ => ⟨_, rfl⟩) leavesWorkspace
    with ⟨fault, -, failed⟩ | ⟨_, failed, -⟩ |
      ⟨_, _, again, order, stops, final, finished, ordered, tour, results, stopping⟩
  · rw [ran] at failed
    cases failed
  · rw [ran] at failed
    cases failed
  cases ran.symm.trans again
  obtain rfl : order = ["a", "b"] := by
    rw [ordered] at placed
    exact Option.some.inj placed
  have member := tour.mem_first rfl (by rfl) (by decide) fixed
  exact ⟨report, last, _, _, ran,
    stopping _ member _ _ (by simpa using split) (List.isSuffixOf_iff_suffix.mp inside), counted⟩

end Halting

end FixLoop
