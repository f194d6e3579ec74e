import FixLoop.Proofs.Findings
import FixLoop.Proofs.Plugin.Builtin
import FixLoop.Proofs.Session.Course

/-!
How fixing a unit ends. The rounds that acted never act on what one of the two rounds before acted
on, and the result of a run that was not cancelled tells which of four things ended it. The
invariant is that the two remembered reports are those of the last two visits.
-/

namespace FixLoop

open Diagnostic (findings sameFindings sameFindings_iff not_sameFindings_nil)

namespace Visit

/-- The report of a round whose unit built. -/
def report? (visit : Visit) : Option (List Diagnostic) :=
  if visit.survey.errors = [] then some visit.survey.diagnostics else none

/-- Whether errors that keep the unit from building were found, by the round or by a fix in it. -/
def FoundErrors (visit : Visit) : Prop :=
  visit.survey.errors ≠ [] ∨
    ∃ outcome ∈ visit.outcomes, ∃ errors, errors ≠ [] ∧ outcome.2.ending = .buildFailed errors

/-- Whether a round built, found something, and fixed all identifiers it found, none of which ended
in a failed build. -/
structure IsComplete (visit : Visit) : Prop where
  builds : visit.survey.errors = []
  found : visit.survey.diagnostics ≠ []
  fixed : visit.outcomes.map (·.1) = idSet (visit.survey.diagnostics.map (·.id))
  unbroken : ∀ outcome ∈ visit.outcomes, ∀ errors, outcome.2.ending ≠ .buildFailed errors

theorem IsComplete.not_foundErrors {visit : Visit} (complete : visit.IsComplete) :
    ¬ visit.FoundErrors := by
  rintro (blocked | ⟨outcome, fixed, errors, -, failed⟩)
  · exact blocked complete.builds
  · exact complete.unbroken outcome fixed errors failed

end Visit

/-- The reports of rounds, up to the first whose unit did not build. -/
def reports (visits : List Visit) : List (List Diagnostic) := visits.filterMap (·.report?)

/-- The report of a round counted from the last; none is like an empty one. -/
def recent (visits : List Visit) (back : Nat) : List Diagnostic :=
  visits.reverse[back]?.elim [] (·.survey.diagnostics)

/-- Whether no round found what one of the two before it had found. -/
def Fresh (visits : List Visit) : Prop :=
  ∀ i j older newer, visits[i]? = some older → visits[j]? = some newer → i < j → j ≤ i + 2 →
    sameFindings newer.survey.diagnostics older.survey.diagnostics = false

/-- Whether what is carried into the next round agrees with the rounds so far. -/
structure Recounts (visits : List Visit) (progress : Progress) : Prop where
  iterations : progress.iterations = visits.length
  previous : progress.previous = recent visits 0
  beforePrevious : progress.beforePrevious = recent visits 1
  complete : ∀ visit ∈ visits, visit.IsComplete
  fresh : Fresh visits

/-- What a result says of the rounds that led to it. -/
structure Accounts (limit : Nat) (visits : List Visit) (result : UnitResult) : Prop where
  bounded : result.iterations ≤ limit
  acted : result.iterations ≤ (reports visits).length
  distinct : ∀ i j older newer, (reports visits)[i]? = some older →
    (reports visits)[j]? = some newer → i < j → j ≤ i + 2 → j < result.iterations →
    ¬ (findings older).Perm (findings newer)
  compilerError : result.kind = .compilerError ↔ ∃ visit ∈ visits, visit.FoundErrors
  oscillation : result.kind = .oscillation ↔
    ∃ report, (reports visits)[result.iterations]? = some report ∧ report ≠ [] ∧
      ∃ k earlier, k < result.iterations ∧ result.iterations ≤ k + 2 ∧
        (reports visits)[k]? = some earlier ∧ (findings report).Perm (findings earlier)
  limitReached : result.kind = .success ∧ result.limitReached = true ↔
    result.iterations = limit ∧
      ∃ visit, visits[result.iterations - 1]? = some visit ∧ visit.IsComplete
  converged : result.kind = .success ∧ result.limitReached = false ↔
    (reports visits)[result.iterations]? = some []
  exhaustive : result.kind = .compilerError ∨ result.kind = .oscillation ∨ result.kind = .success

variable {visits : List Visit} {visit : Visit} {progress : Progress}

theorem reports_append (earlier later : List Visit) :
    reports (earlier ++ later) = reports earlier ++ reports later := List.filterMap_append

theorem reports_of_builds (builds : ∀ visit ∈ visits, visit.survey.errors = []) :
    reports visits = visits.map (·.survey.diagnostics) := by
  induction visits with
  | nil => rfl
  | cons visit rest ih =>
    have first : visit.report? = some visit.survey.diagnostics := if_pos (builds visit (by simp))
    have others := ih fun other member => builds other (by simp [member])
    unfold reports at others ⊢
    rw [List.filterMap_cons_some first, others, List.map_cons]

/-- Rounds that built have a report each, and the next report is that of the round after them. -/
theorem getElem?_reports (builds : ∀ visit ∈ visits, visit.survey.errors = [])
    (later : List Visit) (k : Nat) :
    (reports (visits ++ later))[k]? =
      if k < visits.length then visits[k]?.map (·.survey.diagnostics)
      else (reports later)[k - visits.length]? := by
  rw [reports_append, reports_of_builds builds, List.getElem?_append, List.length_map,
    List.getElem?_map]

theorem Fresh.distinct (fresh : Fresh visits)
    (builds : ∀ visit ∈ visits, visit.survey.errors = []) (later : List Visit) :
    ∀ i j older newer, (reports (visits ++ later))[i]? = some older →
      (reports (visits ++ later))[j]? = some newer → i < j → j ≤ i + 2 → j < visits.length →
      ¬ (findings older).Perm (findings newer) := by
  intro i j older newer earlier current before near inside permuted
  rw [getElem?_reports builds, if_pos (by omega)] at earlier
  rw [getElem?_reports builds, if_pos inside] at current
  obtain ⟨past, there, rfl⟩ := Option.map_eq_some_iff.mp earlier
  obtain ⟨visit, here, rfl⟩ := Option.map_eq_some_iff.mp current
  have different := fresh i j past visit there here before near
  rw [sameFindings_iff.mpr permuted.symm] at different
  cases different

@[simp] theorem recent_append_zero : recent (visits ++ [visit]) 0 = visit.survey.diagnostics := by
  simp [recent]

@[simp] theorem recent_append_succ (back : Nat) :
    recent (visits ++ [visit]) (back + 1) = recent visits back := by
  simp [recent]

/-- Only a round that there was can have found what is found now. -/
theorem sameFindings_recent {back : Nat} {report : List Diagnostic} (found : report ≠ []) :
    sameFindings report (recent visits back) = true ↔
      ∃ k earlier, visits[k]? = some earlier ∧ k + back + 1 = visits.length ∧
        sameFindings report earlier.survey.diagnostics = true := by
  unfold recent
  by_cases inside : back < visits.length
  · rw [List.getElem?_reverse inside, List.getElem?_eq_getElem (by omega)]
    constructor
    · intro same
      exact ⟨_, _, List.getElem?_eq_getElem (by omega), by omega, same⟩
    · intro ⟨k, earlier, there, place, same⟩
      obtain rfl : k = visits.length - 1 - back := by omega
      rw [List.getElem?_eq_getElem (by omega)] at there
      cases there
      exact same
  · rw [List.getElem?_eq_none (by simpa using inside)]
    simp only [Option.elim_none, not_sameFindings_nil found, Bool.false_eq_true, false_iff]
    rintro ⟨k, earlier, there, place, -⟩
    omega

namespace Recounts

/-- A round repeats an earlier one if one of the last two rounds found the same. -/
theorem repeats_iff (recounts : Recounts visits progress) {report : List Diagnostic}
    (found : report ≠ []) :
    progress.repeats report = true ↔
      ∃ k earlier, visits[k]? = some earlier ∧ visits.length ≤ k + 2 ∧
        sameFindings report earlier.survey.diagnostics = true := by
  simp only [Progress.repeats, Bool.or_eq_true, recounts.previous, recounts.beforePrevious,
    sameFindings_recent found]
  constructor
  · rintro (⟨k, earlier, there, place, same⟩ | ⟨k, earlier, there, place, same⟩)
    · exact ⟨k, earlier, there, by omega, same⟩
    · exact ⟨k, earlier, there, by omega, same⟩
  · intro ⟨k, earlier, there, near, same⟩
    have inside := (List.getElem?_eq_some_iff.mp there).1
    rcases (by omega : k + 0 + 1 = visits.length ∨ k + 1 + 1 = visits.length) with last | before
    · exact .inl ⟨k, earlier, there, last, same⟩
    · exact .inr ⟨k, earlier, there, before, same⟩

/-- A round that repeats none of the two before it keeps all rounds fresh. -/
theorem fresh_snoc (recounts : Recounts visits progress) (found : visit.survey.diagnostics ≠ [])
    (new : progress.repeats visit.survey.diagnostics = false) : Fresh (visits ++ [visit]) := by
  intro i j older newer earlier later before near
  have inside := (List.getElem?_eq_some_iff.mp later).1
  rw [List.length_append, List.length_singleton] at inside
  rw [List.getElem?_append_left (by omega)] at earlier
  rcases (by omega : j < visits.length ∨ j = visits.length) with past | rfl
  · rw [List.getElem?_append_left past] at later
    exact recounts.fresh i j older newer earlier later before near
  · rw [List.getElem?_concat_length] at later
    cases later
    apply Bool.eq_false_iff.mpr
    intro same
    have repeated := (recounts.repeats_iff found).mpr ⟨i, older, earlier, near, same⟩
    rw [new] at repeated
    cases repeated

end Recounts

namespace Engine

variable {σ : Type} {engine : Engine σ} {unitId : String} {catalog : Catalog σ}
  {start session last : Session σ} {final : Progress}

theorem recounts_of_completed
    (completed : engine.Completed unitId catalog start visits progress session) :
    Recounts visits progress := by
  induction completed with
  | start => exact ⟨rfl, rfl, rfl, nofun, nofun⟩
  | @round visits visit progress next session after earlier step ih =>
    generalize same : RoundResult.again next = result at step
    cases step with
    | @acted survey middle after outcomes result surveyed builds found new fixing =>
      cases result with
      | ended final ending => cases same
      | again carried =>
        cases same
        obtain ⟨iterations, previous, -⟩ := fixing.remembers
        obtain ⟨all, unbroken⟩ := fixing.complete
        refine ⟨?_, ?_, ?_, ?_, ih.fresh_snoc found new⟩
        · exact iterations.trans (by simp [ih.iterations])
        · simp
        · exact (previous.trans ih.previous).trans (recent_append_succ 0).symm
        · intro other member
          rcases List.mem_append.mp member with past | current
          · exact ih.complete other past
          · obtain rfl := List.mem_singleton.mp current
            exact ⟨builds, found, all, unbroken⟩
    | _ => cases same

end Engine

namespace Recounts

variable {σ : Type} {unit : SourceUnit} {catalog : Catalog σ} {limit : Nat} {survey : Survey}

theorem builds (recounts : Recounts visits progress) :
    ∀ visit ∈ visits, visit.survey.errors = [] :=
  fun visit member => (recounts.complete visit member).builds

theorem not_foundErrors (recounts : Recounts visits progress) :
    ¬ ∃ visit ∈ visits, visit.FoundErrors :=
  fun ⟨visit, member, found⟩ => (recounts.complete visit member).not_foundErrors found

theorem reports_next (recounts : Recounts visits progress) (later : List Visit) :
    (reports (visits ++ later))[progress.iterations]? = (reports later)[0]? := by
  rw [getElem?_reports recounts.builds, recounts.iterations, if_neg (Nat.lt_irrefl _),
    Nat.sub_self]

theorem reports_earlier (recounts : Recounts visits progress) (later : List Visit) {k : Nat}
    (inside : k < progress.iterations) :
    (reports (visits ++ later))[k]? = visits[k]?.map (·.survey.diagnostics) := by
  rw [getElem?_reports recounts.builds, if_pos (recounts.iterations ▸ inside)]

theorem le_length_reports (recounts : Recounts visits progress) (later : List Visit) :
    progress.iterations ≤ (reports (visits ++ later)).length := by
  rw [reports_append, reports_of_builds recounts.builds, List.length_append, List.length_map,
    recounts.iterations]
  exact Nat.le_add_right _ _

theorem distinct (recounts : Recounts visits progress) (later : List Visit) :
    ∀ i j older newer, (reports (visits ++ later))[i]? = some older →
      (reports (visits ++ later))[j]? = some newer → i < j → j ≤ i + 2 →
      j < progress.iterations → ¬ (findings older).Perm (findings newer) :=
  recounts.iterations ▸ recounts.fresh.distinct recounts.builds later

/-- Rounds that reached their limit. -/
theorem accounts_limit (recounts : Recounts visits progress)
    (reached : progress.iterations = limit) (positive : 0 < limit) :
    Accounts limit visits (Engine.unitResult unit catalog progress .limitReached) := by
  obtain ⟨last, there⟩ : ∃ last, visits[progress.iterations - 1]? = some last :=
    ⟨_, List.getElem?_eq_getElem (by have := recounts.iterations; omega)⟩
  have complete := recounts.complete last (List.mem_of_getElem? there)
  have past := recounts.reports_next []
  have acted := recounts.le_length_reports []
  have distinct := recounts.distinct []
  rw [List.append_nil] at past acted distinct
  exact {
    bounded := Nat.le_of_eq reached
    acted
    distinct
    compilerError := iff_of_false nofun recounts.not_foundErrors
    oscillation := iff_of_false nofun fun ⟨_, found, _⟩ => nomatch past.symm.trans found
    limitReached := iff_of_true ⟨rfl, rfl⟩ ⟨reached, last, there, complete⟩
    converged := iff_of_false nofun fun found => nomatch past.symm.trans found
    exhaustive := .inr (.inr rfl) }

/-- Rounds before one that found the unit not to build. -/
theorem accounts_broken (recounts : Recounts visits progress)
    (below : progress.iterations < limit) (blocked : survey.errors ≠ []) :
    Accounts limit (visits ++ [⟨survey, []⟩])
      (Engine.unitResult unit catalog progress (.buildFailed survey.errors)) := by
  have next : (reports (visits ++ [⟨survey, []⟩]))[progress.iterations]? = none := by
    rw [recounts.reports_next]
    simp [reports, Visit.report?, blocked]
  exact {
    bounded := Nat.le_of_lt below
    acted := recounts.le_length_reports _
    distinct := recounts.distinct _
    compilerError := iff_of_true rfl ⟨_, List.mem_concat_self, .inl blocked⟩
    oscillation := iff_of_false nofun fun ⟨_, found, _⟩ => nomatch next.symm.trans found
    limitReached := iff_of_false nofun fun ⟨reached, _⟩ => absurd reached (Nat.ne_of_lt below)
    converged := iff_of_false nofun fun found => nomatch next.symm.trans found
    exhaustive := .inl rfl }

/-- No errors are found up to a round that only looked at a unit that builds. -/
theorem not_foundErrors_snoc (recounts : Recounts visits progress) (builds : survey.errors = []) :
    ¬ ∃ visit ∈ visits ++ [⟨survey, []⟩], visit.FoundErrors := by
  rintro ⟨visit, member, found⟩
  rcases List.mem_append.mp member with past | current
  · exact recounts.not_foundErrors ⟨visit, past, found⟩
  · obtain rfl := List.mem_singleton.mp current
    rcases found with blocked | ⟨outcome, fixed, -⟩
    · exact blocked builds
    · cases fixed

/-- Rounds before one that found nothing. -/
theorem accounts_converged (recounts : Recounts visits progress)
    (below : progress.iterations < limit) (builds : survey.errors = [])
    (empty : survey.diagnostics = []) :
    Accounts limit (visits ++ [⟨survey, []⟩])
      (Engine.unitResult unit catalog progress .converged) := by
  have next : (reports (visits ++ [⟨survey, []⟩]))[progress.iterations]? = some [] := by
    rw [recounts.reports_next]
    simp [reports, Visit.report?, builds, empty]
  exact {
    bounded := Nat.le_of_lt below
    acted := recounts.le_length_reports _
    distinct := recounts.distinct _
    compilerError := iff_of_false nofun (recounts.not_foundErrors_snoc builds)
    oscillation := iff_of_false nofun fun ⟨_, there, found, _⟩ =>
      found (Option.some.inj (there.symm.trans next))
    limitReached := iff_of_false nofun fun ⟨reached, _⟩ => absurd reached (Nat.ne_of_lt below)
    converged := iff_of_true ⟨rfl, rfl⟩ next
    exhaustive := .inr (.inr rfl) }

/-- Rounds before one that found what one of the last two had found. -/
theorem accounts_oscillated (recounts : Recounts visits progress)
    (below : progress.iterations < limit) (builds : survey.errors = [])
    (found : survey.diagnostics ≠ []) (repeated : progress.repeats survey.diagnostics = true) :
    Accounts limit (visits ++ [⟨survey, []⟩])
      (Engine.unitResult unit catalog progress .oscillated) := by
  have next : (reports (visits ++ [⟨survey, []⟩]))[progress.iterations]? =
      some survey.diagnostics := by
    rw [recounts.reports_next]
    simp [reports, Visit.report?, builds]
  obtain ⟨k, earlier, there, near, same⟩ := (recounts.repeats_iff found).mp repeated
  have inside : k < progress.iterations :=
    recounts.iterations ▸ (List.getElem?_eq_some_iff.mp there).1
  have past : (reports (visits ++ [⟨survey, []⟩]))[k]? = some earlier.survey.diagnostics := by
    rw [recounts.reports_earlier _ inside, there, Option.map_some]
  exact {
    bounded := Nat.le_of_lt below
    acted := recounts.le_length_reports _
    distinct := recounts.distinct _
    compilerError := iff_of_false nofun (recounts.not_foundErrors_snoc builds)
    oscillation := iff_of_true rfl ⟨_, next, found, k, _, inside,
      Nat.le_trans (Nat.le_of_eq recounts.iterations) near, past, sameFindings_iff.mp same⟩
    limitReached := iff_of_false nofun fun ⟨reached, _⟩ => absurd reached (Nat.ne_of_lt below)
    converged := iff_of_false nofun fun empty => found (Option.some.inj (next.symm.trans empty))
    exhaustive := .inr (.inl rfl) }

/-- Rounds up to one in which a fix found the unit not to build. -/
theorem accounts_fixFailed (recounts : Recounts visits progress) {final : Progress}
    {errors : List Diagnostic} (below : progress.iterations < limit)
    (builds : visit.survey.errors = []) (found : visit.survey.diagnostics ≠ [])
    (new : progress.repeats visit.survey.diagnostics = false)
    (count : final.iterations = progress.iterations + 1)
    (failed : ∃ outcome ∈ visit.outcomes, ∃ errors, errors ≠ [] ∧
      outcome.2.ending = .buildFailed errors) :
    Accounts limit (visits ++ [visit])
      (Engine.unitResult unit catalog final (.buildFailed errors)) := by
  have length : final.iterations = (visits ++ [visit]).length := by
    rw [count, recounts.iterations, List.length_append, List.length_singleton]
  have all : ∀ other ∈ visits ++ [visit], other.survey.errors = [] := by
    intro other member
    rcases List.mem_append.mp member with past | current
    · exact recounts.builds other past
    · exact List.mem_singleton.mp current ▸ builds
  have next : (reports (visits ++ [visit]))[final.iterations]? = none := by
    rw [reports_of_builds all, length]
    simp
  have distinct := (recounts.fresh_snoc found new).distinct all []
  rw [List.append_nil, ← length] at distinct
  exact {
    bounded := Nat.le_trans (Nat.le_of_eq count) below
    acted := by simp [Engine.unitResult, reports_of_builds all, length]
    distinct
    compilerError := iff_of_true rfl ⟨visit, List.mem_concat_self, .inr failed⟩
    oscillation := iff_of_false nofun fun ⟨_, there, _⟩ => nomatch next.symm.trans there
    limitReached := iff_of_false nofun fun ⟨_, last, there, complete⟩ => by
      change (visits ++ [visit])[final.iterations - 1]? = some last at there
      rw [count, Nat.add_sub_cancel, recounts.iterations, List.getElem?_concat_length] at there
      cases there
      exact complete.not_foundErrors (.inr failed)
    converged := iff_of_false nofun fun there => nomatch next.symm.trans there
    exhaustive := .inl rfl }

end Recounts

namespace Engine

open Run

variable {σ : Type} {engine : Engine σ} {unitId : String} {catalog : Catalog σ} {unit : SourceUnit}
  {start session last : Session σ} {final : Progress} {limit : Nat} {ending : UnitEnding}

theorem accounts_of_ended (analyzers : catalog.analyzers ⊆ engine.analyzers)
    (fixers : catalog.fixers ⊆ engine.fixers) (positive : 0 < limit)
    (running : last.cancellation.isRequested = false)
    (ended : engine.Ended unitId catalog start limit visits final ending last) :
    Accounts limit visits (unitResult unit catalog final ending) := by
  cases ended with
  | limit completed reached =>
    exact (recounts_of_completed completed).accounts_limit reached positive
  | @round visits visit progress final session last ending completed below step =>
    have recounts := recounts_of_completed completed
    generalize same : RoundResult.ended final ending = result at step
    cases step with
    | interrupted requested => simp [requested] at running
    | broken surveyed blocked =>
      cases same
      exact recounts.accounts_broken below blocked
    | converged surveyed builds empty =>
      cases same
      exact recounts.accounts_converged below builds empty
    | oscillated surveyed builds found repeated =>
      cases same
      exact recounts.accounts_oscillated below builds found repeated
    | @acted survey middle _ outcomes result surveyed builds found new fixing =>
      cases result with
      | again next => cases same
      | ended progress ending =>
        cases same
        rcases fixing.ended analyzers fixers with ⟨outcome, member, errors, some, rfl, failed⟩ |
          ⟨rfl, requested⟩
        · exact recounts.accounts_fixFailed below builds found new fixing.remembers.1
            ⟨outcome, member, errors, some, failed⟩
        · simp [requested] at running

/-- Fixing a unit for which there are analyzers and fixers, none but the analyzers giving up, comes
to a result unless passes do not come to an end; and if it was not cancelled, the result accounts
for the rounds that it went through. -/
theorem fixUnit_accounts (found : session.workspace.snapshot? unitId = some unit)
    (analyzers : (engine.catalog unit).analyzers ≠ [])
    (fixers : (engine.catalog unit).fixers ≠ []) (steady : engine.OnlyAnalyzersFail session) :
    (∃ last, engine.fixUnit unitId session = .error .unfinished last) ∨
      ∃ result last, engine.fixUnit unitId session = .ok result last ∧
        (last.cancellation.isRequested = false → ∃ visits progress ending,
          engine.Course unit session visits progress ending last ∧
            result = unitResult unit (engine.catalog unit) progress ending ∧
            Accounts engine.config.maxIterations visits result) := by
  have known := Workspace.mem_ids_of_snapshot? found
  rcases fixUnit_answers steady known with unfinished | ⟨result, last, ran⟩
  · exact .inl unfinished
  refine .inr ⟨result, last, ran, fun running => ?_⟩
  obtain ⟨current, present, gone⟩ := fixUnit_of_ok ran
  obtain rfl : unit = current := Option.some.inj (found.symm.trans present)
  rcases gone with ⟨none, -⟩ | ⟨none, -⟩ | ⟨-, -, visits, progress, ending, course, rfl⟩
  · exact absurd none analyzers
  · exact absurd none fixers
  refine ⟨visits, progress, ending, course, rfl, ?_⟩
  obtain ⟨begun, rounded, learnt, ended, noted⟩ := course
  rw [(noted_session noted).2] at running
  exact accounts_of_ended (engine.analyzers_catalog unit) (engine.fixers_catalog unit)
    engine.config.maxIterations_pos running ended

/-- A missing newline takes one round to add and another to see that nothing is left. -/
theorem fixUnit_accounts_unended : ∃ result last,
    (FinalNewline.engine {}).fixUnit "a" FinalNewline.session = .ok result last ∧
      result.iterations = 1 ∧ result.limitReached = false ∧
      ∃ visits, Accounts 100 visits result := by
  have evaluated : peek? (fun result last =>
      (result.iterations, result.limitReached, last.cancellation.isRequested))
      ((FinalNewline.engine {}).fixUnit "a" FinalNewline.session) = some (1, false, false) := by
    decide +kernel
  have accounted := @fixUnit_accounts Unit (FinalNewline.engine {}) "a" FinalNewline.unended
    FinalNewline.session rfl (by decide) (by decide) (FinalNewline.onlyAnalyzersFail _)
  rcases accounted with ⟨last, failed⟩ | ⟨result, last, ran, accounted⟩
  · rw [failed] at evaluated
    cases evaluated
  · rw [ran] at evaluated
    simp only [peek?, Option.some.injEq, Prod.mk.injEq] at evaluated
    obtain ⟨count, flag, running⟩ := evaluated
    obtain ⟨visits, _, _, _, _, accounts⟩ := accounted running
    exact ⟨result, last, ran, count, flag, visits, accounts⟩

end Engine

end FixLoop
