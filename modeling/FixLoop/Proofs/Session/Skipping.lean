import FixLoop.Proofs.Documents
import FixLoop.Proofs.Fields
import FixLoop.Proofs.Plugin.Letters
import FixLoop.Proofs.Session.Building
import FixLoop.Proofs.Session.Endings
import FixLoop.Proofs.Session.Journal
import Mathlib

/-!
What a unit reports as left unfixed. Of each identifier that is what became of it last. A round
takes up only the identifiers that its survey finds, so one that was left unfixed and then went
away, because a fix of another one took it along, is still reported when rounds have converged.
-/

namespace FixLoop

/-! ### What is carried -/

/-- What is reported of an identifier after an outcome. -/
def FixOutcome.skip? (id : String) (outcome : FixOutcome) : Option Skipped :=
  if outcome.ending.status.isSkipped then
    some ⟨id, outcome.ending.status, outcome.ending.detail⟩
  else none

theorem FixOutcome.id_of_skip? {id : String} {outcome : FixOutcome} {skip : Skipped}
    (skipped : outcome.skip? id = some skip) : skip.id = id := by
  unfold skip? at skipped
  split at skipped <;> cases skipped
  rfl

/-- Whether what is carried on says of each identifier what became of it last. -/
structure Progress.Follows (progress : Progress) (outcomes : List (String × FixOutcome)) :
    Prop where
  distinct : (progress.skipped.map (·.1)).Nodup
  lookup : ∀ id, progress.skipped.lookup id = (outcomes.reverse.lookup id).bind (·.skip? id)

theorem Progress.Follows.record {progress : Progress} {outcomes : List (String × FixOutcome)}
    (follows : progress.Follows outcomes) (id : String) (outcome : FixOutcome) :
    (progress.record id outcome).Follows (outcomes ++ [(id, outcome)]) := by
  by_cases left : outcome.ending.status.isSkipped = true
  · have skipped : (progress.record id outcome).skipped =
        putField id ⟨id, outcome.ending.status, outcome.ending.detail⟩ progress.skipped :=
      if_pos left
    refine ⟨skipped ▸ nodup_keys_putField follows.distinct, fun other => ?_⟩
    rw [skipped, lookup_putField, follows.lookup, List.reverse_append]
    by_cases same : other = id
    · simp [same, FixOutcome.skip?, left]
    · simp [same, lookup_cons_of_ne same]
  · have skipped : (progress.record id outcome).skipped =
        progress.skipped.filter (·.1 ≠ id) := if_neg left
    refine ⟨skipped ▸ (List.filter_sublist.map _).nodup follows.distinct, fun other => ?_⟩
    rw [skipped, lookup_filter_ne, follows.lookup, List.reverse_append]
    by_cases same : other = id
    · simp [same, FixOutcome.skip?, left]
    · simp [same, lookup_cons_of_ne same]

namespace Engine

open Run

variable {σ : Type} {engine : Engine σ} {unitId : String} {catalog : Catalog σ}
  {start session last : Session σ} {progress final : Progress} {visits : List Visit}

theorem Fixing.follows {ids : List String} {past outcomes : List (String × FixOutcome)}
    {result : RoundResult}
    (fixing : engine.Fixing unitId catalog ids progress session outcomes result last)
    (follows : progress.Follows past) : result.progress.Follows (past ++ outcomes) := by
  induction fixing generalizing past with
  | done => simpa [RoundResult.progress] using follows
  | stopped requested => simpa [RoundResult.progress] using follows
  | interrupted failed => simpa [RoundResult.progress] using follows
  | broken fixed failed => exact follows.record _ _
  | next fixed builds later ih =>
    have rest := ih (follows.record _ _)
    rwa [List.append_assoc] at rest

theorem RoundStep.follows {past : List (String × FixOutcome)} {result : RoundResult}
    (step : engine.RoundStep unitId catalog progress session visits result last)
    (follows : progress.Follows past) :
    result.progress.Follows (past ++ visits.flatMap (·.outcomes)) := by
  cases step with
  | interrupted requested => simpa [RoundResult.progress] using follows
  | broken surveyed blocked => simpa [RoundResult.progress] using follows
  | converged surveyed builds empty => simpa [RoundResult.progress] using follows
  | oscillated surveyed builds found repeated => simpa [RoundResult.progress] using follows
  | @acted survey middle after outcomes result surveyed builds found fresh fixing =>
    have counted : Progress.Follows { progress with iterations := progress.iterations + 1 } past :=
      ⟨follows.distinct, follows.lookup⟩
    have fixed := fixing.follows counted
    rw [List.flatMap_singleton]
    cases result with
    | ended final ending => exact fixed
    | again next => exact ⟨fixed.distinct, fixed.lookup⟩

/-- Rounds say of each identifier what became of it last. -/
theorem Completed.follows
    (completed : engine.Completed unitId catalog start visits progress session) :
    progress.Follows (visits.flatMap (·.outcomes)) := by
  induction completed with
  | start => exact ⟨List.nodup_nil, fun _ => rfl⟩
  | round earlier step ih =>
    rw [List.flatMap_append]
    exact step.follows ih

section

variable {outcomes : List (String × FixOutcome)} (follows : progress.Follows outcomes)
  (unit : SourceUnit) (ending : UnitEnding)

include follows

/-- A result has the identifiers that were left unfixed by what became of them last. -/
theorem mem_skipped {skip : Skipped} :
    skip ∈ (unitResult unit catalog progress ending).skipped ↔
      ∃ outcome, outcomes.reverse.lookup skip.id = some outcome ∧
        outcome.skip? skip.id = some skip := by
  have stored (id : String) : progress.skipped.lookup id = some skip ↔
      ∃ outcome, outcomes.reverse.lookup id = some outcome ∧ outcome.skip? id = some skip := by
    rw [follows.lookup, Option.bind_eq_some_iff]
  unfold unitResult
  simp only [List.mem_filterMap, mem_sortedIds]
  constructor
  · rintro ⟨id, -, found⟩
    obtain ⟨outcome, became, skipped⟩ := (stored id).mp found
    obtain rfl := FixOutcome.id_of_skip? skipped
    exact ⟨outcome, became, skipped⟩
  · intro became
    have found := (stored skip.id).mpr became
    exact ⟨skip.id, List.mem_map_of_mem ((lookup_eq_some_iff_mem follows.distinct).mp found), found⟩

theorem pairwise_skipped :
    ((unitResult unit catalog progress ending).skipped.map (·.id)).Pairwise (· < ·) := by
  have named {id : String} {skip : Skipped} (found : progress.skipped.lookup id = some skip) :
      skip.id = id := by
    rw [follows.lookup, Option.bind_eq_some_iff] at found
    obtain ⟨outcome, -, skipped⟩ := found
    exact FixOutcome.id_of_skip? skipped
  unfold unitResult
  rw [List.pairwise_map, List.pairwise_filterMap]
  refine (pairwise_sortedIds follows.distinct).imp fun less skip found other too => ?_
  rwa [named found, named too]

end

end Engine

/-! ### Where nothing lands -/

/-- Whether a fix landed in a round. -/
def Visit.Lands (visit : Visit) : Prop := ∃ outcome ∈ visit.outcomes, outcome.2.batches ≠ 0

namespace Engine

open Run

variable {σ : Type} {engine : Engine σ} {unitId id : String} {catalog : Catalog σ}
  {unit : SourceUnit} {diagnostics : List Diagnostic} {state : PassState}
  {start session last : Session σ} {progress : Progress} {visits : List Visit}

theorem BatchStep.counts {result : PassResult} (plugins : engine.StatelessPlugins)
    (fixers : catalog.fixers ⊆ engine.fixers)
    (step : engine.BatchStep unit catalog id diagnostics state session result last) :
    last.workspace = session.workspace ∧ result.batches = state.batches ∨
      result.batches = state.batches + 1 := by
  cases step with
  | ambiguous chose => exact .inl ⟨plugins.workspace_of_choice fixers chose, rfl⟩
  | noAction chose => exact .inl ⟨plugins.workspace_of_choice fixers chose, rfl⟩
  | emptyAction chose empty => exact .inl ⟨plugins.workspace_of_choice fixers chose, rfl⟩
  | rejected chose edits offered =>
    have kept := plugins.workspace_of_choice fixers chose
    obtain ⟨workspace, tried, rfl⟩ := offer_eq_ok.mp offered
    obtain rfl := Workspace.eq_of_tryEdit_rejected tried
    refine .inl ⟨kept, ?_⟩
    unfold afterConflict
    split <;> rfl
  | landed chose edits offered =>
    right
    unfold afterLanding
    split <;> rfl

section

variable (plugins : engine.StatelessPlugins) (analyzers : catalog.analyzers ⊆ engine.analyzers)
  (fixers : catalog.fixers ⊆ engine.fixers)

include plugins analyzers fixers

theorem PassStep.counts {result : PassResult}
    (step : engine.PassStep unitId catalog id state session result last) :
    last.workspace = session.workspace ∧ result.batches = state.batches ∨
      result.batches = state.batches + 1 := by
  cases step with
  | broken inspected blocked => exact .inl ⟨plugins.workspace_of_inspect analyzers inspected, rfl⟩
  | cleared inspected builds empty =>
    exact .inl ⟨plugins.workspace_of_inspect analyzers inspected, rfl⟩
  | stalled inspected builds found repeated =>
    exact .inl ⟨plugins.workspace_of_inspect analyzers inspected, rfl⟩
  | acted inspected builds found fresh fixed =>
    rw [← plugins.workspace_of_inspect analyzers inspected]
    exact fixed.counts plugins fixers

/-- Passes count what lands, and change nothing unless something does. -/
theorem Passing.counts {outcome : FixOutcome}
    (passing : engine.Passing unitId catalog id state session outcome last) :
    state.batches ≤ outcome.batches ∧
      (outcome.batches = state.batches → last.workspace = session.workspace) := by
  induction passing with
  | @done state session last outcome step =>
    rcases step.counts plugins analyzers fixers with ⟨same, kept⟩ | more
    · exact ⟨Nat.le_of_eq kept.symm, fun _ => same⟩
    · change outcome.batches = state.batches + 1 at more
      exact ⟨by omega, fun none => by omega⟩
  | @again state next session middle last outcome step later ih =>
    obtain ⟨least, still⟩ := ih
    rcases step.counts plugins analyzers fixers with ⟨same, kept⟩ | more
    · change next.batches = state.batches at kept
      rw [← kept]
      exact ⟨least, fun none => (still none).trans same⟩
    · change next.batches = state.batches + 1 at more
      exact ⟨by omega, fun none => by omega⟩

/-- Identifiers for which nothing landed leave the workspace as it was. -/
theorem Fixing.workspace_eq {ids : List String} {outcomes : List (String × FixOutcome)}
    {next : Progress}
    (fixing : engine.Fixing unitId catalog ids progress session outcomes (.again next) last)
    (none : ∀ outcome ∈ outcomes, outcome.2.batches = 0) : last.workspace = session.workspace := by
  generalize same : RoundResult.again next = result at fixing
  induction fixing with
  | done => rfl
  | next fixed builds later ih =>
    have first := (passing_of_ok fixed).counts plugins analyzers fixers
    have rest := ih (fun outcome member => none outcome (List.mem_cons_of_mem _ member)) same
    rw [rest, first.2 (none _ List.mem_cons_self)]
  | _ => cases same

/-- If a survey after some rounds finds nothing, or something else than the two rounds before it,
then in each of the rounds a fix landed. -/
theorem Completed.lands {survey : Survey} {rounds : Nat} {after : Session σ}
    (completed : engine.Completed unitId catalog start visits progress session)
    (surveyed : engine.survey unitId catalog rounds session = .ok survey after)
    (new : survey.diagnostics = [] ∨ progress.repeats survey.diagnostics = false) :
    ∀ visit ∈ visits, visit.Lands := by
  induction completed generalizing rounds survey after with
  | start => nofun
  | round earlier step ih =>
    generalize same : RoundResult.again _ = result at step
    cases step with
    | @acted past middle reached outcomes result looked builds found fresh fixing =>
      cases result with
      | ended final ending => cases same
      | again carried =>
        cases same
        intro visit member
        rcases List.mem_append.mp member with before | current
        · exact ih looked (.inr fresh) visit before
        obtain rfl := List.mem_singleton.mp current
        by_contra nothing
        have none : ∀ outcome ∈ outcomes, outcome.2.batches = 0 := fun outcome member =>
          Decidable.byContradiction fun some => nothing ⟨outcome, member, some⟩
        -- The same snapshot is surveyed again, and what it reports is no news.
        have kept := fixing.workspace_eq plugins analyzers fixers none
        obtain ⟨present, -⟩ := survey_eq_ok.mp looked
        obtain ⟨still, again⟩ := plugins.survey_again analyzers looked
        obtain ⟨_, repeated, -⟩ := again _ rounds (by rw [kept]; exact still ▸ present)
        obtain rfl : past = survey := by
          cases repeated.symm.trans surveyed
          rfl
        rcases new with empty | fresh
        · exact found empty
        · have known : Diagnostic.sameFindings past.diagnostics past.diagnostics = true :=
            Diagnostic.sameFindings_iff.mpr (.refl _)
          simp [Progress.repeats, known] at fresh
    | _ => cases same

end

end Engine

/-! ### What is left -/

/-- Whether an identifier was left unfixed by a round and found by none after it. -/
def LeftUnfixed (visits : List Visit) (skip : Skipped) : Prop :=
  ∃ earlier visit later outcome, visits = earlier ++ visit :: later ∧
    (skip.id, outcome) ∈ visit.outcomes ∧ outcome.skip? skip.id = some skip ∧
    ∀ other ∈ later, skip.id ∉ other.survey.diagnostics.map (·.id)

/-- The last item of some kind in a list that is one item longer: that item, or the one that was
last before, if the new one may stand behind it. -/
theorem exists_last_concat {α : Type} {items : List α} {last : α} {kind behind : α → Prop} :
    (∃ earlier item later, items ++ [last] = earlier ++ item :: later ∧ kind item ∧
        ∀ other ∈ later, behind other) ↔
      kind last ∨ behind last ∧ ∃ earlier item later, items = earlier ++ item :: later ∧
        kind item ∧ ∀ other ∈ later, behind other := by
  constructor
  · rintro ⟨earlier, item, later, split, own, follow⟩
    rcases append_eq_append_cons split with ⟨rest, rfl, rfl⟩ | ⟨rest, -, ends⟩
    · have before : ∀ other ∈ rest, behind other := fun other member =>
        follow other (List.mem_append_left _ member)
      exact .inr ⟨follow last (by simp), earlier, item, rest, rfl, own, before⟩
    · obtain rfl : last = item := by cases rest <;> simp_all
      exact .inl own
  · rintro (own | ⟨may, earlier, item, later, rfl, own, follow⟩)
    · exact ⟨items, last, [], rfl, own, nofun⟩
    · refine ⟨earlier, item, later ++ [last], by simp, own, fun other member => ?_⟩
      rcases List.mem_append.mp member with before | ends
      · exact follow other before
      · exact List.mem_singleton.mp ends ▸ may

theorem leftUnfixed_iff {visits : List Visit} {skip : Skipped} :
    LeftUnfixed visits skip ↔ ∃ earlier visit later, visits = earlier ++ visit :: later ∧
      (∃ outcome, (skip.id, outcome) ∈ visit.outcomes ∧ outcome.skip? skip.id = some skip) ∧
      ∀ other ∈ later, skip.id ∉ other.survey.diagnostics.map (·.id) := by
  constructor
  · rintro ⟨earlier, visit, later, outcome, split, among, skipped, unseen⟩
    exact ⟨earlier, visit, later, split, ⟨outcome, among, skipped⟩, unseen⟩
  · rintro ⟨earlier, visit, later, split, ⟨outcome, among, skipped⟩, unseen⟩
    exact ⟨earlier, visit, later, outcome, split, among, skipped, unseen⟩

/-- A round that found nothing changes nothing about that. -/
theorem leftUnfixed_snoc {visits : List Visit} {survey : Survey} {skip : Skipped}
    (empty : survey.diagnostics = []) :
    LeftUnfixed (visits ++ [⟨survey, []⟩]) skip ↔ LeftUnfixed visits skip := by
  rw [leftUnfixed_iff, exists_last_concat, ← leftUnfixed_iff]
  simp [empty]

theorem Visit.IsComplete.mem_ids {visit : Visit} (complete : visit.IsComplete) {id : String} :
    id ∈ visit.outcomes.map (·.1) ↔ id ∈ visit.survey.diagnostics.map (·.id) := by
  rw [complete.fixed, mem_idSet]

theorem Visit.IsComplete.lookup_outcomes {visit : Visit} (complete : visit.IsComplete)
    {id : String} {outcome : FixOutcome} :
    visit.outcomes.reverse.lookup id = some outcome ↔ (id, outcome) ∈ visit.outcomes := by
  have distinct : (visit.outcomes.reverse.map (·.1)).Nodup := by
    rw [List.map_reverse, List.nodup_reverse, complete.fixed]
    exact (pairwise_idSet _).imp fun less => ne_of_lt less
  rw [lookup_eq_some_iff_mem distinct, List.mem_reverse]

theorem Visit.IsComplete.lookup_eq_none {visit : Visit} (complete : visit.IsComplete)
    {id : String} :
    visit.outcomes.reverse.lookup id = none ↔ id ∉ visit.survey.diagnostics.map (·.id) := by
  rw [← complete.mem_ids, Option.eq_none_iff_forall_ne_some]
  constructor
  · intro none member
    obtain ⟨⟨_, outcome⟩, among, rfl⟩ := List.mem_map.mp member
    exact none outcome (complete.lookup_outcomes.mpr among)
  · intro missing outcome found
    exact missing (List.mem_map_of_mem (complete.lookup_outcomes.mp found))

/-- In rounds that were completed, what became of an identifier last is what became of it in the
last round that found it. -/
theorem lookup_outcomes {visits : List Visit} (complete : ∀ visit ∈ visits, visit.IsComplete)
    {id : String} {outcome : FixOutcome} :
    (visits.flatMap (·.outcomes)).reverse.lookup id = some outcome ↔
      ∃ earlier visit later, visits = earlier ++ visit :: later ∧ (id, outcome) ∈ visit.outcomes ∧
        ∀ other ∈ later, id ∉ other.survey.diagnostics.map (·.id) := by
  induction visits using List.reverseRecOn with
  | nil => simp
  | append_singleton visits visit ih =>
    have last := complete visit (by simp)
    have before := ih fun other member => complete other (by simp [member])
    rw [List.flatMap_append, List.flatMap_singleton, List.reverse_append, List.lookup_append,
      Option.or_eq_some_iff, last.lookup_outcomes, last.lookup_eq_none, before, exists_last_concat]

namespace Engine

variable {σ : Type} {engine : Engine σ} {unitId : String} {catalog : Catalog σ}
  {start session last : Session σ} {progress : Progress} {visits : List Visit}

/-- Rounds that converged were completed, all but one that found nothing. -/
theorem Ended.of_converged {limit : Nat}
    (analyzers : catalog.analyzers ⊆ engine.analyzers) (fixers : catalog.fixers ⊆ engine.fixers)
    (ended : engine.Ended unitId catalog start limit visits progress .converged last) :
    ∃ earlier survey before, visits = earlier ++ [⟨survey, []⟩] ∧
      engine.Completed unitId catalog start earlier progress before ∧
      engine.survey unitId catalog progress.iterations before = .ok survey last ∧
      survey.diagnostics = [] := by
  cases ended with
  | @round earlier visit carried _ before _ _ completed below step =>
    generalize same : RoundResult.ended progress .converged = result at step
    cases step with
    | converged surveyed builds empty =>
      cases same
      exact ⟨_, _, _, rfl, completed, surveyed, empty⟩
    | @acted survey middle after outcomes result surveyed builds found fresh fixing =>
      cases result with
      | again next => cases same
      | ended final ending =>
        cases same
        rcases fixing.ended analyzers fixers with ⟨_, _, _, _, other, _⟩ | ⟨other, _⟩
        · cases other
        · cases other
    | _ => cases same

/-- With stateless plugins, a unit on which rounds converged reports as left unfixed, in ascending
order, exactly the identifiers that some round left unfixed and no later one found; in each round
but the last, which found nothing, a fix landed. -/
theorem fixUnit_skips {result : UnitResult} (plugins : engine.StatelessPlugins)
    (ran : engine.fixUnit unitId session = .ok result last) (success : result.kind = .success)
    (below : result.limitReached = false) (running : last.cancellation.isRequested = false) :
    ∃ unit visits progress, session.workspace.snapshot? unitId = some unit ∧
      engine.Course unit session visits progress .converged last ∧
      result = unitResult unit (engine.catalog unit) progress .converged ∧
      (∀ visit ∈ visits, visit.outcomes ≠ [] → visit.Lands) ∧
      (result.skipped.map (·.id)).Pairwise (· < ·) ∧
      ∀ skip, skip ∈ result.skipped ↔ LeftUnfixed visits skip := by
  obtain ⟨unit, found, -, -, visits, progress, ending, course, rfl⟩ := course_of_success ran success
  have analyzers := engine.analyzers_catalog unit
  have fixers := engine.fixers_catalog unit
  obtain ⟨begun, rounded, learnt, ended, noted⟩ := id course
  obtain rfl : ending = .converged := by
    rcases ended.inversion analyzers fixers with ⟨rfl, -⟩ | ⟨rfl, requested⟩ | ⟨rfl, -⟩ | rfl |
      ⟨errors, rfl⟩
    · cases below
    · rw [← (noted_session noted).2, running] at requested
      cases requested
    · rfl
    · cases success
    · cases success
  obtain ⟨earlier, survey, before, rfl, completed, surveyed, empty⟩ :=
    ended.of_converged analyzers fixers
  have follows := completed.follows
  refine ⟨unit, _, progress, found, course, rfl, ?_, pairwise_skipped follows unit .converged, ?_⟩
  · intro visit member worked
    rcases List.mem_append.mp member with member | final
    · exact completed.lands plugins analyzers fixers surveyed (.inl empty) visit member
    · obtain rfl := List.mem_singleton.mp final
      exact absurd rfl worked
  · intro skip
    have complete := (recounts_of_completed completed).complete
    rw [mem_skipped follows unit .converged, leftUnfixed_snoc empty]
    constructor
    · rintro ⟨outcome, became, skipped⟩
      obtain ⟨before, visit, later, split, among, unseen⟩ := (lookup_outcomes complete).mp became
      exact ⟨before, visit, later, outcome, split, among, skipped, unseen⟩
    · rintro ⟨before, visit, later, outcome, split, among, skipped, unseen⟩
      exact ⟨outcome, (lookup_outcomes complete).mpr ⟨before, visit, later, split, among, unseen⟩,
        skipped⟩

end Engine

namespace Vanishing

/-! Two findings at every `p`: one has no fix, the fix for the other replaces the letter. -/

def second : Descriptor where
  id := "X2"
  title := "Replace it too"

def engine : Engine Unit where
  analyzers := [Letters.analyzer 'p', {
    type := "Finder", package := "others", descriptors := [second]
    analyze := fun unit => .answer (Letters.diagnostics second .analyzer 'p' unit) }]
  fixers := [Letters.fixer fun _ _ => [], {
    type := "Fixer", package := "others", fixableIds := [second.id]
    offers := Letters.replacing 'q', fixAll := Offers.fixAll (Letters.replacing 'q') }]
  compiler := { type := "Silent", package := "plugins", compile := fun _ => .answer [] }
  formatter := Formatting.whitespace
  config := default
  passLimit := 4

theorem statelessPlugins : engine.StatelessPlugins where
  compiler _ := ⟨_, fun _ => ⟨rfl, rfl⟩⟩
  analyzers analyzer member unit := by
    rcases List.mem_pair.mp member with rfl | rfl <;> exact ⟨_, fun _ => ⟨rfl, rfl⟩⟩
  offers fixer able diagnostic unit := by
    rcases List.mem_pair.mp able with rfl | rfl
    · exact fun _ offered => nomatch offered
    · exact Letters.replacing_isStateless diagnostic unit
  fixAll fixer able context := by
    rcases List.mem_pair.mp able with rfl | rfl
    · exact Callback.IsStateless.closed.fixAll fun _ _ offered => nomatch offered
    · exact Callback.IsStateless.closed.fixAll fun diagnostic =>
        Letters.replacing_isStateless diagnostic context.unit

/-- What is said of the identifier without a fix. -/
def declined : Skipped := ⟨"X1", .declined, "No fixer produced a fix for the batch"⟩

theorem exists_result : ∃ result last,
    engine.fixUnit "a" (Letters.session ['p']) = .ok result last ∧ result.kind = .success ∧
      result.limitReached = false ∧ last.cancellation.isRequested = false ∧
      last.workspace.snapshot? "a" = some { Letters.source ['q'] with version := 1 } ∧
      result.fixedIds = ["X2"] ∧ result.skipped = [declined] := by
  have evaluated : Run.peek? (fun result last => (result.kind, result.limitReached,
      last.cancellation.isRequested, last.workspace.snapshot? "a", result.fixedIds, result.skipped))
      (engine.fixUnit "a" (Letters.session ['p'])) = some (.success, false, false,
        some { Letters.source ['q'] with version := 1 }, ["X2"], [declined]) := by cbv
  obtain ⟨result, last, ran, seen⟩ := Run.peek?_eq_some.mp evaluated
  simp only [Prod.mk.injEq] at seen
  exact ⟨result, last, ran, seen⟩

/-- What was left by the first round is reported, since the second found nothing. -/
theorem fixUnit_skips_vanished :
    ∃ visits progress last, engine.Course (Letters.source ['p']) (Letters.session ['p']) visits
        progress .converged last ∧
      (∀ visit ∈ visits, visit.outcomes ≠ [] → visit.Lands) ∧ LeftUnfixed visits declined := by
  obtain ⟨result, last, ran, success, below, running, -, -, skipped⟩ := exists_result
  obtain ⟨unit, visits, progress, found, course, -, lands, -, left⟩ :=
    Engine.fixUnit_skips statelessPlugins ran success below running
  obtain rfl : Letters.source ['p'] = unit := Option.some.inj found
  exact ⟨visits, progress, last, course, lands, (left declined).mp (by simp [skipped])⟩

/-- The unit is as wished after one round, and nothing is found in it, but the identifier that went
away with the letter is reported as left unfixed. -/
theorem converged_but_skipped :
    engine.StatelessPlugins ∧ ∃ result last,
      engine.fixUnit "a" (Letters.session ['p']) = .ok result last ∧ result.kind = .success ∧
        result.limitReached = false ∧ last.cancellation.isRequested = false ∧
        last.workspace.snapshot? "a" = some { Letters.source ['q'] with version := 1 } ∧
        result.fixedIds = ["X2"] ∧ result.skipped = [declined] :=
  ⟨statelessPlugins, exists_result⟩

end Vanishing

end FixLoop
