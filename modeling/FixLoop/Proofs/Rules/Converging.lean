import FixLoop.Proofs.Rules.Mending
import Mathlib.Data.List.Nodup
import Mathlib.Data.List.Sort

/-!
Keepers whose rules stay kept. If mending the other rules does not break a rule, the rule is kept
from the first round on in which it is mended. So if all rules but one are like that, the second
round finds only that one broken, and the third one finds nothing.
-/

namespace FixLoop

variable {σ : Type}

namespace Keeper

variable {keepers : List (Keeper σ)} {keeper : Keeper σ} {ids : List String} {text result : Text}

/-- Whether a rule stays kept when other rules, those of some identifiers, are mended. -/
def Stays (keeper : Keeper σ) (keepers : List (Keeper σ)) (ids : List String) : Prop :=
  ∀ other ∈ keepers, other.id ∈ ids → other.id ≠ keeper.id →
    keeper.rule.Withstands other.rule

theorem eq_of_id {other : Keeper σ} (distinct : (keepers.map (·.id)).Nodup)
    (member : keeper ∈ keepers) (among : other ∈ keepers) (same : other.id = keeper.id) :
    other = keeper :=
  List.inj_on_of_nodup_map distinct among member same

theorem Stays.of_cleans {other : Keeper σ} (stays : keeper.Stays keepers ids)
    (among : other ∈ keepers) (named : other.id ∈ ids) (apart : other.id ≠ keeper.id)
    (tidy : text.isTidy = true) (cleans : other.rule.Cleans text result)
    (clean : keeper.rule.spans text = []) : keeper.rule.spans result = [] := by
  obtain ⟨mends, -⟩ := cleans
  induction mends with
  | refl => exact clean
  | tail earlier step ih =>
    exact stays other among named apart (other.lawful.tidy_of_mends tidy earlier) step ih

theorem Chain.isTidy (chain : Chain keepers ids text result) (tidy : text.isTidy = true) :
    result.isTidy = true := by
  induction chain with
  | nil => exact tidy
  | @cons keeper _ _ _ _ _ cleans _ ih => exact ih (keeper.lawful.tidy_of_mends tidy cleans.mends)

theorem Chain.uncons (distinct : (keepers.map (·.id)).Nodup) (member : keeper ∈ keepers)
    (chain : Chain keepers (keeper.id :: ids) text result) :
    ∃ middle, keeper.rule.Cleans text middle ∧ Chain keepers ids middle result := by
  generalize whole : keeper.id :: ids = named at chain
  cases chain with
  | nil => cases whole
  | cons among cleans later =>
    obtain ⟨same, rfl⟩ := List.cons.inj whole
    obtain rfl := eq_of_id distinct among member same
    exact ⟨_, cleans, later⟩

theorem Chain.eq_of_nil (chain : Chain keepers [] text result) : result = text := by
  cases chain
  rfl

/-- A rule that stays kept is kept after it was mended, and if it was kept before. -/
theorem Chain.clean (distinct : (keepers.map (·.id)).Nodup) (member : keeper ∈ keepers)
    (stays : keeper.Stays keepers ids) (chain : Chain keepers ids text result)
    (tidy : text.isTidy = true) (either : keeper.id ∈ ids ∨ keeper.rule.spans text = []) :
    keeper.rule.spans result = [] := by
  induction chain with
  | nil => exact either.resolve_left List.not_mem_nil
  | @cons other ids text middle result among cleans later ih =>
    have whole := other.lawful.tidy_of_mends tidy cleans.mends
    have still : keeper.Stays keepers ids := fun another among named =>
      stays another among (List.mem_cons_of_mem _ named)
    by_cases own : other.id = keeper.id
    · obtain rfl := eq_of_id distinct member among own
      exact ih still whole (.inr cleans.clean)
    · refine ih still whole ?_
      rcases either with named | clean
      · exact .inl ((List.mem_cons.mp named).resolve_left (Ne.symm own))
      · exact .inr (stays.of_cleans among List.mem_cons_self own tidy cleans clean)

/-- If rules stay kept, mending one that is kept already makes no difference, so those that are
broken can be mended as if all were. -/
theorem Chain.fill {order : List (Keeper σ)} (distinct : (keepers.map (·.id)).Nodup)
    (stay : ∀ keeper ∈ keepers, ∀ ids, keeper.Stays keepers ids) (part : order.Sublist keepers)
    (some : ids.Sublist (order.map (·.id)))
    (kept : ∀ keeper ∈ order, keeper.id ∉ ids → keeper.rule.spans text = [])
    (chain : Chain keepers ids text result) (tidy : text.isTidy = true) :
    Chain keepers (order.map (·.id)) text result := by
  induction order generalizing ids text with
  | nil =>
    rw [List.sublist_nil.mp some] at chain
    exact chain
  | cons first order ih =>
    have member := part.subset List.mem_cons_self
    have fewer : order.Sublist keepers := (List.sublist_cons_self _ _).trans part
    have once := distinct.sublist (part.map (·.id))
    obtain ⟨apart, -⟩ := List.nodup_cons.mp once
    rw [List.map_cons] at some ⊢
    cases some with
    | cons _ some =>
      have unnamed : first.id ∉ ids := fun named => apart (some.subset named)
      have clean := kept first List.mem_cons_self unnamed
      refine .cons member ⟨.refl, clean⟩ (ih fewer some ?_ chain tidy)
      exact fun keeper among => kept keeper (List.mem_cons_of_mem _ among)
    | cons_cons _ some =>
      obtain ⟨middle, cleans, later⟩ := chain.uncons distinct member
      refine .cons member cleans (ih fewer some ?_ later ?_)
      · intro keeper within unnamed
        have listed : keeper.id ∈ order.map (·.id) := List.mem_map_of_mem within
        have different : keeper.id ≠ first.id := fun same => by
          rw [same] at listed
          exact apart listed
        have clean := kept keeper (List.mem_cons_of_mem _ within)
          fun named => (List.mem_cons.mp named).elim different unnamed
        exact (stay keeper (fewer.subset within) [first.id]).of_cleans member
          List.mem_cons_self different.symm tidy cleans clean
      · exact first.lawful.tidy_of_mends tidy cleans.mends

theorem brokenIds_sublist {unit : SourceUnit}
    (ascending : (keepers.map (·.id)).Pairwise (· < ·)) :
    (brokenIds keepers unit).Sublist (keepers.map (·.id)) := by
  have sorted : (brokenIds keepers unit).Pairwise (· < ·) := pairwise_idSet _
  have antisymm : Std.Antisymm fun a b : String => a < b :=
    ⟨fun _ _ first second => absurd first (String.lt_asymm second)⟩
  have once : (brokenIds keepers unit).Nodup := sorted.imp String.ne_of_lt
  refine List.sublist_of_subperm_of_pairwise (List.subperm_of_subset once ?_) sorted ascending
  intro id broken
  obtain ⟨keeper, member, rfl, -⟩ := mem_brokenIds.mp broken
  exact List.mem_map_of_mem member

/-- If all rules but one stay kept, mending that one alone leaves the others kept. -/
theorem stays_of_lead {lead : String}
    (stay : ∀ keeper ∈ keepers, keeper.id ≠ lead → ∀ ids, keeper.Stays keepers ids)
    (only : ∀ id ∈ ids, id = lead) (member : keeper ∈ keepers) : keeper.Stays keepers ids := by
  by_cases own : keeper.id = lead
  · intro other _ named apart
    exact absurd ((only _ named).trans own.symm) apart
  · exact stay keeper member own ids

/-- A rule that stays kept is kept in a unit in which the rules that it broke were mended. -/
theorem diagnostics_eq_nil_of_chain {unit next : SourceUnit} (distinct : (keepers.map (·.id)).Nodup)
    (member : keeper ∈ keepers) (stays : keeper.Stays keepers (brokenIds keepers unit))
    (tidy : unit.IsTidy)
    (rewritten : unit.Rewritten (Chain keepers (brokenIds keepers unit)) next) :
    keeper.rule.diagnostics next = [] := by
  refine Rule.diagnostics_eq_nil.mpr fun after among => ?_
  obtain ⟨document, present, -, chain⟩ := rewritten.exists_source among
  refine chain.clean distinct member stays (tidy.tidy document present) ?_
  by_cases clean : keeper.rule.diagnostics unit = []
  · exact .inr (Rule.diagnostics_eq_nil.mp clean document present)
  · exact .inl (mem_brokenIds.mpr ⟨keeper, member, rfl, clean⟩)

/-- Mending rules that all stay kept leaves nothing to find. -/
theorem found_eq_nil_of_chain {unit next : SourceUnit} (distinct : (keepers.map (·.id)).Nodup)
    (stay : ∀ keeper ∈ keepers, keeper.Stays keepers (brokenIds keepers unit))
    (tidy : unit.IsTidy)
    (rewritten : unit.Rewritten (Chain keepers (brokenIds keepers unit)) next) :
    found keepers next = [] :=
  found_eq_nil.mpr fun keeper member =>
    diagnostics_eq_nil_of_chain distinct member (stay keeper member) tidy rewritten

/-- Units of which the same is found break the same rules. -/
theorem mem_brokenIds_of_sameFindings {unit next : SourceUnit} {id : String}
    (same : Diagnostic.sameFindings (found keepers next) (found keepers unit) = true)
    (broken : id ∈ brokenIds keepers unit) : id ∈ brokenIds keepers next := by
  have permuted := Diagnostic.sameFindings_iff.mp same
  obtain ⟨d, reported, rfl⟩ := List.mem_map.mp (mem_idSet.mp broken)
  have repeated := permuted.mem_iff.mpr (Diagnostic.mem_findings.mpr ⟨d, reported, rfl⟩)
  obtain ⟨again, reported, same⟩ := Diagnostic.mem_findings.mp repeated
  have own : again.id = d.id := congrArg Prod.fst same
  exact mem_idSet.mpr (List.mem_map.mpr ⟨again, reported, own⟩)

end Keeper

namespace Engine

open Run Diagnostic

/-- How rounds over a unit settle it: after at most so many of them that found something, with
texts that come from its texts in some way, or with a unit that does not build. -/
inductive Concluded (engine : Engine σ) (unit : SourceUnit) (most : Nat)
    (how : Text → Text → Prop) : Progress → UnitEnding → SourceUnit → Prop where
  | blocked {after : Progress} {errors : List Diagnostic} {next : SourceUnit}
      (iterations : after.iterations ≤ most) (skipped : after.skipped = [])
      (language : next.language = unit.language) (blocks : engine.CanBlock next) :
    Concluded engine unit most how after (.buildFailed errors) next
  | converged {after : Progress} {next : SourceUnit} (iterations : after.iterations ≤ most)
      (skipped : after.skipped = []) (rewritten : unit.Rewritten how next) :
    Concluded engine unit most how after .converged next

/-- Whether rounds settle a unit in a session. -/
def Settles (engine : Engine σ) (keepers : List (Keeper σ)) (unitId : String) (more : Nat)
    (progress : Progress) (session : Session σ) (unit : SourceUnit) (most : Nat)
    (how : Text → Text → Prop) : Prop :=
  ∃ after ending next last,
    ComesTo (fun limit => (engine.withLimit limit).rounds unitId (Keeper.catalog keepers) more
        progress) session (after, ending) last ∧
      last.HasUnit unitId next ∧ engine.Concluded unit most how after ending next

variable {engine : Engine σ} {keepers : List (Keeper σ)} {unit middle next : SourceUnit}
  {unitId : String} {session between last : Session σ} {progress after : Progress}
  {ending : UnitEnding} {most more : Nat} {how other : Text → Text → Prop}

/-- What settles a unit that comes from another one, settles that one. -/
theorem Concluded.follow (settled : engine.Concluded middle most other after ending next)
    (rewritten : unit.Rewritten how middle) :
    engine.Concluded unit most
      (fun text result => ∃ between, how text between ∧ other between result) after ending
      next := by
  cases settled with
  | blocked iterations skipped language blocks =>
    exact .blocked iterations skipped (language.trans rewritten.language) blocks
  | converged iterations skipped later =>
    exact .converged iterations skipped (rewritten.trans later)

theorem Concluded.mono (settled : engine.Concluded unit most how after ending next)
    (weaken : ∀ text result, how text result → other text result) :
    engine.Concluded unit most other after ending next := by
  cases settled with
  | blocked iterations skipped language blocks =>
    exact .blocked iterations skipped language blocks
  | converged iterations skipped rewritten =>
    exact .converged iterations skipped (rewritten.mono fun _ _ => weaken _)

/-- A first round repeats no round before it. -/
theorem repeats_start {diagnostics : List Diagnostic} (found : diagnostics ≠ []) :
    ({} : Progress).repeats diagnostics = false := by
  rw [Progress.repeats, not_sameFindings_nil found]
  rfl

theorem rounds_comesTo_ended {catalog : Catalog σ}
    (reached : ComesTo (fun limit => (engine.withLimit limit).round unitId catalog progress) session
      (.ended after ending) last) :
    ComesTo (fun limit => (engine.withLimit limit).rounds unitId catalog more progress) session
      (after, ending) last := by
  cases more <;> exact reached.bind (.pure _ _)

theorem rounds_comesTo_again {catalog : Catalog σ} {settled : Progress × UnitEnding}
    (reached : ComesTo (fun limit => (engine.withLimit limit).round unitId catalog progress) session
      (.again after) between)
    (later : ComesTo (fun limit => (engine.withLimit limit).rounds unitId catalog more after)
      between settled last) :
    ComesTo (fun limit => (engine.withLimit limit).rounds unitId catalog (more + 1) progress)
      session settled last :=
  reached.bind later

section

variable (acts : engine.ActsOnAll unit.language) (distinct : (keepers.map (·.id)).Nodup)
  (held : session.HasUnit unitId unit) (tidy : unit.IsTidy) (none : progress.skipped = [])

include acts distinct held tidy none

/-- Nothing is done to a unit that breaks no rule. -/
theorem rounds_settle_clean (within : progress.iterations ≤ most)
    (clean : Keeper.found keepers unit = []) :
    engine.Settles keepers unitId more progress session unit most (· = ·) := by
  obtain ⟨result, next, last, reached, still, rounded⟩ :=
    round_mends acts distinct held tidy none (absurd clean)
  cases rounded with
  | blocked iterations skipped language blocks =>
    have few := Nat.le_trans (iterations.resolve_right fun both => both.1 clean) within
    exact ⟨_, _, next, last, rounds_comesTo_ended reached, still,
      .blocked few skipped language blocks⟩
  | converged =>
    exact ⟨_, _, unit, last, rounds_comesTo_ended reached, still,
      .converged within none (.refl fun _ _ => rfl)⟩
  | worked found => exact absurd clean found

/-- A round settles a unit, or mends the rules that it breaks for the rounds that follow. -/
theorem rounds_settle_step (other : Text → Text → Prop) (within : progress.iterations + 1 ≤ most)
    (fresh : Keeper.found keepers unit ≠ [] →
      progress.repeats (Keeper.found keepers unit) = false)
    (kept : Keeper.found keepers unit = [] → ∀ text, how text text)
    (joins : ∀ text between result,
      Keeper.Chain keepers (Keeper.brokenIds keepers unit) text between →
        other between result → how text result)
    (rest : ∀ after next between, Keeper.found keepers unit ≠ [] →
      after.iterations = progress.iterations + 1 → after.previous = Keeper.found keepers unit →
      after.beforePrevious = progress.previous → after.skipped = [] →
      unit.Rewritten (Keeper.Chain keepers (Keeper.brokenIds keepers unit)) next →
      next.IsTidy → between.HasUnit unitId next →
      engine.Settles keepers unitId more after between next most other) :
    engine.Settles keepers unitId (more + 1) progress session unit most how := by
  obtain ⟨result, next, last, reached, still, rounded⟩ :=
    round_mends acts distinct held tidy none fresh
  cases rounded with
  | @blocked settled _ _ iterations skipped language blocks =>
    have few : settled.iterations ≤ most := by omega
    exact ⟨_, _, next, last, rounds_comesTo_ended reached, still,
      .blocked few skipped language blocks⟩
  | converged clean =>
    exact ⟨_, _, unit, last, rounds_comesTo_ended reached, still,
      .converged (by omega) none (.refl fun _ _ => kept clean _)⟩
  | worked found iterations previous beforePrevious skipped rewritten =>
    have whole := rewritten.isTidy tidy fun tidy chain => chain.isTidy tidy
    obtain ⟨after, ending, final, end_, later, held, settled⟩ := rest _ next last found iterations
      previous beforePrevious skipped rewritten whole still
    refine ⟨after, ending, final, end_, rounds_comesTo_again reached later, held, ?_⟩
    exact (settled.follow rewritten).mono fun text result ⟨between, chain, rest⟩ =>
      joins text between result chain rest

end

section

variable (acts : engine.ActsOnAll unit.language) (distinct : (keepers.map (·.id)).Nodup)
  (held : session.HasUnit unitId unit) (tidy : unit.IsTidy)

include acts distinct held tidy

/-- If all rules stay kept, one round mends all of them. -/
theorem rounds_settle_once
    (stay : ∀ keeper ∈ keepers, keeper.Stays keepers (Keeper.brokenIds keepers unit)) :
    engine.Settles keepers unitId (more + 1) {} session unit 1
      (Keeper.Chain keepers (Keeper.brokenIds keepers unit)) := by
  refine rounds_settle_step acts distinct held tidy rfl (· = ·) (Nat.le_refl 1)
    repeats_start ?_ ?_ ?_
  · intro clean text
    have none : Keeper.brokenIds keepers unit = [] := by
      refine List.eq_nil_iff_forall_not_mem.mpr fun id broken => ?_
      obtain ⟨keeper, member, -, broken⟩ := Keeper.mem_brokenIds.mp broken
      exact broken (Keeper.found_eq_nil.mp clean keeper member)
    rw [none]
    exact .nil
  · rintro text between _ chain rfl
    exact chain
  · intro after next between _ iterations _ _ skipped rewritten whole still
    have clean := Keeper.found_eq_nil_of_chain distinct stay tidy rewritten
    have acts : engine.ActsOnAll next.language := rewritten.language ▸ acts
    exact rounds_settle_clean acts distinct still whole skipped (Nat.le_of_eq iterations) clean

/-- If all rules but one stay kept, a second round has that one left to mend, at most. -/
theorem rounds_settle_twice {lead : String}
    (stay : ∀ keeper ∈ keepers, keeper.id ≠ lead → ∀ ids, keeper.Stays keepers ids) :
    engine.Settles keepers unitId (more + 2) {} session unit 2 fun _ _ => True := by
  refine rounds_settle_step acts distinct held tidy rfl (fun _ _ => True) (Nat.le_succ 1)
    repeats_start (fun _ _ => trivial) (fun _ _ _ _ _ => trivial) ?_
  intro after next between _ iterations previous beforePrevious skipped rewritten whole still
  have only : ∀ id ∈ Keeper.brokenIds keepers next, id = lead := by
    intro id named
    obtain ⟨keeper, member, rfl, broken⟩ := Keeper.mem_brokenIds.mp named
    by_contra other
    exact broken (Keeper.diagnostics_eq_nil_of_chain distinct member
      (stay keeper member other _) tidy rewritten)
  have new : Keeper.found keepers next ≠ [] →
      after.repeats (Keeper.found keepers next) = false := by
    intro found
    rw [Progress.repeats, previous, beforePrevious, not_sameFindings_nil found, Bool.or_false]
    by_contra same
    -- The first round would have had no other rule to mend, and would have left none broken.
    have alone : ∀ id ∈ Keeper.brokenIds keepers unit, id = lead := fun id broken =>
      only id (Keeper.mem_brokenIds_of_sameFindings (Bool.not_eq_false _ ▸ same) broken)
    exact found (Keeper.found_eq_nil_of_chain distinct
      (fun _ => Keeper.stays_of_lead stay alone) tidy rewritten)
  have within : after.iterations + 1 ≤ 2 := by rw [iterations]
  have acts : engine.ActsOnAll next.language := rewritten.language ▸ acts
  refine rounds_settle_step acts distinct still whole skipped (· = ·) within new
    (fun _ _ => trivial) (fun _ _ _ _ _ => trivial) ?_
  intro settled final last _ again _ _ none remade whole' held'
  have clean : Keeper.found keepers final = [] :=
    Keeper.found_eq_nil_of_chain distinct (fun _ => Keeper.stays_of_lead stay only) whole remade
  have acts : engine.ActsOnAll final.language := remade.language ▸ acts
  exact rounds_settle_clean acts distinct held' whole' none (again ▸ within) clean

end

/-- What is reported of a unit that was settled. -/
theorem Concluded.reported (settled : engine.Concluded unit most how after ending next)
    (catalog : Catalog σ) :
    (unitResult unit catalog after ending).iterations ≤ most ∧
      (unitResult unit catalog after ending).limitReached = false ∧
      (unitResult unit catalog after ending).skipped = [] ∧
      ((unitResult unit catalog after ending).kind = .success ∧ unit.Rewritten how next ∨
        (unitResult unit catalog after ending).kind = .compilerError ∧
          next.language = unit.language ∧ engine.CanBlock next) := by
  have none (skipped : after.skipped = []) :
      (unitResult unit catalog after ending).skipped = [] := by
    rw [unitResult, skipped]
    simp [sortedIds]
  cases settled with
  | blocked iterations skipped language blocks =>
    exact ⟨iterations, rfl, none skipped, .inr ⟨rfl, language, blocks⟩⟩
  | converged iterations skipped rewritten =>
    exact ⟨iterations, rfl, none skipped, .inl ⟨rfl, rewritten⟩⟩

/-- A unit whose plugins are those of keepers is settled if rounds settle it. -/
theorem fixUnit_settles (held : session.HasUnit unitId unit)
    (own : engine.catalog unit = Keeper.catalog keepers) (some : keepers ≠ [])
    (settles : ∀ begun : Session σ, begun.HasUnit unitId unit →
      engine.Settles keepers unitId (engine.config.maxIterations - 1) {} begun unit most how) :
    ∃ result next last,
      ComesTo (fun limit => (engine.withLimit limit).fixUnit unitId) session result last ∧
        last.HasUnit unitId next ∧ result.iterations ≤ most ∧ result.limitReached = false ∧
        result.skipped = [] ∧
        (result.kind = .success ∧ unit.Rewritten how next ∨
          result.kind = .compilerError ∧ next.language = unit.language ∧
            engine.CanBlock next) := by
  have learns : (((engine.catalog unit).descriptors).forM learn : Run σ Unit).Yields () :=
    .forM fun _ _ => .learn _
  obtain ⟨begun, learnt, stands⟩ := learns _ session ⟨held.running, rfl⟩
  obtain ⟨after, ending, next, last, ran, kept, settled⟩ :=
    settles begun (held.of_stands stands)
  have notes : (noteEnding unit after ending : Run σ Unit).Yields () := by
    cases settled <;> exact .pure _
  obtain ⟨final, noted, still⟩ := notes _ last ⟨kept.running, rfl⟩
  rw [← own] at ran
  refine ⟨_, next, final, ran.mono fun limit ran => ?_, kept.of_stands still,
    settled.reported (engine.catalog unit)⟩
  have analyzers : ¬ (engine.catalog unit).analyzers.isEmpty = true := by
    simpa [own, Keeper.catalog] using some
  have fixers : ¬ (engine.catalog unit).fixers.isEmpty = true := by
    simpa [own, Keeper.catalog] using some
  have found : snapshot unitId session = .ok unit session :=
    snapshot_eq_ok.mpr ⟨held.present, rfl⟩
  have same : (engine.withLimit limit).catalog unit = engine.catalog unit := rfl
  refine (bind_of_ok found).trans ?_
  dsimp only
  rw [same]
  refine (bind_of_ok learnt).trans ?_
  rw [if_neg analyzers, if_neg fixers]
  exact (bind_of_ok ran).trans (bind_of_ok noted)

end Engine

end FixLoop
