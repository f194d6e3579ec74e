import FixLoop.Formatting
import FixLoop.Proofs.Plugin.Letters
import FixLoop.Proofs.Session.Course
import FixLoop.Proofs.Session.Journal
import FixLoop.Proofs.Session.Totality
import Mathlib

/-!
What a result says was fixed. The journal tells of each fix that landed, and rounds take in what the
passes over an identifier come to. Passes that are cancelled after a fix landed come to nothing, and
then the result does not say so; it says exactly what was fixed otherwise.
-/

namespace FixLoop

variable {σ : Type}

/-- Whether an event tells of a fix that landed, or of its edit set. -/
def Event.isFix : Event → Bool
  | fixed .. => true
  | edited author _ _ _ landed => author == .session && landed
  | _ => false

theorem Event.isFix_of_isQuiet (event : Event) (quiet : event.isQuiet = true) :
    event.isFix = false := by
  cases event <;> simp_all [isQuiet, isFix]

theorem Event.isFix_of_isOfPlugin (event : Event) (own : event.isOfPlugin = true) :
    event.isFix = false := by
  cases event <;> simp_all [isOfPlugin, isFix]

/-- Whether events tell of fixes of some identifiers in a unit, the newest first. Each edit set of
the engine that landed belongs to one of them. -/
inductive Tells (unitId : String) : List Event → List String → Prop where
  | nil : Tells unitId [] []
  | other {event : Event} {news : List Event} {ids : List String} (calm : event.isFix = false)
      (earlier : Tells unitId news ids) :
    Tells unitId (event :: news) ids
  | fix {id title name : String} {version : Int} {edits : List TextEdit} {news : List Event}
      {ids : List String} (earlier : Tells unitId news ids) :
    Tells unitId (.fixed id unitId :: .applied title edits.length name ::
      .edited .session unitId version edits true :: news) (id :: ids)

theorem Tells.append {unitId : String} {earlier later : List Event} {ids others : List String}
    (first : Tells unitId earlier ids) (second : Tells unitId later others) :
    Tells unitId (later ++ earlier) (others ++ ids) := by
  induction second with
  | nil => exact first
  | other calm _ ih => exact .other calm ih
  | fix _ ih => exact .fix ih

theorem Tells.of_calm {unitId : String} {news : List Event}
    (calm : ∀ event ∈ news, event.isFix = false) : Tells unitId news [] := by
  induction news with
  | nil => exact .nil
  | cons event rest ih =>
    exact .other (calm event List.mem_cons_self)
      (ih fun other member => calm other (List.mem_cons_of_mem _ member))

/-- Exactly the identifiers are told of for which there is an event. -/
theorem Tells.mem_iff {unitId id : String} {news : List Event} {ids : List String}
    (tells : Tells unitId news ids) : id ∈ ids ↔ .fixed id unitId ∈ news := by
  induction tells with
  | nil => simp
  | @other event news ids calm earlier ih =>
    have different : Event.fixed id unitId ≠ event := by
      rintro rfl
      cases calm
    simp [ih, different]
  | fix earlier ih => simp [ih, eq_comm]

/-- Whether a session follows another one with fixes of some identifiers, the newest first. -/
def Session.Records (unitId : String) (start now : Session σ) (ids : List String) : Prop :=
  ∃ news, start.Follows now news ∧ Tells unitId news ids

namespace Session.Records

variable {unitId : String} {start middle now last : Session σ} {ids others : List String}

theorem refl (session : Session σ) : session.Records unitId session [] :=
  ⟨[], .refl session, .nil⟩

theorem trans (first : start.Records unitId middle ids)
    (second : middle.Records unitId last others) : start.Records unitId last (others ++ ids) := by
  obtain ⟨earlier, follows, tells⟩ := first
  obtain ⟨later, goesOn, stillTells⟩ := second
  exact ⟨later ++ earlier, follows.trans goesOn, tells.append stillTells⟩

theorem of_grows (grown : start.Grows (fun event => event.isFix = false) now) :
    start.Records unitId now [] := by
  obtain ⟨news, follows, calm⟩ := grown
  exact ⟨news, follows, .of_calm calm⟩

theorem of_lands {id : String} (lands : start.Lands id unitId now) :
    start.Records unitId now [id] := by
  obtain ⟨title, name, version, edits, follows⟩ := lands
  exact ⟨_, follows, .fix .nil⟩

end Session.Records

/-- Whether what is carried on says that exactly some identifiers were fixed. -/
structure Progress.Tallied (progress : Progress) (ids : List String) : Prop where
  distinct : progress.fixedIds.Nodup
  mem : ∀ id, id ∈ progress.fixedIds ↔ id ∈ ids

theorem Progress.Tallied.record {progress : Progress} {ids : List String}
    (tallied : progress.Tallied ids) (id : String) (outcome : FixOutcome) :
    (progress.record id outcome).Tallied (List.replicate outcome.batches id ++ ids) := by
  unfold Progress.record
  by_cases none : outcome.batches = 0
  · simpa [none] using ⟨tallied.distinct, tallied.mem⟩
  by_cases counted : id ∈ progress.fixedIds
  · refine ⟨by simpa [counted] using tallied.distinct, fun other => ?_⟩
    have before := tallied.mem id
    have same := tallied.mem other
    simp only [counted, or_true, if_true, List.mem_append, List.mem_replicate]
    grind
  · refine ⟨?_, fun other => ?_⟩
    · simp [none, counted, List.nodup_append, tallied.distinct]
      grind
    · have same := tallied.mem other
      simp only [none, counted, or_self, if_false, List.mem_append, List.mem_replicate,
        List.mem_singleton]
      grind

namespace Engine

open Run Session

variable {engine : Engine σ} {unitId id : String} {catalog : Catalog σ} {unit : SourceUnit}
  {state : PassState} {start session last : Session σ} {progress : Progress}

theorem pluginsNote_isFix (engine : Engine σ) :
    engine.PluginsNote fun event => event.isFix = false :=
  .of_own engine Event.isFix_of_isOfPlugin

section

variable (analyzers : catalog.analyzers ⊆ engine.analyzers)
  (fixers : catalog.fixers ⊆ engine.fixers)

include analyzers fixers

theorem pass_records (unitId id : String) (state : PassState) (session : Session σ) :
    ∃ count, session.Records unitId (final (engine.pass unitId catalog id state session))
        (List.replicate count id) ∧
      ∀ result last, engine.pass unitId catalog id state session = .ok result last →
        result.batches = state.batches + count := by
  obtain ⟨reached, reaches, ends⟩ := engine.pass_ends unitId catalog id state session
  have grown := reaches.grows engine.pluginsNote_isFix Event.isFix_of_isQuiet analyzers fixers
  generalize engine.pass unitId catalog id state session = ran at ends
  cases ends with
  | refused refusals counted =>
    refine ⟨0, .of_grows (grown.trans (refusals.mono fun event refusal => ?_)), counted⟩
    exact Event.isFix_of_isQuiet event (Event.isQuiet_of_isRefusal refusal)
  | landed lands counted =>
    refine ⟨1, (Records.of_grows grown).trans (.of_lands lands), fun result last same => ?_⟩
    cases same
    exact counted

theorem passes_records (unitId id : String) (limit : Nat) :
    ∀ (state : PassState) (session : Session σ),
    ∃ count, session.Records unitId (final (engine.passes unitId catalog id limit state session))
        (List.replicate count id) ∧
      ∀ outcome last, engine.passes unitId catalog id limit state session = .ok outcome last →
        outcome.batches = state.batches + count := by
  induction limit with
  | zero =>
    intro state session
    refine ⟨0, ?_, fun outcome last ran => ?_⟩
    · rw [passes_zero, final_error]
      exact .refl session
    · rw [passes_zero] at ran
      cases ran
  | succ limit ih =>
    intro state session
    obtain ⟨first, records, counted⟩ := pass_records analyzers fixers unitId id state session
    unfold passes
    cases ran : engine.pass unitId catalog id state session with
    | error fault middle =>
      rw [ran] at records
      rw [bind_of_error ran]
      refine ⟨first, records, fun _ _ same => ?_⟩
      cases same
    | ok result middle =>
      rw [ran] at records
      rw [bind_of_ok ran]
      have counted := counted result middle ran
      cases result with
      | done outcome =>
        refine ⟨first, records, fun other last same => ?_⟩
        obtain ⟨rfl, -⟩ := pure_eq_ok.mp same
        exact counted
      | again next =>
        obtain ⟨more, goesOn, later⟩ := ih next middle
        refine ⟨more + first, ?_, fun outcome last ran => ?_⟩
        · rw [← List.replicate_append_replicate]
          exact records.trans goesOn
        · have counted : next.batches = state.batches + first := counted
          rw [later outcome last ran, counted]
          omega

/-- The fixes that passes over an identifier landed; an outcome says how many. -/
theorem fixDiagnostic_records (unitId id : String) (session : Session σ) :
    ∃ count, session.Records unitId (final (engine.fixDiagnostic unitId catalog id session))
        (List.replicate count id) ∧
      ∀ outcome last, engine.fixDiagnostic unitId catalog id session = .ok outcome last →
        outcome.batches = count := by
  obtain ⟨count, records, counted⟩ :=
    passes_records analyzers fixers unitId id engine.passLimit {} session
  refine ⟨count, records, fun outcome last ran => ?_⟩
  rw [counted outcome last ran]
  exact Nat.zero_add count

omit analyzers fixers

/-- Whether the passes over an identifier were cancelled after so many fixes of it had landed. -/
structure Loses (engine : Engine σ) (unitId : String) (catalog : Catalog σ) (id : String)
    (count : Nat) (session last : Session σ) : Prop where
  cancelled : engine.fixDiagnostic unitId catalog id session = .error .cancelled last
  landed : session.Records unitId last (List.replicate count id)
  some : 0 < count

/-- Whether rounds say what was fixed: exactly that, or all but the identifier whose passes were
cancelled, with which they then end. -/
def Reports (engine : Engine σ) (unitId : String) (catalog : Catalog σ) (told : List String)
    (result : RoundResult) (last : Session σ) : Prop :=
  result.progress.Tallied told ∨
    ∃ lost count begun kept, result = .ended result.progress .interrupted ∧
      engine.Loses unitId catalog lost count begun last ∧
      told = List.replicate count lost ++ kept ∧ lost ∉ kept ∧ result.progress.Tallied kept

include analyzers fixers

theorem Fixing.records {ids told : List String} {outcomes : List (String × FixOutcome)}
    {result : RoundResult}
    (fixing : engine.Fixing unitId catalog ids progress session outcomes result last)
    (tallied : progress.Tallied told) :
    ∃ more, session.Records unitId last more ∧
      engine.Reports unitId catalog (more ++ told) result last := by
  induction fixing generalizing told with
  | done => exact ⟨[], .refl _, .inl tallied⟩
  | stopped requested => exact ⟨[], .refl _, .inl tallied⟩
  | @interrupted id rest progress session after failed =>
    obtain ⟨count, records, -⟩ :=
      fixDiagnostic_records analyzers fixers unitId id session
    rw [failed, final_error] at records
    refine ⟨_, records, ?_⟩
    -- These passes are not recorded, so their identifier counts as fixed only if it did before.
    by_cases known : id ∈ told
    · refine .inl ⟨tallied.distinct, fun other => ?_⟩
      have same := tallied.mem other
      simp only [RoundResult.progress, List.mem_append, List.mem_replicate]
      grind
    · cases count with
      | zero => exact .inl tallied
      | succ count =>
        exact .inr ⟨id, count + 1, session, told, rfl, ⟨failed, records, Nat.succ_pos count⟩, rfl,
          known, tallied⟩
  | @broken id rest progress session after outcome errors fixed failed =>
    obtain ⟨count, records, counted⟩ :=
      fixDiagnostic_records analyzers fixers unitId id session
    rw [fixed, final_ok] at records
    refine ⟨_, records, .inl ?_⟩
    rw [← counted _ _ fixed]
    exact tallied.record id outcome
  | @next id rest progress session middle after outcome outcomes result fixed builds later ih =>
    obtain ⟨count, records, counted⟩ :=
      fixDiagnostic_records analyzers fixers unitId id session
    rw [fixed, final_ok] at records
    have recorded := tallied.record id outcome
    rw [counted _ _ fixed] at recorded
    obtain ⟨more, goesOn, reports⟩ := ih recorded
    refine ⟨more ++ List.replicate count id, records.trans goesOn, ?_⟩
    rwa [List.append_assoc]

theorem RoundStep.records {told : List String} {visits : List Visit} {result : RoundResult}
    (step : engine.RoundStep unitId catalog progress session visits result last)
    (tallied : progress.Tallied told) :
    ∃ more, session.Records unitId last more ∧
      engine.Reports unitId catalog (more ++ told) result last := by
  have surveyed {survey : Survey} {after : Session σ}
      (ran : engine.survey unitId catalog progress.iterations session = .ok survey after) :
      session.Grows (fun event => event.isFix = false) after := by
    have quiet := Event.isFix_of_isQuiet
    have grown := engine.pluginsNote_isFix.survey_grows unitId progress.iterations
      (fun event remark => quiet event (Event.isQuiet_of_isRemark remark))
      (fun event _ tells => quiet event (Event.isQuiet_of_tellsOfReading tells)) analyzers session
    rwa [ran, final_ok] at grown
  cases step with
  | interrupted requested => exact ⟨[], .refl _, .inl tallied⟩
  | broken ran blocked => exact ⟨[], .of_grows (surveyed ran), .inl tallied⟩
  | converged ran builds empty => exact ⟨[], .of_grows (surveyed ran), .inl tallied⟩
  | @oscillated survey after ran builds found repeated =>
    have listed (event : Event) (member : event ∈ (survey.diagnostics.map .listed).reverse) :
        event.isEffect = false ∧ event.isFix = false := by
      obtain ⟨diagnostic, -, rfl⟩ := List.mem_map.mp (List.mem_reverse.mp member)
      exact ⟨rfl, rfl⟩
    have noted : session.Grows (fun event => event.isFix = false) { after with
        journal := .oscillating survey.unit.displayName :: after.journal } :=
      (surveyed ran).note rfl rfl
    exact ⟨[], .of_grows (noted.notes (fun event member => (listed event member).1)
      fun event member => (listed event member).2), .inl tallied⟩
  | @acted survey middle after outcomes result ran builds found fresh fixing =>
    have counted : Progress.Tallied { progress with iterations := progress.iterations + 1 } told :=
      ⟨tallied.distinct, tallied.mem⟩
    have noted : session.Grows (fun event => event.isFix = false) { middle with
        journal := .found survey.diagnostics.length survey.unit.displayName :: middle.journal } :=
      (surveyed ran).note rfl rfl
    obtain ⟨more, records, reports⟩ := fixing.records analyzers fixers counted
    refine ⟨more, by simpa using (Records.of_grows noted).trans records, ?_⟩
    cases result with
    | ended final ending => exact reports
    | again next =>
      rcases reports with exact | ⟨_, _, _, _, ended, _⟩
      · exact .inl ⟨exact.distinct, exact.mem⟩
      · cases ended

/-- Rounds that were completed report all fixes that landed. -/
theorem Completed.records {visits : List Visit}
    (completed : engine.Completed unitId catalog start visits progress session) :
    ∃ told, start.Records unitId session told ∧ progress.Tallied told := by
  induction completed with
  | start => exact ⟨[], .refl start, List.nodup_nil, fun _ => Iff.rfl⟩
  | round earlier step ih =>
    obtain ⟨told, records, tallied⟩ := ih
    obtain ⟨more, goesOn, reports⟩ := step.records analyzers fixers tallied
    rcases reports with exact | ⟨_, _, _, _, ended, _⟩
    · exact ⟨more ++ told, records.trans goesOn, exact⟩
    · cases ended

theorem Ended.records {limit : Nat} {visits : List Visit} {final : Progress} {ending : UnitEnding}
    (ended : engine.Ended unitId catalog start limit visits final ending last) :
    ∃ told, start.Records unitId last told ∧
      engine.Reports unitId catalog told (.ended final ending) last := by
  cases ended with
  | limit completed reached =>
    obtain ⟨told, records, tallied⟩ := completed.records analyzers fixers
    exact ⟨told, records, .inl tallied⟩
  | round completed below step =>
    obtain ⟨told, records, tallied⟩ := completed.records analyzers fixers
    obtain ⟨more, goesOn, reports⟩ := step.records analyzers fixers tallied
    exact ⟨more ++ told, records.trans goesOn, reports⟩

end

/-- Whether a result leaves out the identifier that was fixed last, because the passes over it were
cancelled, and says of the others exactly which were fixed. -/
def LeavesOut (engine : Engine σ) (unit : SourceUnit) (told : List String) (result : UnitResult)
    (last : Session σ) : Prop :=
  ∃ lost count kept begun after, told = List.replicate count lost ++ kept ∧ lost ∉ kept ∧
    (∀ id, id ∈ result.fixedIds ↔ id ∈ kept) ∧
    engine.Loses unit.id (engine.catalog unit) lost count begun after ∧
    last = { after with journal := .interrupted unit.displayName :: after.journal }

theorem learnt_records {descriptors : List Descriptor}
    (learnt : descriptors.forM learn session = .ok () last) : session.Records unitId last [] := by
  have keeps : (descriptors.forM learn : Run σ Unit).Keeps
      (session.Grows fun event => event.isFix = false) fun _ _ => True :=
    .forM fun descriptor _ => .learn (fun known _ grown => grown.learn known) descriptor
  exact .of_grows (keeps.of_ok (.refl session) learnt)

theorem Idle.records {event : Event} (idle : engine.Idle unit session event last)
    (remark : event.isRemark = true) : session.Records unitId last [] := by
  obtain ⟨begun, learnt, rfl⟩ := idle
  have quiet := Event.isQuiet_of_isRemark remark
  exact (learnt_records learnt).trans (.of_grows ((Grows.refl begun).note
    (Event.isEffect_of_isQuiet quiet) (Event.isFix_of_isQuiet event quiet)))

theorem noted_records {ending : UnitEnding}
    (noted : noteEnding unit progress ending session = .ok () last) :
    session.Records unitId last [] := by
  have grown : session.Grows (fun event => event.isFix = false) session := .refl session
  cases ending with
  | limitReached =>
    cases noted
    exact .of_grows (grown.note rfl rfl)
  | interrupted =>
    cases noted
    exact .of_grows (grown.note rfl rfl)
  | _ =>
    cases noted
    exact .refl session

/-- The fixed identifiers of a result are in ascending order, each once, and are those for which a
fix landed, except if passes were cancelled after fixes of an identifier had landed, which is then
left out. None but the analyzers may give up. -/
theorem fixUnit_fixedIds (found : session.workspace.snapshot? unitId = some unit)
    (steady : engine.OnlyAnalyzersFail session) :
    (∃ last, engine.fixUnit unitId session = .error .unfinished last) ∨
      ∃ result last told, engine.fixUnit unitId session = .ok result last ∧
        session.Records unitId last told ∧ result.fixedIds.Pairwise (· < ·) ∧
        ((∀ id, id ∈ result.fixedIds ↔ id ∈ told) ∨ engine.LeavesOut unit told result last) := by
  rcases fixUnit_answers steady (Workspace.mem_ids_of_snapshot? found) with
    unfinished | ⟨result, last, ran⟩
  · exact .inl unfinished
  right
  obtain ⟨other, present, gone⟩ := fixUnit_of_ok ran
  obtain rfl : unit = other := Option.some.inj (found.symm.trans present)
  rcases gone with ⟨-, -, none, idle⟩ | ⟨-, -, none, idle⟩ |
    ⟨-, -, visits, progress, ending, course, rfl⟩
  · exact ⟨result, last, [], ran, idle.records rfl, by simp [none], .inl (by simp [none])⟩
  · exact ⟨result, last, [], ran, idle.records rfl, by simp [none], .inl (by simp [none])⟩
  obtain rfl := Workspace.id_of_snapshot? found
  obtain ⟨begun, rounded, learnt, ended, noted⟩ := course
  obtain ⟨told, records, reports⟩ :=
    ended.records (engine.analyzers_catalog unit) (engine.fixers_catalog unit)
  have recorded := ((learnt_records learnt).trans records).trans (noted_records noted)
  rw [List.append_nil, List.nil_append] at recorded
  refine ⟨_, last, told, ran, recorded, ?_⟩
  have sorted {ids : List String} (tallied : progress.Tallied ids) :
      (sortedIds progress.fixedIds).Pairwise (· < ·) ∧
        ∀ id, id ∈ sortedIds progress.fixedIds ↔ id ∈ ids :=
    ⟨pairwise_sortedIds tallied.distinct, fun id => mem_sortedIds.trans (tallied.mem id)⟩
  rcases reports with exact | ⟨lost, count, before, kept, stopped, loses, split, unknown, tallied⟩
  · exact ⟨(sorted exact).1, .inl (sorted exact).2⟩
  · cases stopped
    cases noted
    exact ⟨(sorted tallied).1,
      .inr ⟨lost, count, kept, before, rounded, split, unknown, (sorted tallied).2, loses, rfl⟩⟩

end Engine

namespace Interrupting

/-! Every `p` is replaced by a `q`, one at a time; the compiler requests cancellation once it sees
that the first was. -/

def engine : Engine Unit where
  analyzers := [Letters.analyzer 'p']
  fixers := [Letters.fixer (Letters.replacing 'q')]
  compiler := {
    type := "Canceller", package := "plugins"
    compile := fun unit => if unit.version = 0 then .answer [] else .cancel (.answer []) }
  formatter := Formatting.whitespace
  config := { (default : Config) with batchSize := 1 }
  passLimit := 4

def session : Session Unit := Letters.session ['p', 'p']

theorem onlyAnalyzersFail : engine.OnlyAnalyzersFail session := by
  have answers (diagnostic : Diagnostic) (unit : SourceUnit) :
      ∀ candidate ∈ Letters.replacing 'q' diagnostic unit, candidate.Answers session := by
    intro candidate offered
    obtain rfl := List.mem_singleton.mp offered
    exact fun _ _ => ⟨_, rfl⟩
  exact {
    compiler := fun unit => by
      unfold engine
      dsimp only
      split
      · exact fun _ _ => ⟨_, rfl⟩
      · exact Callback.Answers.cancel (fun _ _ => ⟨_, rfl⟩) (by decide)
    offers := fun fixer able diagnostic unit => by
      obtain rfl := List.mem_singleton.mp able
      exact answers diagnostic unit
    fixAll := fun fixer able context => by
      obtain rfl := List.mem_singleton.mp able
      exact (Callback.Answers.closed session).fixAll fun diagnostic => answers diagnostic _ }

/-- The first fix landed, but the passes were cancelled after it: it is left out. -/
theorem fixUnit_fixedIds_interrupted :
    ∃ result last told, engine.fixUnit "a" session = .ok result last ∧
      session.Records "a" last told ∧ "X1" ∈ told ∧ "X1" ∉ result.fixedIds ∧
      engine.LeavesOut (Letters.source ['p', 'p']) told result last := by
  have evaluated : Run.peek? (fun result last =>
      (result.fixedIds, last.journal.contains (.fixed "X1" "a")))
      (engine.fixUnit "a" session) = some ([], true) := by cbv
  obtain ⟨result, last, ran, seen⟩ := Run.peek?_eq_some.mp evaluated
  obtain ⟨none, landed⟩ := by simpa only [Prod.mk.injEq] using seen
  have present : session.workspace.snapshot? "a" = some (Letters.source ['p', 'p']) := rfl
  rcases Engine.fixUnit_fixedIds present onlyAnalyzersFail with
    ⟨_, failed⟩ | ⟨_, _, told, again, records, -, reported⟩
  · rw [ran] at failed
    cases failed
  cases ran.symm.trans again
  have mem : "X1" ∈ told := by
    obtain ⟨news, follows, tells⟩ := records
    have journal : last.journal = news := follows.journal.trans (List.append_nil news)
    exact tells.mem_iff.mpr (journal ▸ List.contains_iff_mem.mp landed)
  have unsaid : "X1" ∉ result.fixedIds := by simp [none]
  rcases reported with exact | out
  · exact absurd ((exact "X1").mpr mem) unsaid
  · exact ⟨result, last, told, ran, records, mem, unsaid, out⟩

/-- A fix landed and was noted, yet no identifier is reported as fixed. -/
theorem fixed_but_unreported :
    engine.OnlyAnalyzersFail session ∧ ∃ result last, engine.fixUnit "a" session = .ok result last ∧
      .fixed "X1" "a" ∈ last.journal ∧ last.workspace.revision "a" = 1 ∧ result.fixedIds = [] := by
  have evaluated : Run.peek? (fun result last =>
      (result.fixedIds, last.journal.contains (.fixed "X1" "a"), last.workspace.revision "a"))
      (engine.fixUnit "a" session) = some ([], true, 1) := by cbv
  obtain ⟨result, last, ran, seen⟩ := Run.peek?_eq_some.mp evaluated
  obtain ⟨none, landed, revised⟩ := by simpa only [Prod.mk.injEq] using seen
  exact ⟨onlyAnalyzersFail, result, last, ran, List.contains_iff_mem.mp landed, revised, none⟩

end Interrupting

end FixLoop
