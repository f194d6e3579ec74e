import FixLoop.Proofs.Rules.Keeper
import FixLoop.Proofs.Session.Course
import Mathlib.Logic.Relation

/-!
Mending a unit. Each pass over a rule that lands makes the findings of the rule fewer, so passes
over it come to an end, and then none are left; this holds for every size of batches. A round mends
the rules that are broken one after another, in the order of their identifiers.
-/

namespace FixLoop

variable {σ : Type}

/-- Whether the compiler has something to say against a unit. -/
def Engine.CanBlock (engine : Engine σ) (unit : SourceUnit) : Prop :=
  ∃ reported, reported ≠ [] ∧ engine.compiler.compile unit = .answer reported

/-- Whether a text can become another one when all that breaks a rule is mended. -/
structure Rule.Cleans (rule : Rule) (text result : Text) : Prop where
  mends : Relation.ReflTransGen rule.mends text result
  clean : rule.spans result = []

/-- If a rule mends texts without changing some form of them, and texts that keep the rule have that
form, it gives texts that form. -/
theorem Rule.Cleans.eq_form {rule : Rule} {form : Text → Text}
    (keeps : ∀ {text result : Text}, rule.mends text result → form result = form text)
    (formed : ∀ {text : Text}, rule.spans text = [] → form text = text) {text result : Text}
    (cleans : rule.Cleans text result) : result = form text := by
  obtain ⟨mends, clean⟩ := cleans
  have same : form result = form text := by
    clear clean
    induction mends with
    | refl => rfl
    | tail _ step ih => exact (keeps step).trans ih
  exact (formed clean).symm.trans same

theorem Rule.rewritten_cleans {rule : Rule} {unit next : SourceUnit}
    (rewritten : unit.Rewritten (Relation.ReflTransGen rule.mends) next)
    (clean : rule.diagnostics next = []) : unit.Rewritten rule.Cleans next := by
  let isClean (text : Text) : Prop := rule.spans text = []
  have cleaned : ∀ after ∈ next.documents, isClean after.text := Rule.diagnostics_eq_nil.mp clean
  exact (rewritten.and cleaned).mono fun _ _ _ both => ⟨both.1, both.2⟩

/-- Whether a text can become another one when rules are mended one after another, named by their
identifiers. -/
inductive Keeper.Chain (keepers : List (Keeper σ)) : List String → Text → Text → Prop where
  | nil {text : Text} : Chain keepers [] text text
  | cons {keeper : Keeper σ} {ids : List String} {text middle result : Text}
      (member : keeper ∈ keepers) (cleans : keeper.rule.Cleans text middle)
      (later : Chain keepers ids middle result) : Chain keepers (keeper.id :: ids) text result

/-- The identifiers of the rules that a unit breaks, in order. -/
def Keeper.brokenIds (keepers : List (Keeper σ)) (unit : SourceUnit) : List String :=
  idSet ((Keeper.found keepers unit).map (·.id))

theorem Keeper.mem_brokenIds {keepers : List (Keeper σ)} {unit : SourceUnit} {id : String} :
    id ∈ Keeper.brokenIds keepers unit ↔
      ∃ keeper ∈ keepers, keeper.id = id ∧ keeper.rule.diagnostics unit ≠ [] :=
  mem_idSet.trans Keeper.mem_ids_found

theorem Rule.Lawful.tidy_of_mends {rule : Rule} (lawful : rule.Lawful) {text result : Text}
    (tidy : text.isTidy = true) (mends : Relation.ReflTransGen rule.mends text result) :
    result.isTidy = true := by
  induction mends with
  | refl => exact tidy
  | tail _ step ih => exact lawful.tidy ih step

namespace Engine

open Run Diagnostic

/-- How a pass over the rule of a keeper can go, and the unit then. -/
inductive Mending (engine : Engine σ) (keeper : Keeper σ) (state : PassState) (unit : SourceUnit) :
    PassResult → SourceUnit → Prop where
  | blocked {errors : List Diagnostic} (blocks : engine.CanBlock unit) :
    Mending engine keeper state unit (.done ⟨state.batches, .buildFailed errors⟩) unit
  | clean (clean : keeper.rule.diagnostics unit = []) :
    Mending engine keeper state unit
      (.done ⟨state.batches, if state.batches = 0 then .nothingToFix else .fixed⟩) unit
  | mended {next : SourceUnit} {diagnostics : List Diagnostic}
      (reported : diagnostics = sorted (keeper.rule.diagnostics unit)) (found : diagnostics ≠ [])
      (rewritten : unit.Rewritten keeper.rule.mends next)
      (fewer : (keeper.rule.diagnostics next).length +
        (batchOf engine.config.batchSize diagnostics).length ≤ diagnostics.length) :
    Mending engine keeper state unit
      (afterLanding (isLimited engine.config.batchSize diagnostics) diagnostics state) next

/-- What passes over the rule of a keeper come to, and the unit then. -/
inductive Mended (engine : Engine σ) (keeper : Keeper σ) (unit : SourceUnit) :
    FixOutcome → SourceUnit → Prop where
  | blocked {batches : Nat} {errors : List Diagnostic} {next : SourceUnit}
      (language : next.language = unit.language) (blocks : engine.CanBlock next) :
    Mended engine keeper unit ⟨batches, .buildFailed errors⟩ next
  | cleaned {outcome : FixOutcome} {next : SourceUnit}
      (ending : outcome.ending = .fixed ∨ outcome.ending = .nothingToFix)
      (rewritten : unit.Rewritten keeper.rule.Cleans next) :
    Mended engine keeper unit outcome next

/-- What fixing the identifiers of some rules comes to, and the unit then. -/
inductive Worked (engine : Engine σ) (keepers : List (Keeper σ)) (ids : List String)
    (progress : Progress) (unit : SourceUnit) : RoundResult → SourceUnit → Prop where
  | blocked {after : Progress} {errors : List Diagnostic} {next : SourceUnit}
      (iterations : after.iterations = progress.iterations) (skipped : after.skipped = [])
      (language : next.language = unit.language) (blocks : engine.CanBlock next) :
    Worked engine keepers ids progress unit (.ended after (.buildFailed errors)) next
  | worked {after : Progress} {next : SourceUnit}
      (iterations : after.iterations = progress.iterations)
      (previous : after.previous = progress.previous) (skipped : after.skipped = [])
      (rewritten : unit.Rewritten (Keeper.Chain keepers ids) next) :
    Worked engine keepers ids progress unit (.again after) next

/-- What a round comes to, and the unit then. Only a round that found something counts. -/
inductive Rounded (engine : Engine σ) (keepers : List (Keeper σ)) (progress : Progress)
    (unit : SourceUnit) : RoundResult → SourceUnit → Prop where
  | blocked {after : Progress} {errors : List Diagnostic} {next : SourceUnit}
      (iterations : after.iterations ≤ progress.iterations ∨
        Keeper.found keepers unit ≠ [] ∧ after.iterations = progress.iterations + 1)
      (skipped : after.skipped = []) (language : next.language = unit.language)
      (blocks : engine.CanBlock next) :
    Rounded engine keepers progress unit (.ended after (.buildFailed errors)) next
  | converged (clean : Keeper.found keepers unit = []) :
    Rounded engine keepers progress unit (.ended progress .converged) unit
  | worked {after : Progress} {next : SourceUnit} (found : Keeper.found keepers unit ≠ [])
      (iterations : after.iterations = progress.iterations + 1)
      (previous : after.previous = Keeper.found keepers unit)
      (beforePrevious : after.beforePrevious = progress.previous) (skipped : after.skipped = [])
      (rewritten : unit.Rewritten (Keeper.Chain keepers (Keeper.brokenIds keepers unit)) next) :
    Rounded engine keepers progress unit (.again after) next

variable {engine : Engine σ} {keepers : List (Keeper σ)} {keeper : Keeper σ}
  {unit middle next : SourceUnit} {unitId : String}
  {compilerDiagnostics diagnostics : List Diagnostic} {session : Session σ} {state : PassState}
  {progress : Progress} {outcome : FixOutcome}

theorem Mended.after (mended : engine.Mended keeper middle outcome next)
    (rewritten : unit.Rewritten keeper.rule.mends middle) :
    engine.Mended keeper unit outcome next := by
  cases mended with
  | blocked language blocks => exact .blocked (language.trans rewritten.language) blocks
  | cleaned ending later =>
    refine .cleaned ending ((rewritten.trans later).mono ?_)
    exact fun _ _ _ ⟨_, first, rest⟩ => ⟨.head first rest.mends, rest.clean⟩

theorem examined_cases :
    (engine.examined unit compilerDiagnostics diagnostics).errors = [] ∧
        (engine.examined unit compilerDiagnostics diagnostics).diagnostics = diagnostics ∨
      (engine.examined unit compilerDiagnostics diagnostics).errors ≠ [] ∧
        compilerDiagnostics ≠ [] := by
  unfold examined
  split
  · exact .inl ⟨rfl, rfl⟩
  · rename_i blocked
    refine .inr ⟨blocked, ?_⟩
    rintro rfl
    exact blocked (by simp [blockers, buildErrors])

/-- What an examination comes to if the compiler only reports errors. -/
theorem exists_examine_of_actsOnAll (acts : engine.ActsOnAll unit.language)
    {look : List Diagnostic → Run σ (List Diagnostic)}
    (looks : ∀ compilerDiagnostics, (∀ d ∈ compilerDiagnostics, d.severity = .error) →
      (look compilerDiagnostics).Yields diagnostics) :
    ∃ survey, survey.unit = unit ∧ (engine.examine unit look).Yields survey ∧
      (survey.errors = [] ∧ survey.diagnostics = diagnostics ∨
        survey.errors ≠ [] ∧ engine.CanBlock unit) := by
  obtain ⟨reported, answers, errors⟩ := acts.compiles unit rfl
  have looked := looks (sorted reported) fun d member =>
    errors d ((sorted_perm reported).mem_iff.mp member)
  refine ⟨engine.examined unit (sorted reported) diagnostics, ?_,
    examine_yields (compile_yields answers) looked, ?_⟩
  · unfold examined
    split <;> rfl
  · refine examined_cases.imp_right fun both => ⟨both.1, reported, ?_, answers⟩
    rintro rfl
    exact both.2 (sorted_eq_nil.mpr rfl)

theorem passes_comesTo_done {id : String} {catalog : Catalog σ} {last : Session σ}
    (passed : engine.pass unitId catalog id state session = .ok (.done outcome) last) :
    ComesTo (engine.passes unitId catalog id · state) session outcome last := by
  refine .of_succ ?_
  unfold passes
  exact (ComesTo.of_ok passed).bind (.pure _ _)

theorem passes_comesTo_again {id : String} {catalog : Catalog σ} {after : PassState}
    {between last : Session σ}
    (passed : engine.pass unitId catalog id state session = .ok (.again after) between)
    (later : ComesTo (engine.passes unitId catalog id · after) between outcome last) :
    ComesTo (engine.passes unitId catalog id · state) session outcome last := by
  refine .of_succ ?_
  unfold passes
  exact (ComesTo.of_ok passed).bind later

/-- A report of fewer diagnostics is another one. -/
theorem sameFindings_of_fewer {previous : List Diagnostic} (found : diagnostics ≠ [])
    (fewer : previous = [] ∨ diagnostics.length < previous.length) :
    sameFindings (sorted diagnostics) previous = false := by
  rcases fewer with none | fewer
  · rw [none]
    exact not_sameFindings_nil (mt sorted_eq_nil.mp found)
  · by_contra same
    have lengths := (sameFindings_iff.mp (Bool.not_eq_false _ ▸ same)).length_eq
    simp only [findings, List.length_map, (sorted_perm diagnostics).length_eq] at lengths
    omega

section

variable (acts : engine.ActsOnAll unit.language) (distinct : (keepers.map (·.id)).Nodup)
  (member : keeper ∈ keepers)

include acts distinct member

/-- A batch of what breaks a rule is mended by edits that land. -/
theorem fixBatch_mends (held : session.HasUnit unitId unit) (tidy : unit.IsTidy)
    (found : keeper.rule.diagnostics unit ≠ []) :
    ∃ result next last,
      engine.fixBatch unit (Keeper.catalog keepers) keeper.id
          (sorted (keeper.rule.diagnostics unit)) state session = .ok result last ∧
        last.HasUnit unitId next ∧ engine.Mending keeper state unit result next := by
  have permuted := sorted_perm (keeper.rule.diagnostics unit)
  have found : sorted (keeper.rule.diagnostics unit) ≠ [] := mt sorted_eq_nil.mp found
  have once : (sorted (keeper.rule.diagnostics unit)).Nodup :=
    permuted.nodup_iff.mpr (keeper.lawful.nodup_findings tidy.distinct).of_map
  let batch := batchOf engine.config.batchSize (sorted (keeper.rule.diagnostics unit))
  have part : batch.Sublist (sorted (keeper.rule.diagnostics unit)) := batchOf_sublist
  have among : batch ⊆ keeper.rule.diagnostics unit := fun _ reported =>
    permuted.mem_iff.mp (part.subset reported)
  obtain ⟨action, edits, accepts, chooses⟩ :=
    Keeper.choice_yields acts distinct member tidy (batchOf_ne_nil found) among
  obtain ⟨prepared, chose, ready⟩ := chooses _ session ⟨held.running, rfl⟩
  obtain ⟨next, fits, rewritten, fewer⟩ :=
    keeper.lawful.withEdits tidy (once.sublist part) among accepts
  obtain rfl := Workspace.id_of_snapshot? held.present
  obtain ⟨after, offered, signal, landed⟩ := offer_of_fits (ready.workspace ▸ held.present) fits
  obtain ⟨journal, committed⟩ := commit_of_offer edits offered
  rw [fixBatch_eq, bind_of_ok chose, committed]
  exact ⟨_, next, _, rfl, ⟨signal ▸ ready.running, landed⟩,
    .mended rfl found rewritten (permuted.length_eq ▸ fewer)⟩

/-- A pass over a rule mends a batch of what breaks it, unless its report is that of the pass
before. -/
theorem pass_mends (held : session.HasUnit unitId unit) (tidy : unit.IsTidy)
    (fresh : keeper.rule.diagnostics unit ≠ [] →
      sameFindings (sorted (keeper.rule.diagnostics unit)) state.previous = false) :
    ∃ result next last,
      engine.pass unitId (Keeper.catalog keepers) keeper.id state session = .ok result last ∧
        last.HasUnit unitId next ∧ engine.Mending keeper state unit result next := by
  obtain ⟨survey, own, examines, found⟩ := exists_examine_of_actsOnAll acts
    fun _ _ => Keeper.occurrences_yields acts distinct member tidy
  obtain ⟨middle, examined, stands⟩ := examines _ session ⟨held.running, rfl⟩
  rw [← own] at examined
  have present : session.workspace.snapshot? unitId = some survey.unit := own ▸ held.present
  have inspected := inspect_eq_ok.mpr ⟨held.running, present, examined⟩
  have still := held.of_stands stands
  rw [pass_eq, bind_of_ok inspected, settle]
  rcases found with ⟨builds, same⟩ | ⟨blocked, blocks⟩
  · rw [if_neg (by simpa using builds), same, own]
    by_cases clean : keeper.rule.diagnostics unit = []
    · rw [if_pos (List.isEmpty_iff.mpr (sorted_eq_nil.mpr clean))]
      exact ⟨_, unit, middle, rfl, still, .clean clean⟩
    · rw [if_neg (mt List.isEmpty_iff.mp (mt sorted_eq_nil.mp clean)),
        if_neg (by simpa using fresh clean)]
      exact fixBatch_mends acts distinct member still tidy clean
  · rw [if_pos (by simpa using blocked)]
    exact ⟨_, unit, middle, rfl, still, .blocked blocks⟩

/-- Passes over a rule end with nothing left that breaks it, unless the unit does not build. -/
theorem passes_mend (held : session.HasUnit unitId unit) (tidy : unit.IsTidy)
    (fewer : state.previous = [] ∨
      (keeper.rule.diagnostics unit).length < state.previous.length) :
    ∃ outcome next last,
      ComesTo (engine.passes unitId (Keeper.catalog keepers) keeper.id · state) session outcome
          last ∧
        last.HasUnit unitId next ∧ engine.Mended keeper unit outcome next := by
  -- Each pass that is followed by another leaves fewer diagnostics of the rule.
  induction count : (keeper.rule.diagnostics unit).length using Nat.strong_induction_on
    generalizing unit session state with
  | _ count ih =>
    subst count
    obtain ⟨result, next, middle, passed, still, mending⟩ :=
      pass_mends acts distinct member held tidy fun found => sameFindings_of_fewer found fewer
    cases mending with
    | blocked blocks =>
      exact ⟨_, unit, middle, passes_comesTo_done passed, still, .blocked rfl blocks⟩
    | clean clean =>
      refine ⟨_, unit, middle, passes_comesTo_done passed, still, .cleaned ?_ ?_⟩
      · split
        · exact .inr rfl
        · exact .inl rfl
      · exact Rule.rewritten_cleans (.refl fun _ _ => .refl) clean
    | @mended next diagnostics reported found rewritten fewer =>
      unfold afterLanding at passed
      split at passed
      · rename_i limited
        have some : 0 < (batchOf engine.config.batchSize diagnostics).length :=
          List.length_pos_of_ne_nil (batchOf_ne_nil found)
        have shrinks : (keeper.rule.diagnostics next).length < diagnostics.length := by omega
        have count : diagnostics.length = (keeper.rule.diagnostics unit).length := by
          rw [reported]
          exact (sorted_perm _).length_eq
        let after : PassState :=
          { state with previous := diagnostics, batches := state.batches + 1 }
        have fewer : after.previous = [] ∨
            (keeper.rule.diagnostics next).length < after.previous.length := .inr shrinks
        have acts : engine.ActsOnAll next.language := rewritten.language ▸ acts
        obtain ⟨outcome, final, last, later, kept, mended⟩ := ih _ (count ▸ shrinks) acts still
          (rewritten.isTidy tidy keeper.lawful.tidy) fewer rfl
        exact ⟨outcome, final, last, passes_comesTo_again passed later, kept,
          mended.after rewritten⟩
      · rename_i whole
        refine ⟨_, next, middle, passes_comesTo_done passed, still, .cleaned (.inl rfl) ?_⟩
        have clean : keeper.rule.diagnostics next = [] := by
          rw [batchOf, if_neg whole] at fewer
          exact List.length_eq_zero_iff.mp (by omega)
        exact Rule.rewritten_cleans (rewritten.mono fun _ _ _ step => .single step) clean

theorem fixDiagnostic_mends (held : session.HasUnit unitId unit) (tidy : unit.IsTidy) :
    ∃ outcome next last,
      ComesTo (fun limit => (engine.withLimit limit).fixDiagnostic unitId (Keeper.catalog keepers)
          keeper.id) session outcome last ∧
        last.HasUnit unitId next ∧ engine.Mended keeper unit outcome next := by
  let start : PassState := {}
  have first : start.previous = [] ∨
      (keeper.rule.diagnostics unit).length < start.previous.length := .inl rfl
  simp only [fixDiagnostic_withLimit]
  exact passes_mend acts distinct member held tidy first

end

theorem fixIds_of_ok {id : String} {catalog : Catalog σ} {last : Session σ} (rest : List String)
    (progress : Progress) (running : session.cancellation.isRequested = false)
    (fixed : engine.fixDiagnostic unitId catalog id session = .ok outcome last) :
    engine.fixIds unitId catalog (id :: rest) progress session =
      match outcome.ending with
      | .buildFailed errors =>
        .ok (.ended (progress.record id outcome) (.buildFailed errors)) last
      | _ => engine.fixIds unitId catalog rest (progress.record id outcome) last := by
  have answered : orCancelled (engine.fixDiagnostic unitId catalog id) session =
      .ok (some outcome) last := by
    rw [orCancelled, fixed]
  rw [fixIds, bind_of_ok (isCancelled_apply session), running, if_neg Bool.false_ne_true,
    bind_of_ok answered]
  obtain ⟨batches, ending⟩ := outcome
  cases ending <;> rfl

/-- An identifier that is not left unfixed leaves no trace among those that are. -/
theorem skipped_record {id : String} (none : progress.skipped = [])
    (status : outcome.ending.status.isSkipped = false) :
    (progress.record id outcome).skipped = [] := by
  simp [Progress.record, status, none]

theorem Mended.status (mended : engine.Mended keeper unit outcome next) :
    outcome.ending.status.isSkipped = false := by
  cases mended with
  | blocked language blocks => rfl
  | cleaned ending rewritten =>
    rcases ending with fixed | nothing
    · rw [fixed]
      rfl
    · rw [nothing]
      rfl

section

variable (acts : engine.ActsOnAll unit.language) (distinct : (keepers.map (·.id)).Nodup)

include acts distinct

/-- The rules of some identifiers are mended one after another, unless the unit does not build. -/
theorem fixIds_mend {ids : List String} (known : ∀ id ∈ ids, ∃ keeper ∈ keepers, keeper.id = id)
    (held : session.HasUnit unitId unit) (tidy : unit.IsTidy) (none : progress.skipped = []) :
    ∃ result next last,
      ComesTo (fun limit => (engine.withLimit limit).fixIds unitId (Keeper.catalog keepers) ids
          progress) session result last ∧
        last.HasUnit unitId next ∧ engine.Worked keepers ids progress unit result next := by
  induction ids generalizing progress unit session with
  | nil =>
    exact ⟨_, unit, session, .of_ok rfl, held, .worked rfl rfl none (.refl fun _ _ => .nil)⟩
  | cons id rest ih =>
    obtain ⟨keeper, member, rfl⟩ := known id List.mem_cons_self
    obtain ⟨outcome, middle, between, fixed, still, mended⟩ :=
      fixDiagnostic_mends acts distinct member held tidy
    have skipped : (progress.record keeper.id outcome).skipped = [] :=
      skipped_record none mended.status
    cases mended with
    | blocked language blocks =>
      exact ⟨_, middle, between, fixed.mono fun _ => fixIds_of_ok rest progress held.running,
        still, .blocked rfl skipped language blocks⟩
    | cleaned ending rewritten =>
      have tidy := rewritten.isTidy tidy fun whole cleans =>
        keeper.lawful.tidy_of_mends whole cleans.mends
      have acts : engine.ActsOnAll middle.language := rewritten.language ▸ acts
      obtain ⟨result, next, last, later, kept, worked⟩ :=
        ih acts (fun id among => known id (List.mem_cons_of_mem _ among)) still tidy skipped
      refine ⟨result, next, last, fixed.join later fun limit ran rested => ?_, kept, ?_⟩
      · refine (fixIds_of_ok rest progress held.running ran).trans ?_
        rcases ending with fixed | nothing
        · rw [fixed]
          exact rested
        · rw [nothing]
          exact rested
      · cases worked with
        | blocked iterations skipped language blocks =>
          exact .blocked iterations skipped (language.trans rewritten.language) blocks
        | worked iterations previous skipped rest =>
          refine .worked iterations previous skipped ((rewritten.trans rest).mono ?_)
          exact fun _ _ _ ⟨_, cleans, chain⟩ => .cons member cleans chain

/-- Acting on all that was found mends the rules that are broken, unless the unit does not build. -/
theorem act_mends {survey : Survey} (builds : survey.errors = [])
    (same : survey.diagnostics = Keeper.found keepers unit)
    (held : session.HasUnit unitId unit) (tidy : unit.IsTidy) (none : progress.skipped = [])
    (fresh : Keeper.found keepers unit ≠ [] →
      progress.repeats (Keeper.found keepers unit) = false) :
    ∃ result next last,
      ComesTo (fun limit => (engine.withLimit limit).act unitId (Keeper.catalog keepers) progress
          survey) session result last ∧
        last.HasUnit unitId next ∧ engine.Rounded keepers progress unit result next := by
  by_cases clean : Keeper.found keepers unit = []
  · refine ⟨_, unit, session, ⟨0, fun limit _ => ?_⟩, held, .converged clean⟩
    dsimp only
    rw [act, if_neg (by simpa using builds), same, if_pos (List.isEmpty_iff.mpr clean)]
    rfl
  have known : ∀ id ∈ Keeper.brokenIds keepers unit, ∃ keeper ∈ keepers, keeper.id = id := by
    intro id among
    obtain ⟨keeper, member, own, -⟩ := Keeper.mem_brokenIds.mp among
    exact ⟨keeper, member, own⟩
  let announced := { session with
    journal := .found (Keeper.found keepers unit).length survey.unit.displayName ::
      session.journal }
  have announcedHas : announced.HasUnit unitId unit := ⟨held.running, held.present⟩
  let start : Progress := { progress with iterations := progress.iterations + 1 }
  have unskipped : start.skipped = [] := none
  obtain ⟨result, next, last, fixed, kept, worked⟩ :=
    fixIds_mend acts distinct known announcedHas tidy unskipped
  refine ⟨result.afterFixing (Keeper.found keepers unit), next, last,
    fixed.mono fun limit ran => ?_, kept, ?_⟩
  · rw [act, if_neg (by simpa using builds), same, if_neg (by simpa using clean),
      if_neg (by simpa using fresh clean)]
    refine (bind_of_ok (note_apply _ _)).trans ?_
    exact (bind_of_ok ran).trans rfl
  · cases worked with
    | blocked iterations skipped language blocks =>
      exact .blocked (.inr ⟨clean, iterations⟩) skipped language blocks
    | worked iterations previous skipped rewritten =>
      exact .worked clean iterations rfl previous skipped rewritten

/-- A look at a unit finds what breaks rules, unless the unit does not build. -/
theorem exists_survey (held : session.HasUnit unitId unit) (rounds : Nat) :
    ∃ survey last, survey.unit = unit ∧
      engine.survey unitId (Keeper.catalog keepers) rounds session = .ok survey last ∧
        last.Stands session.workspace ∧
          (survey.errors = [] ∧ survey.diagnostics = Keeper.found keepers unit ∨
            survey.errors ≠ [] ∧ engine.CanBlock unit) := by
  have looks (compilerDiagnostics : List Diagnostic)
      (errors : ∀ d ∈ compilerDiagnostics, d.severity = .error) :
      Yields (do
        note (.analyzing unit.displayName)
        engine.fixable unit (Keeper.catalog keepers) compilerDiagnostics)
        (Keeper.found keepers unit) :=
    (Yields.note _).bind (Keeper.fixable_yields acts distinct errors)
  obtain ⟨survey, own, examines, found⟩ := exists_examine_of_actsOnAll acts looks
  let noted := { session with
    journal := .compiling unit.displayName rounds :: session.journal }
  have stood : noted.Stands session.workspace := ⟨held.running, rfl⟩
  obtain ⟨last, examined, stands⟩ := examines _ noted stood
  subst own
  exact ⟨survey, last, rfl, survey_eq_ok.mpr ⟨held.present, examined⟩, stands, found⟩

/-- A round mends the rules that are broken, unless the unit does not build or nothing is found. -/
theorem round_mends (held : session.HasUnit unitId unit) (tidy : unit.IsTidy)
    (none : progress.skipped = [])
    (fresh : Keeper.found keepers unit ≠ [] →
      progress.repeats (Keeper.found keepers unit) = false) :
    ∃ result next last,
      ComesTo (fun limit => (engine.withLimit limit).round unitId (Keeper.catalog keepers) progress)
          session result last ∧
        last.HasUnit unitId next ∧ engine.Rounded keepers progress unit result next := by
  obtain ⟨survey, middle, rfl, surveyed, stands, found⟩ :=
    exists_survey acts distinct held progress.iterations
  have still := held.of_stands stands
  have acted (limit : Nat) :
      (engine.withLimit limit).round unitId (Keeper.catalog keepers) progress session =
        (engine.withLimit limit).act unitId (Keeper.catalog keepers) progress survey middle := by
    rw [round_eq, bind_of_ok (isCancelled_apply session), held.running,
      if_neg Bool.false_ne_true]
    exact bind_of_ok surveyed
  rcases found with ⟨builds, same⟩ | ⟨blocked, blocks⟩
  · obtain ⟨result, next, last, ran, kept, rounded⟩ :=
      act_mends acts distinct builds same still tidy none fresh
    exact ⟨result, next, last, ran.mono fun limit => (acted limit).trans, kept, rounded⟩
  · refine ⟨.ended progress (.buildFailed survey.errors), survey.unit, middle,
      ⟨0, fun limit _ => ?_⟩, still, .blocked (.inl (Nat.le_refl _)) none rfl blocks⟩
    refine (acted limit).trans ?_
    rw [act, if_pos (by simpa using blocked)]
    rfl

end

end Engine

end FixLoop
