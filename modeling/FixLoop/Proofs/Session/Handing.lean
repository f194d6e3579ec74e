import FixLoop.Formatting
import FixLoop.Proofs.Collected
import FixLoop.Proofs.Plugin.Letters
import FixLoop.Proofs.Session.Course
import FixLoop.Proofs.Session.Journal

/-!
What is handed to the selection of fixes. A round filters what it finds and passes on identifiers
only; a pass looks for its identifier again, and filters by severity alone. So an identifier that
the configuration ignores in analyzers is handed over when the compiler warns of it as well.
-/

namespace FixLoop

variable {σ : Type}

namespace Event

/-- Whether a fix was to be selected. -/
def isSelecting : Event → Bool
  | selecting .. => true
  | _ => false

/-- Whether an event, if it hands over a batch, hands over the given one. -/
def HandsOnly (id : String) (batch : List Diagnostic) : Event → Prop
  | selecting other given => other = id ∧ given = batch
  | _ => True

theorem isSelecting_of_isOfPlugin (event : Event) (own : event.isOfPlugin = true) :
    event.isSelecting = false := by
  cases event <;> first | rfl | cases own

theorem isSelecting_of_isRemark (event : Event) (remark : event.isRemark = true) :
    event.isSelecting = false := by
  cases event <;> first | rfl | cases remark

theorem isSelecting_of_isRefusal (event : Event) (refusal : event.isRefusal = true) :
    event.isSelecting = false := by
  cases event <;> first | rfl | cases refusal

theorem isSelecting_of_tellsOfReading (event : Event) (unit : SourceUnit)
    (tells : event.TellsOfReading unit) : event.isSelecting = false := by
  cases event <;> first | rfl | cases tells

variable {id : String} {batch : List Diagnostic}

theorem handsOnly_of_not_isSelecting (event : Event) (none : event.isSelecting = false) :
    event.HandsOnly id batch := by
  cases event with
  | selecting other given => cases none
  | _ => trivial

theorem handsOnly_of_tellsOfSelecting {unit : SourceUnit} (event : Event)
    (tells : event.TellsOfSelecting unit id batch) : event.HandsOnly id batch := by
  cases event with
  | selecting other given => exact tells
  | _ => trivial

end Event

/-- Whether a session follows another one and each batch was handed over meanwhile in a certain way,
which may depend on the journal before. -/
def Session.HandsOver (how : String → List Diagnostic → List Event → Prop)
    (start now : Session σ) : Prop :=
  ∃ news, start.Follows now news ∧ ∀ newer id batch older,
    news = newer ++ .selecting id batch :: older → how id batch (older ++ start.journal)

namespace Session.HandsOver

variable {how other : String → List Diagnostic → List Event → Prop}
  {start middle now last : Session σ}

theorem journal (handed : start.HandsOver how now) : start.journal <:+ now.journal := by
  obtain ⟨news, follows, -⟩ := handed
  exact ⟨news, follows.journal.symm⟩

theorem trans (first : start.HandsOver how middle) (second : middle.HandsOver how last) :
    start.HandsOver how last := by
  obtain ⟨earlier, follows, hands⟩ := first
  obtain ⟨later, goesOn, stillHands⟩ := second
  refine ⟨later ++ earlier, follows.trans goesOn, fun newer id batch older split => ?_⟩
  rcases append_eq_append_cons split with ⟨rest, within, rfl⟩ | ⟨rest, -, within⟩
  · rw [List.append_assoc, ← follows.journal]
    exact stillHands newer id batch rest within
  · exact hands rest id batch older within

theorem mono (handed : start.HandsOver how now)
    (weaken : ∀ id batch older, start.journal <:+ older → how id batch older →
      other id batch older) : start.HandsOver other now := by
  obtain ⟨news, follows, hands⟩ := handed
  refine ⟨news, follows, fun newer id batch older split => ?_⟩
  exact weaken id batch _ (List.suffix_append ..) (hands newer id batch older split)

/-- If nothing else is handed over, it is enough to know about one batch. -/
theorem of_handsOnly {id : String} {batch : List Diagnostic}
    (grown : start.Grows (Event.HandsOnly id batch) now)
    (explained : ∀ older, start.journal <:+ older → how id batch older) :
    start.HandsOver how now := by
  obtain ⟨news, follows, only⟩ := grown
  refine ⟨news, follows, fun newer other given older split => ?_⟩
  obtain ⟨rfl, rfl⟩ := only (.selecting other given) (by simp [split])
  exact explained _ (List.suffix_append ..)

theorem of_grows (grown : start.Grows (fun event => event.isSelecting = false) now) :
    start.HandsOver how now := by
  obtain ⟨news, follows, calm⟩ := grown
  refine ⟨news, follows, fun newer id batch older split => ?_⟩
  cases calm (.selecting id batch) (by simp [split])

theorem refl (session : Session σ) : session.HandsOver how session := of_grows (.refl session)

theorem remark (handed : start.HandsOver how now) {event : Event} (remark : event.isRemark = true) :
    start.HandsOver how { now with journal := event :: now.journal } :=
  handed.trans <| .of_grows <| (Grows.refl now).note
    (Event.isEffect_of_isQuiet (Event.isQuiet_of_isRemark remark))
    (event.isSelecting_of_isRemark remark)

theorem learn (handed : start.HandsOver how now) (known : List (String × Descriptor)) :
    start.HandsOver how { now with known } :=
  handed.trans (.of_grows ((Grows.refl now).learn known))

theorem moves (start : Session σ) (how : String → List Diagnostic → List Event → Prop)
    (unitId : String) : Engine.Moves unitId (start.HandsOver how) fun _ _ => True where
  remark _ remark _ handed := handed.remark remark
  snapshot := Run.Keeps.snapshot fun _ _ => trivial
  unfinished _ _ _ := trivial

end Session.HandsOver

/-- Whether an analyzer can report a diagnostic in a snapshot. -/
def Analyzer.CanReport (analyzer : Analyzer σ) (unit : SourceUnit) (diagnostic : Diagnostic) :
    Prop :=
  ∃ session reported last,
    (analyzer.analyze unit).carryOut session = (.ok reported, last) ∧ diagnostic ∈ reported

namespace Engine

open Run Session

variable {engine : Engine σ} {unitId id : String} {catalog : Catalog σ} {unit : SourceUnit}
  {start session last : Session σ} {survey : Survey} {diagnostic : Diagnostic}

/-! ### What filters let through -/

theorem canReport_of_runAnalyzer {analyzer : Analyzer σ} {diagnostics : List Diagnostic}
    (ran : runAnalyzer unit analyzer session = .ok diagnostics last)
    (member : diagnostic ∈ diagnostics) : analyzer.CanReport unit diagnostic := by
  obtain ⟨_, noted, -, ran⟩ := bind_eq_ok.mp ran
  obtain ⟨answer, middle, asked, ran⟩ := bind_eq_ok.mp ran
  cases answer with
  | error failure =>
    obtain ⟨_, _, -, ran⟩ := bind_eq_ok.mp ran
    obtain ⟨rfl, -⟩ := pure_eq_ok.mp ran
    cases member
  | ok reported =>
    obtain ⟨rfl, -⟩ := pure_eq_ok.mp ran
    refine ⟨noted, reported, middle, ?_, member⟩
    cases carried : (analyzer.analyze unit).carryOut noted with
    | mk answer after =>
      unfold attempt at asked
      rw [carried] at asked
      cases asked
      rfl

theorem canReport_of_reports {analyzers : List (Analyzer σ)} {batches : List (List Diagnostic)}
    (ran : analyzers.mapM (runAnalyzer unit) session = .ok batches last)
    (member : diagnostic ∈ batches.flatten) :
    ∃ analyzer ∈ analyzers, analyzer.CanReport unit diagnostic := by
  induction analyzers generalizing batches session last with
  | nil =>
    obtain ⟨rfl, -⟩ := pure_eq_ok.mp ran
    cases member
  | cons analyzer rest ih =>
    rw [List.mapM_cons] at ran
    obtain ⟨reported, _, first, ran⟩ := bind_eq_ok.mp ran
    obtain ⟨others, _, later, ran⟩ := bind_eq_ok.mp ran
    obtain ⟨rfl, -⟩ := pure_eq_ok.mp ran
    rcases List.mem_append.mp member with own | other
    · exact ⟨analyzer, List.mem_cons_self, canReport_of_runAnalyzer first own⟩
    · obtain ⟨author, among, reports⟩ := ih later other
      exact ⟨author, List.mem_cons_of_mem _ among, reports⟩

/-- What analyzers report together, one of them reports. -/
theorem canReport_of_analyze {analyzers : List (Analyzer σ)} {diagnostics : List Diagnostic}
    (ran : analyze unit analyzers session = .ok diagnostics last)
    (member : diagnostic ∈ diagnostics) :
    ∃ analyzer ∈ analyzers, analyzer.CanReport unit diagnostic := by
  obtain ⟨batches, middle, reported, ran⟩ := bind_eq_ok.mp ran
  obtain ⟨rfl, -⟩ := pure_eq_ok.mp ran
  exact canReport_of_reports reported
    (List.mem_of_find?_eq_some (Diagnostic.mem_distinct.mp (List.mem_mergeSort.mp member)))

/-- What counts in a pass: what the analyzers of the identifier report or, if it has none, the
compiler, of that identifier and of no lower severity than configured. -/
theorem mem_of_occurrences {compilerDiagnostics diagnostics : List Diagnostic}
    (ran : engine.occurrences unit catalog id compilerDiagnostics session = .ok diagnostics last)
    (member : diagnostic ∈ diagnostics) :
    diagnostic.id = id ∧ engine.config.minimumSeverity ≤ diagnostic.severity ∧
      (catalog.analyzersOf id = [] ∧ diagnostic ∈ compilerDiagnostics ∨
        ∃ analyzer ∈ catalog.analyzersOf id, analyzer.CanReport unit diagnostic) := by
  unfold occurrences at ran
  dsimp only at ran
  split at ran
  · rename_i none
    obtain ⟨_, _, asked, ran⟩ := bind_eq_ok.mp ran
    obtain ⟨rfl, rfl⟩ := pure_eq_ok.mp asked
    obtain ⟨rfl, -⟩ := pure_eq_ok.mp ran
    obtain ⟨among, counts⟩ := List.mem_filter.mp member
    simp only [Bool.and_eq_true, beq_iff_eq, decide_eq_true_eq] at counts
    exact ⟨counts.1, counts.2, .inl ⟨by simpa using none, among⟩⟩
  · obtain ⟨reported, _, asked, ran⟩ := bind_eq_ok.mp ran
    obtain ⟨rfl, -⟩ := pure_eq_ok.mp ran
    obtain ⟨among, counts⟩ := List.mem_filter.mp member
    simp only [Bool.and_eq_true, beq_iff_eq, decide_eq_true_eq] at counts
    exact ⟨counts.1, counts.2, .inr (canReport_of_analyze asked among)⟩

/-- What a round acts on: what it acts on in analyzers, and warnings of the compiler. -/
theorem mem_of_fixable {compilerDiagnostics diagnostics : List Diagnostic}
    (ran : engine.fixable unit catalog compilerDiagnostics session = .ok diagnostics last)
    (member : diagnostic ∈ diagnostics) :
    isFixable engine.config catalog diagnostic = true ∨
      diagnostic ∈ compilerDiagnostics ∧
        isFixableWarning engine.config catalog diagnostic = true := by
  obtain ⟨reported, _, -, ran⟩ := bind_eq_ok.mp ran
  obtain ⟨_, _, -, ran⟩ := bind_eq_ok.mp ran
  obtain ⟨rfl, -⟩ := pure_eq_ok.mp ran
  rcases List.mem_append.mp member with own | warned
  · exact .inl (List.mem_filter.mp own).2
  · exact .inr (List.mem_filter.mp warned)

theorem mem_of_survey {rounds : Nat}
    (surveyed : engine.survey unitId catalog rounds session = .ok survey last)
    (member : diagnostic ∈ survey.diagnostics) :
    isFixable engine.config catalog diagnostic = true ∨
      diagnostic ∈ survey.compilerDiagnostics ∧
        isFixableWarning engine.config catalog diagnostic = true := by
  obtain ⟨-, examined⟩ := survey_eq_ok.mp surveyed
  obtain ⟨-, compiled, verified, -, -, looked⟩ := examine_eq_ok.mp examined
  rcases looked with ⟨-, none, -⟩ | ⟨-, looked⟩
  · rw [none] at member
    cases member
  · obtain ⟨_, _, -, looked⟩ := bind_eq_ok.mp looked
    exact mem_of_fixable looked member

/-- An identifier that rounds act on is not ignored, neither in analyzers nor in the compiler,
according to who reports it. -/
theorem mem_ids_of_survey {rounds : Nat}
    (surveyed : engine.survey unitId catalog rounds session = .ok survey last)
    (member : id ∈ survey.diagnostics.map (·.id)) :
    catalog.analyzersOf id ≠ [] ∧ id ∉ engine.config.ignoredIds ∨
      engine.config.ignoresCompilerId id = false ∧ ∃ warning ∈ survey.compilerDiagnostics,
        warning.id = id ∧ isFixableWarning engine.config catalog warning = true := by
  obtain ⟨diagnostic, found, rfl⟩ := List.mem_map.mp member
  rcases mem_of_survey surveyed found with acted | ⟨warned, acted⟩
  · left
    simp only [isFixable, Config.isSupported, Catalog.hasAnalyzer, Bool.and_eq_true,
      decide_eq_true_eq] at acted
    obtain ⟨⟨⟨-, unignored⟩, reports⟩, -⟩ := acted
    obtain ⟨analyzer, among, reports⟩ := List.any_eq_true.mp reports
    exact ⟨List.ne_nil_of_mem (List.mem_filter.mpr ⟨among, reports⟩), unignored⟩
  · right
    refine ⟨?_, diagnostic, warned, rfl, acted⟩
    simp only [isFixableWarning, Bool.and_eq_true, Bool.not_eq_true'] at acted
    exact acted.1.2

/-! ### What leads to a batch -/

/-- Whether a batch is what a pass found, handed over after it did. -/
structure Picks (engine : Engine σ) (unitId : String) (catalog : Catalog σ) (id : String)
    (batch : List Diagnostic) (passing : Session σ) (seen : Survey) (older : List Event) : Prop
    where
  inspected : ∃ after, engine.inspect unitId catalog id passing = .ok seen after ∧
    after.journal <:+ older
  builds : seen.errors = []
  batch : batch = batchOf engine.config.batchSize seen.diagnostics

/-- The survey of a round, and the inspection of a pass in it. -/
structure Handing (σ : Type) where
  rounds : Nat
  surveying : Session σ
  survey : Survey
  surveyed : Session σ
  passing : Session σ
  seen : Survey

/-- Whether a round that follows a session found something to do for an identifier, and a pass of it
the batch that was then handed over. -/
structure Handing.Explains (handing : Handing σ) (engine : Engine σ) (unitId : String)
    (catalog : Catalog σ) (start : Session σ) (id : String) (batch : List Diagnostic)
    (older : List Event) : Prop where
  begun : start.journal <:+ handing.surveying.journal
  surveyed : engine.survey unitId catalog handing.rounds handing.surveying =
    .ok handing.survey handing.surveyed
  builds : handing.survey.errors = []
  found : id ∈ handing.survey.diagnostics.map (·.id)
  went : handing.surveyed.journal <:+ handing.passing.journal
  picks : engine.Picks unitId catalog id batch handing.passing handing.seen older

def Explained (engine : Engine σ) (unitId : String) (catalog : Catalog σ) (start : Session σ)
    (id : String) (batch : List Diagnostic) (older : List Event) : Prop :=
  ∃ handing : Handing σ, handing.Explains engine unitId catalog start id batch older

theorem pluginsNote_isSelecting (engine : Engine σ) :
    engine.PluginsNote fun event => event.isSelecting = false :=
  .of_own engine Event.isSelecting_of_isOfPlugin

section

variable (analyzers : catalog.analyzers ⊆ engine.analyzers)
  (fixers : catalog.fixers ⊆ engine.fixers)

include analyzers fixers

/-- A pass hands over what its inspection found, if anything. -/
theorem pass_handsOver (state : PassState) (session : Session σ) :
    session.HandsOver (fun other batch older => other = id ∧ ∃ seen,
        engine.Picks unitId catalog id batch session seen older)
      (final (engine.pass unitId catalog id state session)) := by
  have looking := engine.pluginsNote_isSelecting.inspect_grows unitId id
    Event.isSelecting_of_tellsOfReading analyzers session
  obtain ⟨reached, reaches, ends⟩ := engine.pass_ends unitId catalog id state session
  have finished : reached.Grows (fun event => event.isSelecting = false)
      (final (engine.pass unitId catalog id state session)) := by
    generalize engine.pass unitId catalog id state session = ran at ends
    cases ends with
    | refused refusals counted => exact refusals.mono Event.isSelecting_of_isRefusal
    | landed lands counted =>
      obtain ⟨title, name, version, edits, follows⟩ := lands
      exact ⟨_, follows, by simp [Event.isSelecting]⟩
  refine HandsOver.trans ?_ (.of_grows finished)
  cases reaches with
  | inspecting => exact .of_grows looking
  | @choosing seen middle inspected builds =>
    rw [inspected, final_ok] at looking
    refine (HandsOver.of_grows looking).trans ?_
    refine .of_handsOnly (PluginsNote.choice_grows ?_ ?_ Event.handsOnly_of_tellsOfSelecting fixers
      middle) fun older goesOn => ⟨rfl, seen, ⟨middle, inspected, goesOn⟩, builds, rfl⟩
    · exact .of_own engine fun event own =>
        event.handsOnly_of_not_isSelecting (event.isSelecting_of_isOfPlugin own)
    · exact fun event remark =>
        event.handsOnly_of_not_isSelecting (event.isSelecting_of_isRemark remark)

/-- Fixing identifiers in turn hands over what was found for one of them. -/
theorem fixIds_handsOver {ids : List String} (progress : Progress) (session : Session σ) :
    session.HandsOver (fun id batch older => id ∈ ids ∧ ∃ passing seen,
        session.journal <:+ passing.journal ∧
          engine.Picks unitId catalog id batch passing seen older)
      (final (engine.fixIds unitId catalog ids progress session)) := by
  have moves := HandsOver.moves session (fun id batch older => id ∈ ids ∧ ∃ passing seen,
    session.journal <:+ passing.journal ∧ engine.Picks unitId catalog id batch passing seen older)
  refine (Moves.fixIds_keeps (fun id member => (moves unitId).passes_keeps (fun state => ?_) _ _)
    progress).final (.refl session)
  refine Keeps.of_final (fun now handed => handed.trans ?_) fun _ _ => .inl trivial
  refine (pass_handsOver analyzers fixers state now).mono fun other batch older _ picked => ?_
  obtain ⟨rfl, seen, picks⟩ := picked
  exact ⟨member, now, seen, handed.journal, picks⟩

/-- A round that surveyed its unit hands over what was found for an identifier of its survey. -/
theorem act_handsOver {rounds : Nat} {surveying surveyed : Session σ}
    (begun : start.journal <:+ surveying.journal)
    (ran : engine.survey unitId catalog rounds surveying = .ok survey surveyed)
    (progress : Progress) :
    (engine.act unitId catalog progress survey).Keeps
      (surveyed.HandsOver (engine.Explained unitId catalog start)) fun _ _ => True := by
  have moves := HandsOver.moves surveyed (engine.Explained unitId catalog start) unitId
  refine moves.act_keeps (fun builds progress => ?_) progress
  refine .of_final (fun now handed => handed.trans ?_) fun _ _ => trivial
  refine (fixIds_handsOver analyzers fixers progress now).mono fun id batch older _ found => ?_
  obtain ⟨member, passing, seen, went, picks⟩ := found
  exact ⟨⟨rounds, surveying, survey, surveyed, passing, seen⟩, begun, ran, builds,
    mem_idSet.mp member, handed.journal.trans went, picks⟩

theorem round_handsOver (progress : Progress) (session : Session σ)
    (handed : start.HandsOver (engine.Explained unitId catalog start) session) :
    start.HandsOver (engine.Explained unitId catalog start)
      (final (engine.round unitId catalog progress session)) := by
  have looking := engine.pluginsNote_isSelecting.survey_grows unitId progress.iterations
    Event.isSelecting_of_isRemark Event.isSelecting_of_tellsOfReading analyzers session
  rw [round_eq]
  refine final_bind (fun _ _ failed => nomatch failed) fun cancelled _ asked => ?_
  cases asked
  split
  · exact handed
  refine final_bind (fun fault after failed => ?_) fun survey after surveyed => ?_
  · rw [failed] at looking
    exact handed.trans (.of_grows looking)
  · rw [surveyed] at looking
    refine handed.trans ((HandsOver.of_grows looking).trans ?_)
    exact (act_handsOver analyzers fixers handed.journal surveyed progress).final (.refl after)

end

/-- Whether a diagnostic that was handed over was one to act on. An identifier that is ignored in
analyzers can be handed over still, namely if the compiler warned of it too. -/
structure Admits (engine : Engine σ) (catalog : Catalog σ) (handing : Handing σ) (id : String)
    (diagnostic : Diagnostic) : Prop where
  own : diagnostic.id = id
  severity : engine.config.minimumSeverity ≤ diagnostic.severity
  reported :
    catalog.analyzersOf id = [] ∧ diagnostic ∈ handing.seen.compilerDiagnostics ∧
        engine.config.ignoresCompilerId id = false ∨
      (∃ analyzer ∈ catalog.analyzersOf id, analyzer.CanReport handing.seen.unit diagnostic) ∧
        (id ∉ engine.config.ignoredIds ∨ ∃ warning ∈ handing.survey.compilerDiagnostics,
          warning.id = id ∧ isFixableWarning engine.config catalog warning = true)

theorem Handing.Explains.admits {handing : Handing σ} {batch : List Diagnostic}
    {older : List Event}
    (explains : handing.Explains engine unitId catalog start id batch older)
    (member : diagnostic ∈ batch) : engine.Admits catalog handing id diagnostic := by
  rw [explains.picks.batch] at member
  obtain ⟨after, inspected, -⟩ := explains.picks.inspected
  obtain ⟨-, -, examined⟩ := inspect_eq_ok.mp inspected
  obtain ⟨-, compiled, verified, -, -, looked⟩ := examine_eq_ok.mp examined
  rcases looked with ⟨blocked, -, -⟩ | ⟨-, looked⟩
  · exact absurd explains.picks.builds blocked
  obtain ⟨own, severe, reported⟩ := mem_of_occurrences looked (batchOf_sublist.subset member)
  refine ⟨own, severe, ?_⟩
  have acted := mem_ids_of_survey explains.surveyed explains.found
  rcases reported with ⟨none, warned⟩ | reported
  · rcases acted with ⟨some, -⟩ | ⟨unignored, -⟩
    · exact absurd none some
    · exact .inl ⟨none, warned, unignored⟩
  · exact .inr ⟨reported, acted.imp (·.2) (·.2)⟩

/-- Whatever is handed to the selection of fixes while a unit is fixed, however that ends, was found
in a round and again in a pass, and is not ignored: except that an analyzer's identifier is not
looked up among those ignored if the compiler warns of it as well. -/
theorem fixUnit_admits {newer older : List Event} {batch : List Diagnostic}
    (found : session.workspace.snapshot? unitId = some unit)
    (handed : (final (engine.fixUnit unitId session)).journal =
      newer ++ .selecting id batch :: older)
    (inside : session.journal <:+ older) :
    ∃ handing : Handing σ,
      handing.Explains engine unitId (engine.catalog unit) session id batch older ∧
        ∀ diagnostic ∈ batch, engine.Admits (engine.catalog unit) handing id diagnostic := by
  have explained : session.HandsOver (engine.Explained unitId (engine.catalog unit) session)
      (final (engine.fixFound unitId unit session)) := by
    have moves := HandsOver.moves session (engine.Explained unitId (engine.catalog unit) session)
    refine ((moves unitId).fixFound_keeps (.learn fun known now handed => handed.learn known)
      (Moves.rounds_keeps fun progress => ?_)).final (.refl session)
    exact .of_final (round_handsOver (engine.analyzers_catalog unit) (engine.fixers_catalog unit)
      progress) fun _ _ => trivial
  rw [fixUnit_eq, bind_of_ok (snapshot_eq_ok.mpr ⟨found, rfl⟩)] at handed
  obtain ⟨news, follows, hands⟩ := explained
  obtain ⟨rest, split, rfl⟩ := follows.split_news handed inside
  obtain ⟨handing, explains⟩ := hands newer id batch rest split
  exact ⟨handing, explains, fun diagnostic member => explains.admits member⟩

end Engine

namespace Sharing

/-! An analyzer and the compiler report different letters under one identifier, which is ignored in
analyzers. -/

def engine : Engine Unit where
  analyzers := [Letters.analyzer 'a']
  fixers := [Letters.fixer (Letters.replacing 'q')]
  compiler := {
    type := "Warner", package := "plugins"
    compile := fun unit => .answer (Letters.diagnostics
      { Letters.descriptor with severity := .warning } .compiler 'c' unit) }
  formatter := Formatting.whitespace
  config := {
    ignoredIds := [Letters.descriptor.id], maxIterations := 1, maxIterations_pos := Nat.one_pos }
  passLimit := 4

def session : Session Unit := Letters.session ['a', 'c']

/-- What the analyzer reports. -/
def reported : List Diagnostic :=
  Letters.diagnostics Letters.descriptor .analyzer 'a' (Letters.source ['a', 'c'])

/-- Whether a fix for what the analyzer reports was to be selected. -/
def isHanded (event : Event) : Bool := event == .selecting "X1" reported

theorem fixUnit_hands :
    ∃ result last newer older, engine.fixUnit "a" session = .ok result last ∧
      last.journal = newer ++ .selecting "X1" reported :: older := by
  have evaluated : Run.peek? (fun _ last =>
      let newer := last.journal.takeWhile (!isHanded ·)
      let older := (last.journal.dropWhile (!isHanded ·)).tail
      last.journal == newer ++ .selecting "X1" reported :: older)
      (engine.fixUnit "a" session) = some true := by decide +kernel
  obtain ⟨result, last, ran, split⟩ := Run.peek?_eq_some.mp evaluated
  exact ⟨result, last, _, _, ran, by simpa using split⟩

/-- The identifier is ignored, but the round that the batch was handed over in found a warning. -/
theorem fixUnit_admits_warned :
    ∃ (last : Session Unit) (newer older : List Event) (handing : Engine.Handing Unit),
      last.journal = newer ++ .selecting "X1" reported :: older ∧
      handing.Explains engine "a" (engine.catalog (Letters.source ['a', 'c'])) session "X1" reported
        older ∧
      ∃ warning ∈ handing.survey.compilerDiagnostics, warning.id = "X1" := by
  obtain ⟨result, last, newer, older, ran, split⟩ := fixUnit_hands
  have present : session.workspace.snapshot? "a" = some (Letters.source ['a', 'c']) := rfl
  have handed : (Run.final (engine.fixUnit "a" session)).journal =
      newer ++ .selecting "X1" reported :: older := by rw [ran, Run.final_ok, split]
  obtain ⟨handing, explains, admits⟩ :=
    Engine.fixUnit_admits present handed (List.nil_suffix (l := older))
  refine ⟨last, newer, older, handing, split, explains, ?_⟩
  have member : reported.head (by decide) ∈ reported := List.head_mem _
  rcases (admits _ member).reported with ⟨none, -⟩ | ⟨-, unignored | ⟨warning, warned, own, -⟩⟩
  · cases none
  · exact absurd (by decide) unignored
  · exact ⟨warning, warned, own⟩

/-- What the analyzer reported was handed over although its identifier is ignored. -/
theorem ignored_but_handed :
    ∃ result last newer older, engine.fixUnit "a" session = .ok result last ∧
      last.journal = newer ++ .selecting "X1" reported :: older ∧ reported ≠ [] ∧
      ∀ diagnostic ∈ reported, diagnostic.id ∈ engine.config.ignoredIds ∧
        ∃ analyzer ∈ engine.analyzers,
          analyzer.CanReport (Letters.source ['a', 'c']) diagnostic := by
  obtain ⟨result, last, newer, older, ran, split⟩ := fixUnit_hands
  refine ⟨result, last, newer, older, ran, split, by decide, fun diagnostic member => ⟨?_, ?_⟩⟩
  · have all : reported.all fun diagnostic => diagnostic.id ∈ engine.config.ignoredIds := by decide
    simpa using List.all_eq_true.mp all diagnostic member
  · exact ⟨_, List.mem_singleton_self _, session, reported, session, rfl, member⟩

end Sharing

end FixLoop
