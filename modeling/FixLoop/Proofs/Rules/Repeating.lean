import FixLoop.Proofs.Rules.Fixing
import FixLoop.Proofs.Rules.Neat
import FixLoop.Proofs.Session.Convergence
import FixLoop.Proofs.Session.Renewing
import FixLoop.Proofs.Session.Working

/-!
Repeated runs. A run over units of plain text leaves nothing to do in any of their documents: what
it leaves breaks no rule about white space, has the banner unless it is generated, and is formatted.
So the next run leaves every unit as it is.
-/

namespace FixLoop

variable {σ : Type}

namespace Engine

open Run

variable {engine : Engine σ} {unit : SourceUnit} {unitId language : String} {session : Session σ}
  {document : Document}

/-- Whether a document breaks no rule about white space and needs no finishing. -/
structure IsFinished (engine : Engine σ) (language : String) (document : Document) : Prop where
  neat : ∃ lines, Text.Lined document.text lines
  bannered : engine.HasBanner language document
  formatted : engine.HasFormat document

section

variable (inLine : ∀ line ∈ engine.config.bannerLines, ∀ c ∈ line.toList, isLineBreak c = false)

include inLine

theorem hasBanner_bannered (neat : ∃ lines, Text.Lined document.text lines) :
    (∃ lines, Text.Lined (engine.bannered language document) lines) ∧
      engine.HasBanner language
        { document with text := engine.bannered language document } := by
  obtain ⟨lines, lined⟩ := neat
  unfold bannered
  split
  · rename_i none
    exact ⟨⟨lines, lined⟩, absurd none⟩
  · rename_i some
    have filled : Banner.render language engine.config.bannerLines ≠ [] :=
      mt Banner.render_eq_nil.mp some
    exact ⟨Banner.exists_lined_bannered lined filled (Banner.isSolid_render inLine), fun _ =>
      Banner.edit?_bannered_eq_none filled (Banner.inLine_render inLine) document⟩

theorem isFinished_formatted (neat : ∃ lines, Text.Lined document.text lines)
    (settled : engine.HasBanner language document) :
    engine.IsFinished language { document with text := engine.formatted document } := by
  obtain ⟨lines, lined⟩ := neat
  by_cases formats : engine.config.format.isTruthy = true
  · have made : engine.formatted document = Formatting.formatted document := if_pos formats
    have kept := Formatting.exists_lined_formatted lined
    have idle := Formatting.edit?_formatted_eq_none document
    rw [← made] at kept idle
    refine ⟨kept, fun some => ?_, fun _ => idle⟩
    rw [made]
    exact Banner.edit?_formatted (Banner.isSolid_render inLine) (settled some)
  · have made : engine.formatted document = document.text := if_neg formats
    rw [made]
    exact ⟨⟨lines, lined⟩, settled, fun set => absurd set formats⟩

/-- What finishing makes of a neat document needs no more finishing. -/
theorem isFinished_finished (neat : ∃ lines, Text.Lined document.text lines) :
    engine.IsFinished language
      { document with text := engine.finished language document } := by
  obtain ⟨kept, settled⟩ : (∃ lines, Text.Lined (engine.bannered language document) lines) ∧
      engine.HasBanner language
        { document with text := engine.bannered language document } :=
    hasBanner_bannered inLine neat
  unfold finished
  generalize engine.bannered language document = text at kept settled
  have neat : ∃ lines, Text.Lined (Document.text { document with text }) lines := kept
  have finished := isFinished_formatted inLine neat settled
  exact finished

end

/-- Nothing is done to a unit that breaks no rule and builds. -/
theorem fixUnit_idles {keepers : List (Keeper σ)} (acts : engine.ActsOnAll unit.language)
    (distinct : (keepers.map (·.id)).Nodup) (held : session.HasUnit unitId unit)
    (own : engine.catalog unit = Keeper.catalog keepers) (some : keepers ≠ [])
    (clean : Keeper.found keepers unit = []) (builds : ¬ engine.CanBlock unit) :
    ∃ last,
      ComesTo (fun limit => (engine.withLimit limit).fixUnit unitId) session
          (unitResult unit (engine.catalog unit) {} .converged) last ∧
        last.Stands session.workspace := by
  have learns : (((engine.catalog unit).descriptors).forM learn : Run σ Unit).Yields () :=
    .forM fun _ _ => .learn _
  obtain ⟨begun, learnt, stands⟩ := learns _ session ⟨held.running, rfl⟩
  obtain ⟨survey, last, -, surveyed, still, ⟨whole, found⟩ | ⟨-, blocks⟩⟩ :=
    exists_survey acts distinct (held.of_stands stands) 0
  · rw [← own] at surveyed
    have analyzers : (engine.catalog unit).analyzers ≠ [] := by
      simpa [own, Keeper.catalog] using some
    have fixers : (engine.catalog unit).fixers ≠ [] := by simpa [own, Keeper.catalog] using some
    refine ⟨last, ⟨0, fun limit _ => ?_⟩, still.running, still.workspace.trans stands.workspace⟩
    have same : (engine.withLimit limit).catalog unit = engine.catalog unit := rfl
    rw [← same] at *
    exact fixUnit_of_survey held.present analyzers fixers stands.running learnt surveyed whole
      (found.trans clean)
  · exact absurd blocks builds

end Engine

/-- Whether a unit is of text that has no line boundaries but LF and CRLF. -/
structure SourceUnit.IsPlain (unit : SourceUnit) : Prop where
  text : unit.language = "text"
  distinct : unit.paths.Nodup
  plain : ∀ document ∈ unit.documents, document.text.IsPlain

/-- Whether a unit of text needs neither fixing nor finishing. -/
structure Engine.IsSettled (engine : Engine σ) (unit : SourceUnit) : Prop where
  text : unit.language = "text"
  distinct : unit.paths.Nodup
  finished : ∀ document ∈ unit.documents, engine.IsFinished unit.language document

namespace Builtin

open Run Engine

variable {engine : Engine σ} {outcomes : Compilers.Outcomes} {unit : SourceUnit}
  {unitId : String} {session : Session σ}

theorem found_eq_nil_of_lined
    (neat : ∀ document ∈ unit.documents, ∃ lines, Text.Lined document.text lines) :
    Keeper.found (whitespaceKeepers σ) unit = [] := by
  refine Keeper.found_eq_nil.mpr fun keeper member => Rule.diagnostics_eq_nil.mpr ?_
  intro document among
  obtain ⟨lines, lined⟩ := neat document among
  simp only [whitespaceKeepers, List.mem_cons, List.not_mem_nil, or_false] at member
  rcases member with rfl | rfl | rfl
  · exact (TrailingWhitespace.spans_eq_nil _).mpr lined.isTrimmed
  · exact (FinalNewline.spans_eq_nil _).mpr lined.isEnded
  · exact (TabIndentation.spans_eq_nil _).mpr lined.isTabFree

theorem works_of_isPlain (builtin : engine.IsBuiltin outcomes)
    (formatter : engine.formatter = Formatting.whitespace)
    (rounds : 2 ≤ engine.config.maxIterations)
    (inLine : ∀ line ∈ engine.config.bannerLines, ∀ c ∈ line.toList, isLineBreak c = false) :
    engine.Works SourceUnit.IsPlain engine.IsSettled (fun _ => True) fun _ => True := by
  refine ⟨fun {unitId unit session} held plain _ => ?_⟩
  have tidy : unit.IsTidy :=
    ⟨plain.distinct, fun document member => (plain.plain document member).tidy⟩
  obtain ⟨result, next, middle, comes, kept, success, -, -, -, normal⟩ :=
    fixUnit_rewrites builtin rounds held tidy plain.text
  have distinct : next.paths.Nodup := normal.paths ▸ plain.distinct
  obtain ⟨version, last, ran, has, -⟩ := finishUnit_renews kept distinct formatter
  refine ⟨result, _, last, ⟨⟨middle, comes, kept.running, ran⟩, by rw [success]; nofun, has⟩,
    ⟨normal.language.trans plain.text, ?_, fun document member => ?_⟩, trivial, trivial⟩
  · rwa [SourceUnit.paths_renewed]
  · obtain ⟨document, among, rfl⟩ := List.mem_map.mp member
    obtain ⟨source, there, -, same⟩ := normal.exists_source among
    have neat : ∃ lines, Text.Lined document.text lines := by
      rw [same]
      exact Text.exists_lined_normalized (plain.plain source there)
    have finished : engine.IsFinished next.language
        { document with text := engine.finished next.language document } :=
      isFinished_finished inLine neat
    exact finished

theorem works_of_isSettled (builtin : engine.IsBuiltin outcomes)
    (formatter : engine.formatter = Formatting.whitespace) (workspace : Workspace) :
    engine.Works engine.IsSettled engine.IsSettled
      (fun result => result.iterations = 0 ∧ result.fixedIds = []) (· = workspace) := by
  refine ⟨fun {unitId unit session} held settled same => ?_⟩
  obtain ⟨own, acts, builds⟩ := keeps_text builtin settled.text
  obtain ⟨middle, fixed, stands⟩ := fixUnit_idles acts (distinct_whitespaceKeepers σ) held own nofun
    (found_eq_nil_of_lined fun document member => (settled.finished document member).neat) builds
  obtain ⟨version, last, ran, -, idle⟩ :=
    finishUnit_renews (held.of_stands stands) settled.distinct formatter
  have still := idle fun document member =>
    ⟨(settled.finished document member).bannered, (settled.finished document member).formatted⟩
  refine ⟨_, unit, last, ⟨⟨middle, fixed, stands.running, ran⟩, nofun,
    (held.of_stands stands).of_stands still⟩, settled, ⟨rfl, by simp [unitResult, sortedIds]⟩, ?_⟩
  rw [still.workspace, stands.workspace, same]

/-- A run over units of plain text can be repeated: the second run makes no edit. -/
theorem remediate_repeats (builtin : engine.IsBuiltin outcomes)
    (formatter : engine.formatter = Formatting.whitespace)
    (rounds : 2 ≤ engine.config.maxIterations)
    (inLine : ∀ line ∈ engine.config.bannerLines, ∀ c ∈ line.toList, isLineBreak c = false)
    (running : session.cancellation.isRequested = false) (once : session.workspace.ids.Nodup)
    (plain : ∀ id unit, session.workspace.snapshot? id = some unit → unit.IsPlain)
    (requested : Option (List String)) :
    (∃ fault, session.workspace.order requested = .error fault ∧
      ∀ limit, (engine.withLimit limit).remediate requested session =
        .error (.workspace fault) session) ∨
    ∃ order first last second after, session.workspace.order requested = .ok order ∧
      ComesTo (fun limit => (engine.withLimit limit).remediate requested) session first last ∧
      ComesTo (fun limit => (engine.withLimit limit).remediate requested) last second after ∧
      second.results.map (·.unitId) = order ∧
      (∀ result ∈ second.results, result.iterations = 0 ∧ result.fixedIds = []) ∧
      after.workspace = last.workspace := by
  cases ordered : session.workspace.order requested with
  | error fault =>
    exact .inl ⟨fault, rfl, fun limit => bind_of_error (by rw [unitOrder, ordered])⟩
  | ok order =>
    have aloof : engine.LeavesWorkspace := (statelessPlugins (fun unit => by
      rw [builtin.compiler]
      trivial) (by rw [builtin.analyzers]; exact List.Subset.refl _)
      (by rw [builtin.fixers]; exact List.Subset.refl _)).leavesWorkspace
    have format : ∀ unit document, (engine.formatter.format unit document).LeavesWorkspace := by
      rw [formatter]
      exact fun _ _ _ => rfl
    have provided : ∀ id ∈ order, engine.Provides session.workspace SourceUnit.IsPlain id := by
      intro id member
      cases found : session.workspace.snapshot? id with
      | none =>
        have missing := Workspace.snapshot?_eq_none_iff.mp found
        exact absurd (Workspace.mem_ids_of_order ordered member) missing
      | some unit => exact ⟨unit, found, fun _ => plain id unit found⟩
    obtain ⟨first, last, comes, -, -, going, -, settled⟩ :=
      (works_of_isPlain builtin formatter rounds inLine).remediates aloof format
        (fun _ _ => trivial) provided running trivial ordered
    have continued : session.workspace.Continues last.workspace := by
      obtain ⟨enough, ran⟩ := comes
      have ended : (engine.withLimit enough).remediate requested session = .ok first last :=
        ran enough (Nat.le_refl _)
      have continued := (engine.withLimit enough).remediate_continues requested session
      rwa [ended] at continued
    have again : last.workspace.order requested = .ok order :=
      (continued.order_eq once requested).trans ordered
    obtain ⟨second, after, repeats, names, idle, -, same, -⟩ :=
      (works_of_isSettled builtin formatter last.workspace).remediates aloof format
        (fun _ _ => ⟨rfl, rfl⟩) settled going rfl again
    exact .inr ⟨order, first, last, second, after, rfl, comes, repeats, names, idle, same⟩

end Builtin

namespace Untidy

/-- A configuration that adds a banner and formats. -/
def finishing : Config :=
  { (default : Config) with bannerLines := ["Kept by hand."], format := .bool true }

theorem remediate_repeats_untidy :
    ∃ first last second after,
      Run.ComesTo (fun limit => ((Engine.builtin finishing).withLimit limit).remediate none)
          session first last ∧
        Run.ComesTo (fun limit => ((Engine.builtin finishing).withLimit limit).remediate none)
          last second after ∧
        second.results.map (·.unitId) = ["a"] ∧
        (∀ result ∈ second.results, result.iterations = 0 ∧ result.fixedIds = []) ∧
        after.workspace = last.workspace := by
  have builtin : (Engine.builtin finishing).IsBuiltin fun _ => {} :=
    ⟨rfl, rfl, rfl, rfl, rfl, rfl, rfl⟩
  have placed : session.workspace.order none = .ok ["a"] := by decide +kernel
  have plain : ∀ id other, session.workspace.snapshot? id = some other → other.IsPlain := by
    intro id other found
    obtain ⟨tracked, present, rfl⟩ := Option.map_eq_some_iff.mp found
    obtain rfl := List.mem_singleton.mp (List.mem_of_find?_eq_some present)
    refine ⟨rfl, by decide, fun document member => ?_⟩
    obtain rfl := List.mem_singleton.mp member
    have unbroken : ([' ', '\t', 'x', ' '] : Text).all (!isLineBreak ·) = true := by decide
    refine ⟨by decide, fun c within breaks => ?_⟩
    have none := List.all_eq_true.mp unbroken c within
    rw [breaks] at none
    cases none
  have inLine : ∀ line ∈ finishing.bannerLines, ∀ c ∈ line.toList, isLineBreak c = false := by
    intro line member c within
    obtain rfl := List.mem_singleton.mp member
    have unbroken : "Kept by hand.".toList.all (!isLineBreak ·) = true := by decide
    simpa using List.all_eq_true.mp unbroken c within
  obtain ⟨fault, failed, -⟩ | ⟨order, first, last, second, after, ordered, rest⟩ :=
    Builtin.remediate_repeats builtin rfl (by decide) inLine rfl (by decide) plain none
  · cases placed.symm.trans failed
  · obtain rfl : ["a"] = order := Except.ok.inj (placed.symm.trans ordered)
    exact ⟨first, last, second, after, rest⟩

end Untidy

end FixLoop
