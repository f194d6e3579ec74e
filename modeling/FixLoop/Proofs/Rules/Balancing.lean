import FixLoop.Proofs.Rules.Landing
import FixLoop.Rules.Compilers

/-!
Fixes and brackets. Scanning for brackets takes white space outside of literals, and any run of
spaces and tabs, for nothing but itself, so that a fix leaves the brackets balanced. There is one
exception: a backslash in a literal takes the next character with it, and if that is a trailing
space, it takes the line break once the space is deleted.
-/

namespace FixLoop

open Literals

namespace Literals

/-- The mode after white space that ends no line. -/
def Mode.settled : Mode → Mode
  | escaped quote => literal quote
  | mode => mode

def Mode.isEscaped : Mode → Bool
  | escaped _ => true
  | _ => false

/-- Whether a backslash in a literal takes a space or tab with it behind which only spaces and tabs
stand before a line feed. -/
def escapesTrailing : Mode → Text → Bool
  | _, [] => false
  | mode, c :: rest =>
    (mode.isEscaped && isTabOrSpace c && (rest.dropWhile isTabOrSpace).head? == some '\n') ||
      escapesTrailing (mode.next c rest.head?) rest

variable {mode : Mode} {text rest result run : Text} {c : Char}

theorem Mode.next_of_blank (reached : mode.IsReached) (blank : isTabOrSpace c = true)
    (ahead : Option Char) : mode.next c ahead = mode.settled := by
  cases mode with
  | literal quote =>
    have quoted : isQuote quote = true := reached
    have other : c ≠ quote := by
      rintro rfl
      rcases isTabOrSpace_cases blank with rfl | rfl <;> exact absurd quoted (by decide)
    rcases isTabOrSpace_cases blank with rfl | rfl <;> simp [next, settled, other]
  | escaped quote => rfl
  | code => rcases isTabOrSpace_cases blank with rfl | rfl <;> rfl
  | comment => rcases isTabOrSpace_cases blank with rfl | rfl <;> rfl

theorem Mode.IsReached.settled (reached : mode.IsReached) : mode.settled.IsReached := by
  cases mode <;> exact reached

theorem Mode.settled_settled (mode : Mode) : mode.settled.settled = mode.settled := by
  cases mode <;> rfl

/-- What follows a character matters only if it is a slash. -/
theorem Mode.next_congr (mode : Mode) (c : Char) {ahead other : Option Char}
    (same : (ahead == some '/') = (other == some '/')) : mode.next c ahead = mode.next c other := by
  cases mode with
  | code => rw [next, next, opensComment, opensComment, same]
  | _ => rfl

/-- Behind a run of spaces and tabs it does not matter which of them a backslash took. -/
theorem escapesTrailing_run (reached : mode.IsReached)
    (blank : ∀ c ∈ run, isTabOrSpace c = true)
    (free : escapesTrailing mode (run ++ rest) = false) (filled : run ≠ []) :
    escapesTrailing mode.settled rest = false := by
  induction run generalizing mode with
  | nil => exact absurd rfl filled
  | cons c run ih =>
    have later := (Bool.or_eq_false_iff.mp free).2
    rw [Mode.next_of_blank reached (blank c List.mem_cons_self)] at later
    cases run with
    | nil => exact later
    | cons d run =>
      have others : ∀ other ∈ d :: run, isTabOrSpace other = true :=
        fun other member => blank other (List.mem_cons_of_mem _ member)
      have rest := ih reached.settled others later nofun
      rwa [Mode.settled_settled] at rest

end Literals

namespace Brackets

/-- The partners that are waited for behind a character of code; none if it closes what it must
not. -/
def await (c : Char) (waiting : List Char) : Option (List Char) :=
  match closing? c with
  | some closer => some (closer :: waiting)
  | none =>
    if isClosing c then
      match waiting with
      | last :: others => if last = c then some others else none
      | [] => none
    else some waiting

/-- Whether the rest of a text balances the brackets whose partners are waited for. -/
def balances : Mode → List Char → Text → Bool
  | _, waiting, [] => waiting.isEmpty
  | mode, waiting, c :: rest =>
    match if mode = .code then await c waiting else some waiting with
    | none => false
    | some waiting => balances (mode.next c rest.head?) waiting rest

variable {mode : Mode} {text rest result run gap : Text} {c : Char} {waiting : List Char}
  {pending : List Pending} {count : Nat} {state : Bool}

/-- Where brackets stand does not matter for whether they balance. -/
theorem await_eq (offset : Nat) (c : Char) (pending : List Pending) :
    await c (pending.map (·.closer)) =
      (step offset c pending).toOption.map (·.map (·.closer)) := by
  unfold await step
  cases closing? c with
  | some closer => rfl
  | none =>
    dsimp only
    split
    · cases pending with
      | nil => rfl
      | cons last others => by_cases paired : last.closer = c <;> simp [paired, Except.toOption]
    · rfl

theorem check_eq_none (offset : Nat) :
    check offset mode pending text = none ↔
      balances mode (pending.map (·.closer)) text = true := by
  induction text generalizing offset mode pending with
  | nil => cases pending <;> simp [check, balances]
  | cons c rest ih =>
    rw [check, balances]
    by_cases code : mode = .code
    · rw [if_pos code, if_pos code, await_eq offset]
      cases step offset c pending with
      | error imbalance => exact iff_of_false nofun nofun
      | ok later => exact ih (offset + 1)
    · rw [if_neg code, if_neg code]
      exact ih (offset + 1)

theorem imbalance?_eq_none : imbalance? text = none ↔ balances .code [] text = true :=
  check_eq_none 0

/-! ### White space -/

theorem await_of_layout (layout : isLayout c = true) (waiting : List Char) :
    await c waiting = some waiting := by
  rcases EmbeddedStatement.isLayout_cases layout with rfl | rfl | rfl | rfl <;> rfl

theorem balances_solid (same : await c waiting = some waiting) :
    balances mode waiting (c :: rest) = balances (mode.next c rest.head?) waiting rest := by
  rw [balances, same, ite_self]

/-- White space of code stands for nothing. -/
theorem balances_layout (layout : ∀ c ∈ gap, isLayout c = true) :
    balances .code waiting (gap ++ rest) = balances .code waiting rest := by
  refine EmbeddedStatement.scan_append (fun c rest layout => ?_) layout
  rw [balances_solid (await_of_layout layout waiting)]
  rcases EmbeddedStatement.isLayout_cases layout with rfl | rfl | rfl | rfl <;> rfl

/-- A run of spaces and tabs stands for nothing but itself. -/
theorem balances_run (reached : mode.IsReached) (blank : ∀ c ∈ run, isTabOrSpace c = true)
    (filled : run ≠ []) :
    balances mode waiting (run ++ rest) = balances mode.settled waiting rest := by
  induction run generalizing mode with
  | nil => exact absurd rfl filled
  | cons c run ih =>
    have first := blank c List.mem_cons_self
    rw [List.cons_append, balances_solid (await_of_layout (isLayout_of_isTabOrSpace first) waiting),
      Mode.next_of_blank reached first]
    cases run with
    | nil => rfl
    | cons d run =>
      have others : ∀ other ∈ d :: run, isTabOrSpace other = true :=
        fun other member => blank other (List.mem_cons_of_mem _ member)
      rw [ih reached.settled others nofun, Mode.settled_settled]

/-- Where a line ends with CRLF, or the text does, a backslash takes nothing that counts. -/
theorem balances_escaped {quote : Char} (quoted : isQuote quote = true)
    (ends : text = [] ∨ ∃ more, text = '\r' :: '\n' :: more) :
    balances (.escaped quote) waiting text = balances (.literal quote) waiting text := by
  rcases ends with rfl | ⟨more, rfl⟩
  · rfl
  · have other : '\r' ≠ quote := by
      rintro rfl
      exact absurd quoted (by decide)
    simp [balances, Mode.next, other]

/-- Texts that start with one character balance alike if what follows does. -/
theorem balances_cons_congr (ahead : (result.head? == some '/') = (rest.head? == some '/'))
    (later : ∀ waiting, balances (mode.next c rest.head?) waiting result =
      balances (mode.next c rest.head?) waiting rest) :
    balances mode waiting (c :: result) = balances mode waiting (c :: rest) := by
  rw [balances, balances, mode.next_congr c ahead]
  split
  · rfl
  · exact later _

end Brackets

/-! ### What is mended balances as before -/

open Brackets

section

variable {mode : Mode} {text result : Text} {waiting : List Char} {count : Nat} {state : Bool}

theorem EmbeddedStatement.Respaced.balances {whole : Text} {fixed : Nat → Bool}
    (respaced : Respaced whole fixed mode text result) :
    balances mode waiting result = balances mode waiting text := by
  induction respaced generalizing waiting with
  | nil => rfl
  | keep kept later ih =>
    refine balances_cons_congr ?_ fun _ => ih
    rw [later.head?]
  | gap spaced layout solid fills later ih =>
    have plain : Brackets.await ';' waiting = some waiting := rfl
    rw [balances_solid plain, balances_solid plain]
    exact (balances_layout fills.isBreak.layout).trans (ih.trans (balances_layout layout).symm)

/-- A line feed at the end of a text closes nothing. -/
theorem FinalNewline.balances_append :
    balances mode waiting (text ++ ['\n']) = balances mode waiting text := by
  induction text generalizing mode waiting with
  | nil => exact balances_solid rfl
  | cons c rest ih =>
    refine balances_cons_congr ?_ fun _ => ih
    cases rest <;> rfl

theorem head?_run {run rest : Text} (blank : ∀ c ∈ run, isTabOrSpace c = true)
    (filled : run ≠ []) : ((run ++ rest).head? == some '/') = false := by
  obtain ⟨c, run, rfl⟩ := List.exists_cons_of_ne_nil filled
  rcases isTabOrSpace_cases (blank c List.mem_cons_self) with rfl | rfl <;> rfl

namespace TabIndentation

theorem expand_ne_nil {run : Text} (filled : run ≠ []) : expand run ≠ [] := by
  obtain ⟨c, run, rfl⟩ := List.exists_cons_of_ne_nil filled
  rw [expand, Text.expandTabs]
  split
  · simp [tabSize]
  · exact List.cons_ne_nil _ _

theorem blank_expand {run : Text} (blank : ∀ c ∈ run, isTabOrSpace c = true) :
    ∀ c ∈ expand run, isTabOrSpace c = true := sound.blank run blank

theorem slash_mended (mended : runs.Mended state count text result) :
    (result.head? == some '/') = (text.head? == some '/') := by
  cases mended with
  | nil => rfl
  | keep later => rfl
  | mend blank whole breaks later =>
    have filled := RunRule.ne_nil_of_breaks breaks
    rw [head?_run blank filled]
    exact head?_run (blank_expand blank) (expand_ne_nil filled)

theorem balances_mended (mended : runs.Mended state count text result)
    (reached : mode.IsReached) : balances mode waiting result = balances mode waiting text := by
  induction mended generalizing mode waiting with
  | nil => rfl
  | keep later ih => exact balances_cons_congr (slash_mended later) fun _ => ih (reached.next _ _)
  | mend blank whole breaks later ih =>
    have filled := RunRule.ne_nil_of_breaks breaks
    rw [balances_run reached blank filled, ← ih reached.settled]
    exact balances_run reached (blank_expand blank) (expand_ne_nil filled)

end TabIndentation

namespace TrailingWhitespace

/-- What follows a trailing run: nothing, or a line break that stays as it is. -/
theorem line_end {rest : Text} (mended : runs.Mended state count rest result)
    (ends : endsLine rest = true) :
    rest = [] ∧ result = [] ∨ (∃ more later, rest = '\n' :: more ∧ result = '\n' :: later) ∨
      ∃ more later, rest = '\r' :: '\n' :: more ∧ result = '\r' :: '\n' :: later := by
  cases rest with
  | nil => exact .inl ⟨rfl, mended.eq_nil⟩
  | cons c rest =>
    rw [endsLine_cons] at ends
    simp only [Bool.or_eq_true, Bool.and_eq_true, beq_iff_eq] at ends
    rcases ends with rfl | ⟨rfl, head⟩
    · obtain ⟨later, rfl, -⟩ := mended.solid rfl
      exact .inr (.inl ⟨rest, later, rfl, rfl⟩)
    · obtain ⟨more, rfl⟩ := List.head?_eq_some_iff.mp head
      obtain ⟨_, rfl, onward⟩ := mended.solid rfl
      obtain ⟨later, rfl, -⟩ := onward.solid rfl
      exact .inr (.inr ⟨more, later, rfl, rfl⟩)

/-- What a backslash takes is not followed by a line feed, unless the exception holds. -/
theorem head?_of_escaped {quote : Char} {run rest : Text}
    (blank : ∀ c ∈ run, isTabOrSpace c = true) (whole : rest.takeWhile isTabOrSpace = [])
    (filled : run ≠ []) (free : escapesTrailing (.escaped quote) (run ++ rest) = false) :
    rest.head? ≠ some '\n' := by
  obtain ⟨c, run, rfl⟩ := List.exists_cons_of_ne_nil filled
  have first := blank c List.mem_cons_self
  have onward := (RunRule.takeWhile_run blank whole).2
  rw [List.cons_append] at free onward
  rw [List.dropWhile_cons_of_pos first] at onward
  rw [escapesTrailing, onward, first, Bool.or_eq_false_iff] at free
  exact beq_eq_false_iff_ne.mp free.1

theorem slash_mended (mended : runs.Mended state count text result) :
    (result.head? == some '/') = (text.head? == some '/') := by
  cases mended with
  | nil => rfl
  | keep later => rfl
  | mend blank whole breaks later =>
    rw [head?_run blank (RunRule.ne_nil_of_breaks breaks)]
    rcases line_end later (Bool.and_eq_true_iff.mp breaks).2 with
      ⟨-, rfl⟩ | ⟨_, _, -, rfl⟩ | ⟨_, _, -, rfl⟩ <;> rfl

theorem balances_mended (mended : runs.Mended state count text result)
    (reached : mode.IsReached) (free : escapesTrailing mode text = false) :
    balances mode waiting result = balances mode waiting text := by
  induction mended generalizing mode waiting with
  | nil => rfl
  | keep later ih =>
    exact balances_cons_congr (slash_mended later) fun _ =>
      ih (reached.next _ _) (Bool.or_eq_false_iff.mp free).2
  | @mend state count run rest result blank whole breaks later ih =>
    have filled := RunRule.ne_nil_of_breaks breaks
    rw [balances_run reached blank filled,
      ← ih reached.settled (escapesTrailing_run reached blank free filled)]
    change balances mode waiting result = balances mode.settled waiting result
    cases mode with
    | escaped quote =>
      have other := head?_of_escaped blank whole filled free
      rcases line_end later (Bool.and_eq_true_iff.mp breaks).2 with
        ⟨rfl, rfl⟩ | ⟨more, _, rfl, -⟩ | ⟨_, more, -, rfl⟩
      · rfl
      · exact absurd rfl other
      · exact balances_escaped reached (.inr ⟨more, rfl⟩)
    | _ => rfl

end TrailingWhitespace

end

namespace Builtin

variable {σ : Type} {keeper : Keeper σ} {unit next : SourceUnit}

/-- Mending a rule changes nothing about the balance of brackets, with the one exception. -/
theorem balances_mended (member : keeper ∈ keepers σ) {text result : Text}
    (mends : keeper.rule.mends text result)
    (free : keeper.id = TrailingWhitespace.descriptor.id → escapesTrailing .code text = false) :
    balances .code [] result = balances .code [] text := by
  simp only [keepers, List.mem_cons, List.not_mem_nil, or_false] at member
  rcases member with rfl | rfl | rfl | rfl
  · obtain ⟨fixed, respaced⟩ := mends
    exact respaced.balances
  · obtain ⟨count, mended⟩ := mends
    exact TrailingWhitespace.balances_mended mended trivial (free rfl)
  · rcases mends with rfl | rfl
    · rfl
    · unfold FinalNewline.ended
      split
      · rfl
      · exact FinalNewline.balances_append
  · obtain ⟨count, mended⟩ := mends
    exact TabIndentation.balances_mended mended trivial

theorem bracketDiagnostics_eq_nil : Compilers.bracketDiagnostics unit = [] ↔
    ∀ document ∈ unit.documents, balances .code [] document.text = true := by
  rw [Compilers.bracketDiagnostics, List.filterMap_eq_nil_iff]
  refine forall₂_congr fun document _ => ?_
  rw [Compilers.imbalanceDiagnostic?, Option.map_eq_none_iff, imbalance?_eq_none]

theorem exists_keeper {analyzer : Analyzer σ} {fixer : Fixer σ}
    (pair : (analyzer, fixer) ∈ analyzers.zip fixers) :
    ∃ keeper ∈ keepers σ, keeper.analyzer = analyzer ∧ keeper.fixer = fixer := by
  rw [analyzers_eq, fixers_eq, List.zip_map', List.mem_map] at pair
  obtain ⟨keeper, member, same⟩ := pair
  exact ⟨keeper, member, congrArg Prod.fst same, congrArg Prod.snd same⟩

/-- A built-in fix never breaks the build of a unit whose brackets balance, unless it deletes white
space that a backslash in a literal keeps apart from the line break. -/
theorem fixAll_builds {analyzer : Analyzer σ} {fixer : Fixer σ}
    (pair : (analyzer, fixer) ∈ analyzers.zip fixers) (distinct : unit.paths.Nodup)
    (builds : (Compilers.brackets : Compiler σ).compile unit = .answer [])
    (free : TrailingWhitespace.descriptor.id ∈ fixer.fixableIds →
      ∀ document ∈ unit.documents, escapesTrailing .code document.text = false) :
    ∃ diagnostics, analyzer.analyze unit = .answer diagnostics ∧
      ∀ id ∈ fixer.fixableIds, ∀ batch ⊆ diagnostics, batch ≠ [] →
        ∃ action : FixAction,
          (∀ session : Session σ, ∃ journal,
            (fixer.fixAll { unit, id, key := id, diagnostics := batch }).carryOut session =
              (.ok (some action), { session with journal })) ∧
          ∃ next, unit.withEdits action.edits = .ok next ∧
            (Compilers.brackets : Compiler σ).compile next = .answer [] := by
  obtain ⟨keeper, member, rfl, rfl⟩ := exists_keeper pair
  refine ⟨_, keeper.analyzes unit, fun id fixable batch among found => ?_⟩
  rw [keeper.fixableIds, List.mem_singleton] at fixable
  subst fixable
  let context : FixAllContext := { unit, id := keeper.id, key := keeper.id, diagnostics := batch }
  have distinct : context.unit.paths.Nodup := distinct
  obtain ⟨action, answers, next, edited, rewritten⟩ :=
    (isFirm_keepers keeper member).exists_action distinct found among rfl rfl
  refine ⟨action, answers, next, edited, congrArg Callback.answer ?_⟩
  have balanced := bracketDiagnostics_eq_nil.mp (Callback.answer.inj builds)
  refine bracketDiagnostics_eq_nil.mpr fun after present => ?_
  obtain ⟨document, among, -, mends⟩ := rewritten.exists_source present
  rw [balances_mended member mends fun own => free ?_ document among]
  · exact balanced document among
  · rw [keeper.fixableIds]
    exact List.mem_singleton.mpr own.symm

end Builtin

namespace TrailingWhitespace

/-- A unit in which a backslash takes a space with it, in a line with the given ending. -/
def escaping (ending rest : Text) : SourceUnit where
  id := "a"
  language := "c"
  documents := [⟨"a.c", ['"', '\\', ' '] ++ ending ++ rest⟩]

/-- In a line that ends with CRLF the backslash takes the carriage return, and the line still ends
the literal. -/
def carried : SourceUnit := escaping ['\r', '\n'] "f(x)  \n".toList

theorem fixAll_builds_carried :
    (Compilers.brackets : Compiler Unit).compile carried = .answer [] ∧
      ∃ diagnostics : List Diagnostic, diagnostics.length = 2 ∧
        (analyzer : Analyzer Unit).analyze carried = .answer diagnostics ∧
        ∃ action : FixAction,
          (∀ session : Session Unit, ∃ journal, ((fixer : Fixer Unit).fixAll
              { unit := carried, id := descriptor.id, key := descriptor.id
                diagnostics }).carryOut session =
            (.ok (some action), { session with journal })) ∧
          ∃ next, carried.withEdits action.edits = .ok next ∧
            (Compilers.brackets : Compiler Unit).compile next = .answer [] := by
  have pair : ((analyzer : Analyzer Unit), (fixer : Fixer Unit)) ∈
      Builtin.analyzers.zip Builtin.fixers := by simp [Builtin.analyzers, Builtin.fixers]
  have builds : (Compilers.brackets : Compiler Unit).compile carried = .answer [] :=
    congrArg Callback.answer (by decide +kernel)
  have free : ∀ document ∈ carried.documents, escapesTrailing .code document.text = false := by
    decide +kernel
  obtain ⟨reported, answers, fixes⟩ :=
    Builtin.fixAll_builds pair (by decide) builds fun _ => free
  obtain rfl : diagnostics carried = reported := Callback.answer.inj answers
  have two : (diagnostics carried).length = 2 := by decide +kernel
  exact ⟨builds, _, two, answers, fixes descriptor.id (List.mem_singleton_self _) _
    (List.Subset.refl _) (List.ne_nil_of_length_pos (two ▸ Nat.zero_lt_two))⟩

/-- In a line that ends with a line feed the backslash takes that, so that the literal goes on in
the next line. -/
def swallowed : SourceUnit := escaping ['\n'] ['"', '(', '\n']

theorem fixAll_breaks_swallowed :
    swallowed.paths.Nodup ∧
      (Compilers.brackets : Compiler Unit).compile swallowed = .answer [] ∧
      ∃ (reported : List Diagnostic) (action : FixAction) (next : SourceUnit),
        (analyzer : Analyzer Unit).analyze swallowed = .answer reported ∧
        ((fixer : Fixer Unit).fixAll
            { unit := swallowed, id := descriptor.id, key := descriptor.id
              diagnostics := reported }).carryOut { workspace := {}, memory := () } =
          (.ok (some action), { workspace := {}, memory := () }) ∧
        swallowed.withEdits action.edits = .ok next ∧
        (Compilers.brackets : Compiler Unit).compile next ≠ .answer [] := by
  let action : FixAction := {
    title := "Fix all 'CF0002'", key := "CF0002"
    edits := [{ path := "a.c", start := 2, stop := 3, text := [] }] }
  let next : SourceUnit := { swallowed with
    documents := [⟨"a.c", "\"\\\n\"(\n".toList⟩], version := 1 }
  have builds : Compilers.bracketDiagnostics swallowed = [] := by decide +kernel
  have broken : Compilers.bracketDiagnostics next ≠ [] := by decide +kernel
  have lands : swallowed.withEdits action.edits = .ok next := by decide +kernel
  exact ⟨by decide, congrArg Callback.answer builds, diagnostics swallowed, action, next, rfl,
    by rfl, lands, fun same => broken (Callback.answer.inj same)⟩

end TrailingWhitespace

end FixLoop
