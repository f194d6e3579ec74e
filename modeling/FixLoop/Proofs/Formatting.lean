import FixLoop.Proofs.Lines
import FixLoop.Proofs.Workspace.Finishing

/-!
What formatting makes of texts. It leaves lines without white space at their ends, all ended alike,
and what it leaves it does not change again, nor whether a document counts as generated. The lines
of a text at LF and CRLF are kept, up to white space at their ends and empty lines at the end of the
text, exactly if no other line boundary stands before the last character that is no white space.
-/

namespace FixLoop

/-- The items at the end of a list that are left out begin at its first item only if all are. -/
theorem rdropWhile_cons {α : Type} (drops : α → Bool) (item : α) (rest : List α) :
    (item :: rest).rdropWhile drops =
      if rest.rdropWhile drops = [] ∧ drops item then [] else item :: rest.rdropWhile drops := by
  simp only [List.rdropWhile, List.reverse_cons, List.dropWhile_append]
  by_cases none : rest.reverse.dropWhile drops = []
  · by_cases dropped : drops item <;> simp [none, dropped]
  · simp [none]

namespace Formatting

open Text

variable {ends : Char → Bool} {text line ending rest : Text} {own first more : List Text} {c : Char}

/-- The lines that are left of some lines when their text is formatted. -/
def keptLines (lines : List Text) : List Text :=
  (lines.map trimRight).rdropWhile (·.isEmpty)

theorem tidy_eq (text : Text) :
    tidy text = (keptLines (lines text)).flatMap (· ++ newline text) := rfl

theorem trimRight_cons (c : Char) (rest : Text) :
    trimRight (c :: rest) =
      if trimRight rest = [] ∧ isBlank c then [] else c :: trimRight rest :=
  rdropWhile_cons isBlank c rest

theorem trimRight_cons_eq_nil :
    trimRight (c :: rest) = [] ↔ trimRight rest = [] ∧ isBlank c = true := by
  rw [trimRight_cons]
  split <;> simp_all

theorem trimRight_cons_of_ne_nil (filled : trimRight rest ≠ []) :
    trimRight (c :: rest) = c :: trimRight rest := by
  rw [trimRight_cons, if_neg]
  exact fun gone => filled gone.1

theorem keptLines_cons (line : Text) (more : List Text) :
    keptLines (line :: more) =
      if keptLines more = [] ∧ trimRight line = [] then [] else trimRight line :: keptLines more := by
  rw [keptLines, List.map_cons, rdropWhile_cons]
  exact if_congr (by rw [List.isEmpty_iff]; rfl) rfl rfl

theorem trimRight_trimRight (line : Text) : trimRight (trimRight line) = trimRight line :=
  List.rdropWhile_idempotent isBlank line

theorem trimRight_eq_self : trimRight line = line ↔ ∀ c ∈ line.getLast?, isBlank c = false := by
  have same : trimRight line = line ↔ line.rdropWhile isBlank = line := Iff.rfl
  rw [same, List.rdropWhile_eq_self_iff]
  cases empty : line.getLast? with
  | none => simp_all
  | some c =>
    have filled : line ≠ [] := by rintro rfl; cases empty
    rw [List.getLast?_eq_some_getLast filled] at empty
    simp [filled, ← Option.some.inj empty]

theorem mem_keptLines (kept : line ∈ keptLines own) : ∃ before ∈ own, trimRight before = line :=
  List.mem_map.mp ((List.rdropWhile_prefix _ _).subset kept)

/-! ### What is left of the lines of a text -/

theorem isPrefix_trimRight (text : Text) : trimRight text <+: text :=
  List.rdropWhile_prefix isBlank text

/-- What is left of a text does not make a line break of it and the character before it. -/
theorem apart_trimRight {c : Char} {rest : Text} (apart : ∀ more, c = '\r' → rest ≠ '\n' :: more) :
    ∀ more, c = '\r' → trimRight rest ≠ '\n' :: more := by
  intro more same head
  obtain ⟨trail, whole⟩ := isPrefix_trimRight rest
  rw [head] at whole
  exact apart _ same whole.symm

theorem keptLines_nil : keptLines [] = [] := rfl

theorem trimRight_nil : trimRight [] = [] := rfl

/-- The lines up to the last character that is no white space are left, each without the white space
at its end. -/
theorem keptLines_linesAt (within : ∀ c, ends c = true → isBlank c = true) (text : Text) :
    keptLines (linesAt ends text) = (linesAt ends (trimRight text)).map trimRight := by
  -- In each case it counts whether anything is left of the rest: if so, the first character stays,
  -- and if not, it is the last one that may.
  fun_induction linesAt ends text with
  | case1 => simp [linesAt, keptLines_nil, trimRight_nil]
  | case2 rest ih =>
    have newline : isBlank '\n' = true := rfl
    have carriage : isBlank '\r' = true := rfl
    rw [keptLines_cons, ih]
    by_cases none : trimRight rest = []
    · simp [trimRight_cons, none, linesAt, newline, carriage, trimRight_nil]
    · simp [trimRight_cons, none, linesAt, linesAt_eq_nil, trimRight_nil]
  | case3 c rest apart breaks ih =>
    rw [keptLines_cons, ih]
    by_cases none : trimRight rest = []
    · simp [trimRight_cons, none, linesAt, within c breaks, trimRight_nil]
    · rw [trimRight_cons_of_ne_nil none, linesAt_cons (apart_trimRight apart), if_pos breaks]
      simp [none, linesAt_eq_nil, trimRight_nil]
  | case4 c rest apart inside last ih =>
    obtain rfl := linesAt_eq_nil.mp last
    by_cases blank : isBlank c = true
    · simp [keptLines_cons, trimRight_cons, keptLines_nil, trimRight_nil, blank, linesAt]
    · simp [keptLines_cons, trimRight_cons, keptLines_nil, trimRight_nil, blank, inside, linesAt]
  | case5 c rest apart inside line more split ih =>
    rw [split, keptLines_cons] at ih
    by_cases none : trimRight rest = []
    · obtain ⟨emptied, trimmed⟩ : keptLines more = [] ∧ trimRight line = [] := by
        simpa [none, linesAt] using ih
      by_cases blank : isBlank c = true
      · simp [keptLines_cons, trimRight_cons, emptied, trimmed, none, blank, linesAt]
      · simp [keptLines_cons, trimRight_cons, emptied, trimmed, none, blank, inside, linesAt,
          trimRight_nil]
    · have splits : linesAt ends (trimRight rest) ≠ [] := mt linesAt_eq_nil.mp none
      obtain ⟨first, others, split⟩ := List.exists_cons_of_ne_nil splits
      rw [split, List.map_cons] at ih
      have filled : ¬ (keptLines more = [] ∧ trimRight line = []) := by
        intro gone
        simp [gone] at ih
      have stays : ¬ (keptLines more = [] ∧ trimRight (c :: line) = []) :=
        fun gone => filled ⟨gone.1, (trimRight_cons_eq_nil.mp gone.2).1⟩
      rw [if_neg filled, List.cons.injEq] at ih
      obtain ⟨same, behind⟩ := ih
      rw [keptLines_cons, if_neg stays, trimRight_cons_of_ne_nil none,
        linesAt_cons (apart_trimRight apart), if_neg inside, split, behind]
      simp [trimRight_cons, same]

theorem keptLines_lines (text : Text) :
    keptLines (lines text) = (lines (trimRight text)).map trimRight := by
  simpa only [linesAt_isLineBreak] using keptLines_linesAt (fun c => isBlank_of_isLineBreak) text

theorem keptLines_feedLines (text : Text) :
    keptLines (feedLines text) = (feedLines (trimRight text)).map trimRight := by
  have within : ∀ c, (c == '\n') = true → isBlank c = true := by
    intro c same
    rw [beq_iff_eq.mp same]
    rfl
  simpa only [linesAt_newline] using keptLines_linesAt within text

/-- Cutting a text at LF and CRLF alone leaves the same lines exactly if no other line boundary
stands before its last character that is no white space. -/
theorem keptLines_feedLines_iff (text : Text) :
    keptLines (lines text) = keptLines (feedLines text) ↔ (trimRight text).IsPlain := by
  rw [keptLines_lines, keptLines_feedLines]
  constructor
  · intro same
    have solid : ∀ c ∈ (trimRight text).getLast?, isLineBreak c = false := by
      intro c last
      have ink := trimRight_eq_self.mp (trimRight_trimRight text) c last
      by_contra breaks
      simp [isBlank_of_isLineBreak (by simpa using breaks)] at ink
    apply (length_feedLines solid).2
    simpa using congrArg List.length same.symm
  · intro plain
    rw [feedLines_of_isPlain plain]

theorem inLine_of_mem_keptLines (kept : line ∈ keptLines (lines text)) :
    ∀ c ∈ line, isLineBreak c = false := by
  obtain ⟨before, member, rfl⟩ := mem_keptLines kept
  intro c among
  exact inLine_of_mem_lines member c ((isPrefix_trimRight before).subset among)

theorem feedLines_tidy (text : Text) : feedLines (tidy text) = keptLines (lines text) :=
  feedLines_flatMap (fun _ => inLine_of_mem_keptLines) (isEnding_newline text)

/-! ### The normal form -/

/-- Whether a text is as formatting leaves it: made of lines that hold no line boundary and have no
white space at their ends, the last of which holds something, all ended by one line break. -/
structure IsFormed (ending text : Text) (own : List Text) : Prop where
  whole : text = own.flatMap (· ++ ending)
  inLine : ∀ line ∈ own, ∀ c ∈ line, isLineBreak c = false
  trimmed : ∀ line ∈ own, ∀ c ∈ line.getLast?, isBlank c = false
  last : own.getLast? ≠ some []

theorem keptLines_eq_self (trimmed : ∀ line ∈ own, trimRight line = line)
    (last : own.getLast? ≠ some []) : keptLines own = own := by
  have same : own.map trimRight = own := (List.map_congr_left trimmed).trans (List.map_id own)
  rw [keptLines, same, List.rdropWhile_eq_self_iff]
  intro filled
  rw [List.getLast?_eq_some_getLast filled] at last
  simpa using last

/-- Lines that hold something and have no white space at their ends are all kept. -/
theorem prefix_keptLines (filled : ∀ line ∈ first, line ≠ [])
    (trimmed : ∀ line ∈ first, trimRight line = line) : first <+: keptLines (first ++ more) := by
  have same : first.map trimRight = first := (List.map_congr_left trimmed).trans (List.map_id _)
  rw [keptLines, List.map_append, same]
  generalize more.map trimRight = after
  induction after using List.reverseRecOn with
  | nil =>
    have whole : first.rdropWhile (·.isEmpty) = first :=
      List.rdropWhile_eq_self_iff.mpr fun some =>
        mt List.isEmpty_iff.mp (filled _ (List.getLast_mem some))
    rw [List.append_nil]
    exact ⟨[], (List.append_nil first).trans whole.symm⟩
  | append_singleton after line ih =>
    rw [← List.append_assoc, List.rdropWhile_concat]
    split
    · exact ih
    · rw [List.append_assoc]
      exact List.prefix_append _ _

theorem isFormed_tidy (text : Text) :
    IsFormed (newline text) (tidy text) (keptLines (lines text)) where
  whole := tidy_eq text
  inLine _ := inLine_of_mem_keptLines
  trimmed line kept := by
    obtain ⟨before, -, rfl⟩ := mem_keptLines kept
    exact trimRight_eq_self.mp (trimRight_trimRight before)
  last := by
    intro empty
    have filled : keptLines (lines text) ≠ [] := by
      intro none
      simp [none] at empty
    rw [List.getLast?_eq_some_getLast filled, Option.some.injEq] at empty
    apply List.rdropWhile_last_not (fun line : Text => line.isEmpty) _ filled
    exact List.isEmpty_iff.mpr empty

theorem IsFormed.tidy_eq_self (formed : IsFormed ending text own) (ending_ : IsEnding ending) :
    tidy text = text := by
  obtain ⟨rfl, inLine, trimmed, last⟩ := formed
  have kept : keptLines own = own :=
    keptLines_eq_self (fun line member => trimRight_eq_self.mpr (trimmed line member)) last
  have whole : lines (own.flatMap (· ++ ending)) = own := by
    simpa [lines] using lines_flatMap inLine ending_ []
  rw [tidy_eq, whole, kept]
  by_cases none : own = []
  · simp [none]
  · rw [newline_flatMap none _ ending_]
    intro line member carriage
    exact (not_break_of_inLine (inLine line member _ carriage)).2 rfl

/-- Formatting a text that was formatted changes nothing. -/
theorem tidy_tidy (text : Text) : tidy (tidy text) = tidy text :=
  (isFormed_tidy text).tidy_eq_self (isEnding_newline text)

theorem lines_tidy (text : Text) : lines (tidy text) = keptLines (lines text) := by
  simpa [tidy_eq, lines] using
    lines_flatMap (fun _ => inLine_of_mem_keptLines) (isEnding_newline text) []

/-! ### Generated documents -/

/-- Whether a pattern is some characters, none of which is white space. -/
structure IsSolidMark (pattern : Text) : Prop where
  filled : pattern ≠ []
  solid : ∀ c ∈ pattern, isBlank c = false

theorem prefix_of_prefix_append_cons {α : Type} {pattern first rest : List α} {item : α}
    (apart : item ∉ pattern) (part : pattern <+: first ++ item :: rest) : pattern <+: first := by
  induction first generalizing pattern with
  | nil =>
    cases pattern with
    | nil => exact List.nil_prefix
    | cons head tail => simp_all [List.cons_prefix_cons]
  | cons d first ih =>
    cases pattern with
    | nil => exact List.nil_prefix
    | cons head tail =>
      obtain ⟨rfl, later⟩ := List.cons_prefix_cons.mp part
      exact List.cons_prefix_cons.mpr ⟨rfl, ih (fun among => apart (by simp [among])) later⟩

/-- What stands in a list around an item that it does not hold stands before or behind that item. -/
theorem infix_append_cons {α : Type} {pattern first rest : List α} {item : α}
    (apart : item ∉ pattern) :
    pattern <:+: first ++ item :: rest ↔ pattern <:+: first ∨ pattern <:+: rest := by
  constructor
  · intro found
    induction first with
    | nil =>
      rcases List.infix_cons_iff.mp found with start | later
      · left
        have none : pattern <+: [] := prefix_of_prefix_append_cons apart start
        exact none.isInfix
      · exact .inr later
    | cons d first ih =>
      rw [List.cons_append] at found
      rcases List.infix_cons_iff.mp found with start | later
      · left
        have part : pattern <+: d :: first := prefix_of_prefix_append_cons apart start
        exact part.isInfix
      · exact (ih later).imp_left fun inside => List.infix_cons_iff.mpr (.inr inside)
  · intro found
    rcases found with found | found
    · exact found.trans (List.prefix_append _ _).isInfix
    · exact found.trans ((List.suffix_cons _ _).trans (List.suffix_append _ _)).isInfix

/-- A mark stands in lines that are joined exactly if it stands in one of them. -/
theorem IsSolidMark.infix_intercalate {pattern : Text} (mark : IsSolidMark pattern)
    (own : List Text) :
    pattern <:+: ['\n'].intercalate own ↔ ∃ line ∈ own, pattern <:+: line := by
  have apart : '\n' ∉ pattern := by
    intro among
    cases mark.solid _ among
  induction own with
  | nil => simp [List.intercalate, mark.filled]
  | cons line own ih =>
    cases own with
    | nil => simp [List.intercalate]
    | cons second own =>
      have whole : ['\n'].intercalate (line :: second :: own) =
          line ++ '\n' :: ['\n'].intercalate (second :: own) := by
        simp [List.intercalate, List.intersperse]
      rw [whole, infix_append_cons apart, List.exists_mem_cons_iff]
      exact or_congr_right ih

theorem IsSolidMark.infix_trimRight {pattern : Text} (mark : IsSolidMark pattern) (line : Text) :
    pattern <:+: trimRight line ↔ pattern <:+: line := by
  have whole : trimRight line ++ line.rtakeWhile isBlank = line :=
    List.rdropWhile_append_rtakeWhile
  have blank : ∀ c ∈ line.rtakeWhile isBlank, isBlank c = true :=
    fun _ member => List.mem_rtakeWhile_imp member
  conv_rhs => rw [← whole]
  constructor
  · intro found
    exact found.trans (List.prefix_append _ _).isInfix
  · intro found
    cases trail : line.rtakeWhile isBlank with
    | nil => simpa [trail] using found
    | cons c more =>
      rw [trail] at found blank
      have apart : c ∉ pattern := by
        intro among
        simpa [mark.solid c among] using blank c List.mem_cons_self
      apply ((infix_append_cons apart).mp found).resolve_right
      intro later
      obtain ⟨d, among⟩ := List.exists_mem_of_ne_nil _ mark.filled
      simpa [mark.solid d among] using blank d (List.mem_cons_of_mem _ (later.subset among))

/-- The first lines that are left hold the marks that the first lines of the text hold. -/
theorem IsSolidMark.any_keptLines {pattern : Text} (mark : IsSolidMark pattern) (size : Nat)
    (own : List Text) :
    (∃ line ∈ (keptLines own).take size, pattern <:+: line) ↔
      ∃ line ∈ own.take size, pattern <:+: line := by
  have whole : keptLines own ++ (own.map trimRight).rtakeWhile (·.isEmpty) = own.map trimRight :=
    List.rdropWhile_append_rtakeWhile
  have empties : ∀ line ∈ (own.map trimRight).rtakeWhile (·.isEmpty), line = [] :=
    fun line member => List.isEmpty_iff.mp (List.mem_rtakeWhile_imp member)
  calc (∃ line ∈ (keptLines own).take size, pattern <:+: line)
      ↔ ∃ line ∈ (own.map trimRight).take size, pattern <:+: line := by
        rw [← whole, List.take_append]
        constructor
        · intro ⟨line, member, found⟩
          exact ⟨line, List.mem_append_left _ member, found⟩
        · intro ⟨line, member, found⟩
          refine ⟨line, (List.mem_append.mp member).resolve_right ?_, found⟩
          intro behind
          rw [empties line (List.mem_of_mem_take behind), List.infix_nil] at found
          exact mark.filled found
    _ ↔ ∃ line ∈ own.take size, pattern <:+: line := by
        simp [← List.map_take, mark.infix_trimRight]

theorem isSolidMark_generatedMarkers :
    ∀ marker ∈ Document.generatedMarkers, IsSolidMark marker.toList := by
  intro marker member
  simp only [Document.generatedMarkers, List.mem_cons, List.not_mem_nil, or_false] at member
  rcases member with rfl | rfl <;> exact ⟨by decide, by simp [isBlank]⟩

/-- A document is generated after formatting exactly if it was before. -/
theorem isGenerated_tidy (document : Document) :
    { document with text := tidy document.text : Document }.isGenerated = document.isGenerated := by
  have same : Document.generatedMarkers.any
        (fun marker => contains marker.toList (Document.head (tidy document.text))) =
      Document.generatedMarkers.any
        fun marker => contains marker.toList (Document.head document.text) := by
    rw [Bool.eq_iff_iff, List.any_eq_true, List.any_eq_true]
    apply exists_congr
    intro marker
    apply and_congr_right
    intro member
    have mark := isSolidMark_generatedMarkers marker member
    rw [contains_iff, contains_iff, Document.head, Document.head, lines_tidy,
      mark.infix_intercalate, mark.infix_intercalate, mark.any_keptLines]
  simp only [Document.isGenerated, same]

/-! ### Units -/

variable {σ : Type} {document : Document}

theorem edit?_eq_none : edit? document = none ↔ formatted document = document.text := by
  unfold edit?
  split <;> simp_all

/-- A document that was formatted needs no formatting. -/
theorem edit?_formatted_eq_none (document : Document) :
    edit? { document with text := formatted document } = none := by
  rw [edit?_eq_none]
  by_cases generated : document.isGenerated = true
  · have same : formatted document = document.text := if_pos generated
    rw [same]
    exact same
  · have made : formatted document = tidy document.text := if_neg generated
    rw [made, formatted]
    split
    · rfl
    · exact tidy_tidy document.text

/-- Formatting a document leaves its lines at LF and CRLF, without the white space at their ends and
the empty lines at its end, exactly if no other line boundary stands before its last character that
is no white space; the lines at all boundaries are left in any case. -/
theorem whitespace_keeps_lines_iff (unit : SourceUnit) (document : Document) :
    ∃ formatted, (whitespace : Formatter σ).format unit document = .answer formatted ∧
      feedLines formatted = keptLines (lines document.text) ∧
      (feedLines formatted = keptLines (feedLines document.text) ↔
        (trimRight document.text).IsPlain) := by
  refine ⟨tidy document.text, rfl, feedLines_tidy document.text, ?_⟩
  rw [feedLines_tidy]
  exact keptLines_feedLines_iff document.text

/-- A form feed between quotes ends a line, and is replaced by a line feed. -/
theorem whitespace_splits_line :
    ∃ formatted,
      (whitespace : Formatter Unit).format { id := "a" }
        { path := "a", text := ['"', 'a', '\x0c', 'b', '"', '\n'] } = .answer formatted ∧
      feedLines formatted = [['"', 'a'], ['b', '"']] ∧
      keptLines (feedLines ['"', 'a', '\x0c', 'b', '"', '\n']) = [['"', 'a', '\x0c', 'b', '"']] :=
  ⟨_, rfl, by decide, by decide⟩

/-- Formatting leaves lines that nothing trails on, which it does not change again, and generated
documents are the same ones as before; the edits that format a unit land, and then there are none. -/
theorem whitespace_normalizes :
    (∀ (unit : SourceUnit) (document : Document), ∃ formatted own ending,
      (whitespace : Formatter σ).format unit document = .answer formatted ∧
      IsFormed ending formatted own ∧
      (ending = ['\r', '\n'] ∧ ['\r', '\n'] <:+: document.text ∨
        ending = ['\n'] ∧ ¬ ['\r', '\n'] <:+: document.text) ∧
      (whitespace : Formatter σ).format unit { document with text := formatted } =
        .answer formatted ∧
      { document with text := formatted : Document }.isGenerated = document.isGenerated) ∧
    ∀ unit : SourceUnit, unit.paths.Nodup → ∃ made after,
      edits (whitespace : Formatter σ) unit = .answer made ∧ unit.withEdits made = .ok after ∧
        edits (whitespace : Formatter σ) after = .answer [] := by
  constructor
  · intro unit document
    refine ⟨tidy document.text, keptLines (lines document.text), newline document.text, rfl,
      isFormed_tidy document.text, ?_, ?_, isGenerated_tidy document⟩
    · rw [← newline_eq_crlf]
      rcases isEnding_newline document.text with ending | ending <;> simp [ending]
    · exact congrArg Callback.answer (tidy_tidy document.text)
  · intro unit distinct
    refine ⟨_, _, edits_whitespace unit, withEdits distinct, ?_⟩
    rw [edits_whitespace, List.filterMap_eq_nil_iff.mpr]
    intro document member
    obtain ⟨source, -, rfl⟩ := List.mem_map.mp member
    exact edit?_formatted_eq_none source

/-- Documents with line boundaries of all kinds, one of them generated. -/
def unformed : SourceUnit where
  id := "a"
  documents := [
    { path := "a", text := ['x', ' ', '\r', '\n', '\x0b', '\u2028', 'y', '\r', '\t'] },
    { path := "b.g.c", text := ['x', ' '] },
    { path := "c", text := [' ', '\n', '@', 'g', 'e', 'n'] }]

theorem whitespace_normalizes_unformed :
    unformed.paths.Nodup ∧
      ∃ made after,
        edits (whitespace : Formatter Unit) unformed = .answer made ∧
          unformed.withEdits made = .ok after ∧
          edits (whitespace : Formatter Unit) after = .answer [] :=
  ⟨by decide, whitespace_normalizes.2 unformed (by decide)⟩

end Formatting

end FixLoop
