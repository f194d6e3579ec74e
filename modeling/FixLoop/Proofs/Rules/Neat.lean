import FixLoop.Proofs.Banner
import FixLoop.Proofs.Formatting
import FixLoop.Proofs.Rules.Ink
import FixLoop.Proofs.Rules.Normalizing

/-!
Neat texts: those whose lines are all ended and break no rule about white space. Normal texts are
neat, and stay neat under a banner and when they are formatted. A text that was formatted keeps its
banner, and formatting it again changes nothing.
-/

namespace FixLoop

namespace Text

/-- Whether nothing trails on a line, and no tab indents it. -/
structure IsNeat (line : Text) : Prop where
  inLine : ∀ c ∈ line, isLineBreak c = false
  trimmed : ∀ filled : line ≠ [], isTabOrSpace (line.getLast filled) = false
  indented : '\t' ∉ line.takeWhile isTabOrSpace

/-- Whether a text is made of some lines, all of them neat and ended. -/
inductive Lined : Text → List Text → Prop where
  | nil : Lined [] []
  | cons {line ending rest : Text} {lines : List Text} (neat : IsNeat line) (ends : IsEnding ending)
      (later : Lined rest lines) : Lined (line ++ (ending ++ rest)) (line :: lines)

open TrailingWhitespace TabIndentation

variable {text line ending rest : Text} {own others : List Text} {c : Char}

theorem IsNeat.nil : IsNeat [] := ⟨nofun, nofun, nofun⟩

theorem IsNeat.no_break (neat : IsNeat line) : ∀ c ∈ line, c ≠ '\n' ∧ c ≠ '\r' :=
  fun c member => not_break_of_inLine (neat.inLine c member)

/-- What is left when the end of a neat line is cut off is neat if nothing trails on it. -/
theorem IsNeat.cut (neat : IsNeat line) {kept : Text} (cut : kept <+: line)
    (trimmed : ∀ filled : kept ≠ [], isTabOrSpace (kept.getLast filled) = false) :
    IsNeat kept where
  inLine c member := neat.inLine c (cut.subset member)
  trimmed := trimmed
  indented := by
    obtain ⟨trail, rfl⟩ := cut
    refine fun tab => neat.indented ?_
    rw [List.takeWhile_append]
    split
    · exact List.mem_append_left _ ((List.takeWhile_sublist _).subset tab)
    · exact tab

theorem IsNeat.isTrimmed (neat : IsNeat line) :
    isTrimmed (line ++ rest) = isTrimmed rest := by
  have inLine := neat.no_break
  have trimmed := neat.trimmed
  clear neat
  induction line with
  | nil => rfl
  | cons c line ih =>
    have inRest := fun other member => inLine other (List.mem_cons_of_mem _ member)
    have stays : (isTabOrSpace c && endsLine (line ++ rest)) = false :=
      endsLine_in_line inRest (by simp [trimmed])
    rw [List.cons_append, TrailingWhitespace.isTrimmed, stays]
    refine ih inRest fun filled => ?_
    rw [← List.getLast_cons filled]
    exact trimmed (List.cons_ne_nil c line)

/-- A line does not count as indented beyond its start. -/
theorem isTabFree_line (inLine : ∀ c ∈ line, c ≠ '\n' ∧ c ≠ '\r') (ends : IsEnding ending) :
    isTabFree false (line ++ (ending ++ rest)) = isTabFree true rest := by
  induction line with
  | nil => rcases ends with rfl | rfl <;> rfl
  | cons c line ih =>
    have other : (c == '\n') = false := beq_eq_false_iff_ne.mpr (inLine c List.mem_cons_self).1
    rw [List.cons_append, isTabFree_false, other]
    exact ih fun other member => inLine other (List.mem_cons_of_mem _ member)

theorem IsNeat.isTabFree (neat : IsNeat line) (ends : IsEnding ending) :
    isTabFree true (line ++ (ending ++ rest)) = isTabFree true rest := by
  have behind : (ending ++ rest).takeWhile isTabOrSpace = [] := by
    rcases ends with rfl | rfl <;> rfl
  have whole : (line ++ (ending ++ rest)).takeWhile isTabOrSpace = line.takeWhile isTabOrSpace := by
    rw [List.takeWhile_append, behind, List.append_nil]
    split
    · rename_i all
      exact ((List.takeWhile_prefix _).eq_of_length all).symm
    · rfl
  rw [isTabFree_true, whole, decide_eq_false neat.indented, isTabFree_line neat.no_break ends]
  rfl

namespace Lined

theorem lines_eq (lined : Lined text own) : lines text = own := by
  induction lined with
  | nil => rfl
  | cons neat ends _ ih => rw [lines_line neat.inLine ends, ih]

theorem neat (lined : Lined text own) : ∀ line ∈ own, IsNeat line := by
  induction lined with
  | nil => exact nofun
  | cons neat _ _ ih => exact List.forall_mem_cons.mpr ⟨neat, ih⟩

theorem append (first : Lined text own) (second : Lined rest others) :
    Lined (text ++ rest) (own ++ others) := by
  induction first with
  | nil => exact second
  | cons neat ends _ ih =>
    rw [List.append_assoc, List.append_assoc]
    exact .cons neat ends ih

theorem flatMap (neat : ∀ line ∈ own, IsNeat line) (ends : IsEnding ending) :
    Lined (own.flatMap (· ++ ending)) own := by
  induction own with
  | nil => exact .nil
  | cons line own ih =>
    obtain ⟨here, later⟩ := List.forall_mem_cons.mp neat
    rw [List.flatMap_cons, List.append_assoc]
    exact .cons here ends (ih later)

theorem single (neat : IsNeat line) (ends : IsEnding ending) :
    Lined (line ++ ending) [line] := by
  simpa using cons neat ends nil

theorem isEnded (lined : Lined text own) : FinalNewline.isEnded text = true := by
  simp only [FinalNewline.isEnded, FinalNewline.endsWithNewline, Bool.or_eq_true,
    List.isEmpty_iff, beq_iff_eq]
  induction lined with
  | nil => exact .inl rfl
  | cons _ ends _ ih =>
    right
    rcases ih with rfl | last
    · rcases ends with rfl | rfl <;> simp
    · simp [List.getLast?_append, last]

theorem isTrimmed (lined : Lined text own) : TrailingWhitespace.isTrimmed text = true := by
  induction lined with
  | nil => rfl
  | cons neat ends _ ih =>
    rw [neat.isTrimmed]
    rcases ends with rfl | rfl
    · exact ih
    · exact ih

theorem isTabFree (lined : Lined text own) : TabIndentation.isTabFree true text = true := by
  induction lined with
  | nil => rfl
  | cons neat ends _ ih => rw [neat.isTabFree ends, ih]

end Lined

/-! ### Normal texts -/

theorem isNeat_normalLine (inLine : ∀ c ∈ line, isLineBreak c = false) :
    IsNeat (normalLine line) := by
  have part := List.rdropWhile_prefix isTabOrSpace line
  have last := fun filled => List.rdropWhile_last_not isTabOrSpace line filled
  have same : trimRightOf isTabOrSpace line = line.rdropWhile isTabOrSpace := rfl
  have inLine : ∀ c ∈ line.rdropWhile isTabOrSpace, isLineBreak c = false :=
    fun c member => inLine c (part.subset member)
  rw [normalLine, same]
  generalize line.rdropWhile isTabOrSpace = kept at inLine last
  split
  · rename_i tab
    have split := List.takeWhile_append_dropWhile (p := isTabOrSpace) (l := kept)
    have blank : ∀ c ∈ kept.takeWhile isTabOrSpace, isTabOrSpace c = true :=
      fun _ member => List.mem_takeWhile_imp member
    have whole := RunRule.takeWhile_dropWhile kept
    generalize kept.takeWhile isTabOrSpace = run, kept.dropWhile isTabOrSpace = body at *
    subst split
    have solid : body ≠ [] := by
      rintro rfl
      rw [List.append_nil] at last
      have filled := List.ne_nil_of_mem tab
      exact last filled (blank _ (List.getLast_mem filled))
    have spaces : ∀ c ∈ expandTabs 4 0 run, c = ' ' := mem_expandTabs blank
    refine ⟨fun c member => ?_, fun filled => ?_, fun member => ?_⟩
    · rcases List.mem_append.mp member with space | behind
      · rw [spaces c space]
        rfl
      · exact inLine c (List.mem_append_right _ behind)
    · rw [List.getLast_append_of_ne_nil _ solid]
      have final := last (List.append_ne_nil_of_right_ne_nil _ solid)
      rw [List.getLast_append_of_ne_nil _ solid] at final
      simpa using final
    · rw [(RunRule.takeWhile_run (fun c space => by rw [spaces c space]; rfl) whole).1] at member
      exact not_mem_expandTabs blank member
  · rename_i free
    exact ⟨inLine, fun filled => by simpa using last filled, free⟩

theorem IsPlain.inLine (plain : IsPlain text) (first : FirstLine text line ending rest) :
    ∀ c ∈ line, isLineBreak c = false := by
  intro c member
  obtain ⟨newline, carriage⟩ := first.inLine c member
  by_contra breaks
  have among : c ∈ text := by
    rw [first.whole]
    exact List.mem_append_left _ member
  rcases plain.breaks c among (by simpa using breaks) with same | same
  · exact newline same
  · exact carriage same

theorem IsPlain.after (plain : IsPlain text) (first : FirstLine text line ending rest) :
    IsPlain rest where
  tidy := first.isTidy_rest plain.tidy
  breaks c member := by
    refine plain.breaks c ?_
    rw [first.whole]
    exact List.mem_append_right _ (List.mem_append_right _ member)

/-- The normal lines of a text, of which the last one need not be ended. -/
theorem exists_lined_flatMap (plain : IsPlain text) :
    ∃ whole own last, Lined whole own ∧ IsNeat last ∧
      ((brokenLines text).flatMap fun (line, ending) => normalLine line ++ ending) =
        whole ++ last := by
  induction size : text.length using Nat.strong_induction_on generalizing text with
  | _ size ih =>
    subst size
    by_cases empty : text = []
    · subst empty
      refine ⟨[], [], [], .nil, .nil, ?_⟩
      unfold brokenLines
      rfl
    · obtain ⟨line, ending, rest, first⟩ := exists_firstLine plain.tidy empty
      have neat := isNeat_normalLine (plain.inLine first)
      have more (ends : IsEnding ending) := ih _ first.length_rest (plain.after first) rfl
      rw [first.lines, List.flatMap_cons]
      rcases first.ends with ends | ends | ⟨rfl, rfl⟩
      · obtain ⟨whole, own, last, lined, tail, same⟩ := more (.inl ends)
        exact ⟨_, _, last, .cons neat (.inl ends) lined, tail, by simp [same]⟩
      · obtain ⟨whole, own, last, lined, tail, same⟩ := more (.inr ends)
        exact ⟨_, _, last, .cons neat (.inr ends) lined, tail, by simp [same]⟩
      · refine ⟨[], [], normalLine line, .nil, neat, ?_⟩
        unfold brokenLines
        simp

/-- Normal texts are neat. -/
theorem exists_lined_normalized (plain : IsPlain text) : ∃ own, Lined text.normalized own := by
  obtain ⟨whole, own, last, lined, neat, same⟩ := exists_lined_flatMap plain
  have ended : text.normalized = FinalNewline.ended (whole ++ last) := by
    rw [← same]
    rfl
  rw [ended]
  by_cases none : last = []
  · subst none
    rw [List.append_nil, FinalNewline.ended_of_isEnded lined.isEnded]
    exact ⟨own, lined⟩
  · have other : last.getLast none ≠ '\n' := (neat.no_break _ (List.getLast_mem none)).1
    have unended : FinalNewline.isEnded (whole ++ last) = false := by
      simp [FinalNewline.isEnded, FinalNewline.endsWithNewline, List.getLast?_append,
        List.getLast?_eq_some_getLast none, none, other]
    rw [FinalNewline.ended, unended, if_neg Bool.false_ne_true, List.append_assoc]
    exact ⟨_, lined.append (.single neat (.inl rfl))⟩

end Text

open Text

/-! ### Formatting -/

namespace Formatting

variable {text line : Text} {own : List Text} {document : Document}

theorem isNeat_trimRight (neat : IsNeat line) : IsNeat (trimRight line) := by
  refine neat.cut (List.rdropWhile_prefix isBlank line) fun filled => ?_
  by_contra blank
  rw [Bool.not_eq_false] at blank
  exact List.rdropWhile_last_not isBlank line filled (isBlank_of_isTabOrSpace blank)

theorem isNeat_keptLines (neat : ∀ line ∈ own, IsNeat line) :
    ∀ line ∈ keptLines own, IsNeat line := by
  intro line kept
  obtain ⟨before, member, rfl⟩ := mem_keptLines kept
  exact isNeat_trimRight (neat before member)

theorem lined_tidy (lined : Lined text own) : Lined (tidy text) (keptLines own) := by
  rw [tidy_eq, lined.lines_eq]
  exact .flatMap (isNeat_keptLines lined.neat) (isEnding_newline text)

/-- Formatting keeps a document neat. -/
theorem exists_lined_formatted (lined : Lined document.text own) :
    ∃ own, Lined (formatted document) own := by
  by_cases generated : document.isGenerated = true
  · have same : formatted document = document.text := if_pos generated
    exact ⟨own, same ▸ lined⟩
  · have made : formatted document = tidy document.text := if_neg generated
    exact ⟨_, made ▸ lined_tidy lined⟩

end Formatting

/-! ### Banners -/

namespace Banner

variable {text : Text} {own rendered : List Text}

/-- Whether a line holds something, has no white space at its end and is neat. -/
structure IsSolid (line : Text) : Prop where
  neat : IsNeat line
  filled : line ≠ []
  trimmed : trimRight line = line

/-- A line that starts with something other than white space is solid once it is trimmed. -/
theorem isSolid_trimRight {c : Char} {rest : Text} (solid : isBlank c = false)
    (inLine : ∀ other ∈ c :: rest, isLineBreak other = false) :
    IsSolid (trimRight (c :: rest)) := by
  have part : trimRight (c :: rest) <+: c :: rest := List.rdropWhile_prefix isBlank _
  have filled : trimRight (c :: rest) ≠ [] := fun none => by
    have blank := List.rdropWhile_eq_nil_iff.mp none c List.mem_cons_self
    rw [solid] at blank
    exact Bool.false_ne_true blank
  refine ⟨⟨fun other member => inLine other (part.subset member), fun some => ?_, ?_⟩, filled,
    Formatting.trimRight_trimRight _⟩
  · by_contra blank
    rw [Bool.not_eq_false] at blank
    exact List.rdropWhile_last_not isBlank _ some (isBlank_of_isTabOrSpace blank)
  · obtain ⟨first, more, same⟩ := List.exists_cons_of_ne_nil filled
    rw [same] at part ⊢
    obtain ⟨rfl, -⟩ := List.cons_prefix_cons.mp part
    rw [List.takeWhile_cons_of_neg fun space => ?_]
    · exact List.not_mem_nil
    · rw [isBlank_of_isTabOrSpace space] at solid
      cases solid

theorem isSolid_render {language : String} {lines : List String}
    (inLine : ∀ line ∈ lines, ∀ c ∈ line.toList, isLineBreak c = false) :
    ∀ line ∈ render language lines, IsSolid line := by
  intro line member
  obtain ⟨written, among, rfl⟩ := List.mem_map.mp member
  have spaced : ∀ c ∈ ' ' :: written.toList, isLineBreak c = false :=
    List.forall_mem_cons.mpr ⟨rfl, inLine written among⟩
  unfold commentMark
  split
  · exact isSolid_trimRight rfl (List.forall_mem_cons.mpr ⟨rfl, spaced⟩)
  · refine isSolid_trimRight rfl (List.forall_mem_cons.mpr ⟨rfl, ?_⟩)
    exact List.forall_mem_cons.mpr ⟨rfl, spaced⟩

variable {document : Document}

/-- A banner keeps a document neat. -/
theorem exists_lined_bannered (lined : Lined document.text own) (filled : rendered ≠ [])
    (solid : ∀ line ∈ rendered, IsSolid line) :
    ∃ own, Lined (bannered rendered document) own := by
  have ends := isEnding_newline document.text
  unfold bannered
  split
  · exact ⟨own, lined⟩
  · obtain ⟨gap, gaps, whole⟩ := insertion_append document.text filled
    have first : Lined (rendered.flatMap (· ++ newline document.text)) rendered :=
      .flatMap (fun line member => (solid line member).neat) ends
    rw [whole]
    rcases gaps with rfl | rfl
    · exact ⟨_, first.append lined⟩
    · exact ⟨_, first.append ((Lined.single .nil ends).append lined)⟩

/-- Formatting does not take a banner away. -/
theorem edit?_formatted (solid : ∀ line ∈ rendered, IsSolid line)
    (settled : edit? rendered document = none) :
    edit? rendered { document with text := Formatting.formatted document } = none := by
  rw [edit?_eq_none] at settled ⊢
  by_cases generated : document.isGenerated = true
  · have same : Formatting.formatted document = document.text := if_pos generated
    rw [same]
    exact .inl generated
  · have made : Formatting.formatted document = Formatting.tidy document.text := if_neg generated
    obtain ⟨more, starts⟩ := startsWith_iff.mp (settled.resolve_left generated)
    right
    rw [made, startsWith_iff, Formatting.lines_tidy, ← starts]
    exact Formatting.prefix_keptLines (fun line member => (solid line member).filled)
      fun line member => (solid line member).trimmed

end Banner

end FixLoop
