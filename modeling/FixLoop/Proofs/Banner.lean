import FixLoop.Proofs.Lines
import FixLoop.Proofs.Workspace.Finishing
import Mathlib.Data.List.Forall2

/-!
What adding a banner makes of documents. A document that lacks the banner gets its lines, and
perhaps an empty one, in front of the text that it had, so its first lines are then those of the
banner, and no document gets a banner twice.
-/

namespace FixLoop

namespace Banner

open Text

variable {text ending : Text} {rendered : List Text} {language : String} {lines : List String}
  {document new : Document}

theorem startsWith_iff : startsWith text rendered = true ↔ rendered <+: Text.lines text := by
  rw [startsWith, beq_iff_eq, List.prefix_iff_eq_take]
  exact eq_comm

theorem render_eq_nil : render language lines = [] ↔ lines = [] := List.map_eq_nil_iff

/-- A banner line is no more than one line. -/
theorem inLine_render (inLine : ∀ line ∈ lines, ∀ c ∈ line.toList, isLineBreak c = false) :
    ∀ line ∈ render language lines, ∀ c ∈ line, isLineBreak c = false := by
  intro line member c among
  obtain ⟨written, given, rfl⟩ := List.mem_map.mp member
  have marked : ∀ d ∈ (commentMark language).toList ++ [' '], isLineBreak d = false := by
    unfold commentMark
    split <;> simp [isLineBreak]
  rcases List.mem_append.mp ((List.rdropWhile_prefix isBlank _).subset among) with mark | own
  · exact marked c mark
  · exact inLine written given c own

theorem intercalate_append (newline : Text) (filled : rendered ≠ []) :
    newline.intercalate rendered ++ newline = rendered.flatMap (· ++ newline) := by
  induction rendered with
  | nil => exact absurd rfl filled
  | cons line rest ih =>
    cases rest with
    | nil => simp
    | cons second rest =>
      rw [List.flatMap_cons, ← ih nofun]
      simp [List.intercalate, List.intersperse]

/-- What is put before a text are the lines of the banner, perhaps with an empty one behind them. -/
theorem insertion_append (text : Text) (filled : rendered ≠ []) :
    ∃ gap, (gap = [] ∨ gap = newline text) ∧
      insertion text rendered ++ text = rendered.flatMap (· ++ newline text) ++ (gap ++ text) := by
  refine ⟨if startsBlank text then [] else newline text, ?_, ?_⟩
  · split <;> simp
  · rw [insertion, intercalate_append _ filled, List.append_assoc]

theorem edit?_eq_none : edit? rendered document = none ↔
    document.isGenerated = true ∨ startsWith document.text rendered = true := by
  unfold edit?
  split <;> simp_all

/-- Whether a document became another one by having a banner, and by nothing else: a generated one
did not change, any other one starts with the lines of the banner, and what was put before its text
are these lines and perhaps an empty one, unless it had them already. -/
structure Headed (rendered : List Text) (document new : Document) : Prop where
  path : new.path = document.path
  generated : document.isGenerated = true → new = document
  starts : document.isGenerated = false → rendered <+: Text.lines new.text
  ends : document.text <:+ new.text
  once : rendered <+: Text.lines document.text → new = document
  added : new ≠ document → ∃ gap, (gap = [] ∨ gap = newline document.text) ∧
    new.text = rendered.flatMap (· ++ newline document.text) ++ (gap ++ document.text)

section

variable (filled : rendered ≠ []) (inLine : ∀ line ∈ rendered, ∀ c ∈ line, isLineBreak c = false)

include filled inLine

theorem startsWith_insertion (text : Text) :
    startsWith (insertion text rendered ++ text) rendered = true := by
  obtain ⟨gap, -, whole⟩ := insertion_append text filled
  rw [startsWith_iff, whole, lines_flatMap inLine (isEnding_newline text)]
  exact List.prefix_append _ _

/-- A document that has the banner needs none. -/
theorem edit?_bannered_eq_none (document : Document) :
    edit? rendered { document with text := bannered rendered document } = none := by
  rw [edit?_eq_none]
  by_cases spared : (document.isGenerated || startsWith document.text rendered) = true
  · have same : bannered rendered document = document.text := if_pos spared
    rw [same]
    simpa using spared
  · have made : bannered rendered document = insertion document.text rendered ++ document.text :=
      if_neg spared
    rw [made]
    exact .inr (startsWith_insertion filled inLine document.text)

theorem headed_bannered (document : Document) :
    Headed rendered document { document with text := bannered rendered document } := by
  by_cases spared : (document.isGenerated || startsWith document.text rendered) = true
  · have same : bannered rendered document = document.text := if_pos spared
    have whole : { document with text := bannered rendered document } = document := by rw [same]
    rw [whole]
    refine ⟨rfl, fun _ => rfl, fun other => ?_, List.suffix_refl _, fun _ => rfl, absurd rfl⟩
    apply startsWith_iff.mp
    simpa [other] using spared
  · have made : bannered rendered document = insertion document.text rendered ++ document.text :=
      if_neg spared
    rw [made]
    simp only [Bool.or_eq_true, not_or] at spared
    constructor
    · rfl
    · exact fun generated => absurd generated spared.1
    · exact fun _ => startsWith_iff.mp (startsWith_insertion filled inLine document.text)
    · exact List.suffix_append _ _
    · exact fun starts => absurd (startsWith_iff.mpr starts) spared.2
    · exact fun _ => insertion_append document.text filled

end

/-- The edits that add a banner land, each document then has it or is generated, with all the text
that it had, and after that there are none. -/
theorem edits_settle {unit : SourceUnit} (distinct : unit.paths.Nodup) (some : lines ≠ [])
    (inLine : ∀ line ∈ lines, ∀ c ∈ line.toList, isLineBreak c = false) :
    ∃ after, unit.withEdits (edits unit lines) = .ok after ∧
      List.Forall₂ (Headed (render unit.language lines)) unit.documents after.documents ∧
        edits after lines = [] := by
  have filled : render unit.language lines ≠ [] := mt render_eq_nil.mp some
  have rendered : ∀ line ∈ render unit.language lines, ∀ c ∈ line, isLineBreak c = false :=
    inLine_render inLine
  have lands := SourceUnit.withEdits_filterMap path_edit? distinct fun document _ =>
    apply_edit? (render unit.language lines) document
  refine ⟨_, (edits_eq some).symm ▸ lands, ?_, ?_⟩
  · apply List.forall₂_map_right_iff.mpr
    apply List.forall₂_same.mpr
    intro document member
    exact headed_bannered filled rendered document
  · rw [edits_eq some, List.filterMap_eq_nil_iff]
    intro document member
    obtain ⟨source, -, rfl⟩ := List.mem_map.mp member
    exact edit?_bannered_eq_none filled rendered source

/-- Documents that a banner is put before in different ways, and a generated one. -/
def headless : SourceUnit where
  id := "a"
  language := "python"
  documents := [
    { path := "a", text := ['x', '\r', '\n'] },
    { path := "b", text := ['\n', 'y', '\r', '\n'] },
    { path := "c", text := [] },
    { path := "d.g.c", text := ['x'] }]

theorem edits_settle_headless :
    headless.paths.Nodup ∧ ["@generated", ""] ≠ [] ∧
      (∀ line ∈ ["@generated", ""], ∀ c ∈ line.toList, isLineBreak c = false) ∧
      ∃ after, headless.withEdits (edits headless ["@generated", ""]) = .ok after ∧
        List.Forall₂ (Headed (render headless.language ["@generated", ""])) headless.documents
          after.documents ∧
        edits after ["@generated", ""] = [] := by
  have distinct : headless.paths.Nodup := by decide
  have inLine : ∀ line ∈ ["@generated", ""], ∀ c ∈ line.toList, isLineBreak c = false := by
    simp [isLineBreak]
  have some := List.cons_ne_nil "@generated" [""]
  exact ⟨distinct, some, inLine, edits_settle distinct some inLine⟩

end Banner

end FixLoop
