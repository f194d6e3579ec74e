import FixLoop.Text.Blank
import FixLoop.Text.Lines
import Mathlib.Data.List.DropRight

/-!
Lines of texts. A text may be cut at all line boundaries of Unicode or at LF and CRLF alone; what
holds of both holds of every class of characters that end lines. Lines that are ended one after
another are read back, and both ways of cutting a text find the same lines if it is plain.
-/

namespace FixLoop

theorem isBlank_of_isLineBreak {c : Char} (breaks : isLineBreak c = true) : isBlank c = true := by
  simp only [isLineBreak, isBlank, Bool.or_eq_true, Bool.and_eq_true, decide_eq_true_eq,
    beq_iff_eq] at breaks ⊢
  omega

namespace Text

/-- The lines of a text, each with the line break behind it, which is LF or CRLF, or nothing. -/
def brokenLines : Text → List (Text × Text)
  | [] => []
  | '\n' :: rest => ([], ['\n']) :: brokenLines rest
  | '\r' :: '\n' :: rest => ([], ['\r', '\n']) :: brokenLines rest
  | c :: rest =>
    match brokenLines rest with
    | [] => [([c], [])]
    | (line, ending) :: more => (c :: line, ending) :: more

/-- The lines of a text at LF and CRLF alone. -/
def feedLines (text : Text) : List Text := (brokenLines text).map (·.1)

/-- The lines of a text that the characters of a class end, and CRLF as one boundary. -/
def linesAt (ends : Char → Bool) : Text → List Text
  | [] => []
  | '\r' :: '\n' :: rest => [] :: linesAt ends rest
  | c :: rest =>
    if ends c then [] :: linesAt ends rest
    else
      match linesAt ends rest with
      | [] => [[c]]
      | line :: more => (c :: line) :: more

/-- Whether carriage returns stand only directly before line feeds. -/
def isTidy : Text → Bool
  | [] => true
  | c :: rest => (c != '\r' || rest.head? == some '\n') && isTidy rest

/-- Whether a text has no line boundaries but LF and CRLF. -/
structure IsPlain (text : Text) : Prop where
  tidy : text.isTidy = true
  breaks : ∀ c ∈ text, isLineBreak c = true → c = '\n' ∨ c = '\r'

/-- Whether a text ends a line. -/
def IsEnding (ending : Text) : Prop := ending = ['\n'] ∨ ending = ['\r', '\n']

variable {ends : Char → Bool} {text line ending rest : Text} {own : List Text} {c : Char}

/-! ### Ways of cutting a text -/

theorem linesAt_isLineBreak (text : Text) : linesAt isLineBreak text = lines text := by
  fun_induction lines text with
  | case1 => rfl
  | case2 rest ih => rw [linesAt, ih]
  | case3 c rest apart breaks ih =>
    rw [linesAt, if_pos breaks, ih]
    exact apart
  | case4 c rest apart within last ih =>
    rw [linesAt, if_neg within, ih, last]
    exact apart
  | case5 c rest apart within line more split ih =>
    rw [linesAt, if_neg within, ih, split]
    exact apart

theorem brokenLines_cons (other : c ≠ '\n') (apart : ∀ more, c = '\r' → rest ≠ '\n' :: more) :
    brokenLines (c :: rest) =
      match brokenLines rest with
      | [] => [([c], [])]
      | (line, ending) :: more => (c :: line, ending) :: more := by
  rw [brokenLines]
  · exact other
  · exact apart

theorem linesAt_newline (text : Text) : linesAt (· == '\n') text = feedLines text := by
  unfold feedLines
  fun_induction brokenLines text with
  | case1 => rfl
  | case2 rest ih =>
    rw [linesAt, ih]
    · rfl
    · exact nofun
  | case3 rest ih => rw [linesAt, ih, List.map_cons]
  | case4 c rest other apart last ih =>
    rw [linesAt, if_neg (by simpa using other), ih, last]
    · rfl
    · exact apart
  | case5 c rest other apart line ending more split ih =>
    rw [linesAt, if_neg (by simpa using other), ih, split]
    · rfl
    · exact apart

theorem linesAt_cons (apart : ∀ more, c = '\r' → rest ≠ '\n' :: more) :
    linesAt ends (c :: rest) =
      if ends c then [] :: linesAt ends rest
      else
        match linesAt ends rest with
        | [] => [[c]]
        | line :: more => (c :: line) :: more := by
  rw [linesAt]
  exact apart

theorem linesAt_eq_nil : linesAt ends text = [] ↔ text = [] := by
  constructor
  · intro none
    fun_cases linesAt ends text with
    | case1 => rfl
    | case2 rest => simp [linesAt] at none
    | case3 c rest apart breaks => simp [linesAt_cons apart, breaks] at none
    | case4 c rest apart within last => simp [linesAt_cons apart, within, last] at none
    | case5 c rest apart within line more split =>
      simp [linesAt_cons apart, within, split] at none
  · intro empty
    rw [empty, linesAt]

/-- No line holds what ends it. -/
theorem within_of_mem_linesAt (member : line ∈ linesAt ends text) : ∀ c ∈ line, ends c = false := by
  fun_induction linesAt ends text generalizing line with
  | case1 => simp at member
  | case2 rest ih =>
    rcases List.mem_cons.mp member with rfl | later
    · simp
    · exact ih later
  | case3 c rest apart breaks ih =>
    rcases List.mem_cons.mp member with rfl | later
    · simp
    · exact ih later
  | case4 c rest apart within last ih =>
    rw [List.mem_singleton.mp member]
    simpa using within
  | case5 c rest apart within first more split ih =>
    rw [split] at ih
    rcases List.mem_cons.mp member with rfl | later
    · intro other among
      rcases List.mem_cons.mp among with rfl | among
      · simpa using within
      · exact ih List.mem_cons_self other among
    · exact ih (List.mem_cons_of_mem _ later)

/-- The first line of a text, if the text goes on behind it. -/
theorem linesAt_line (newline : ends '\n' = true) (within : ∀ c ∈ line, ends c = false ∧ c ≠ '\r')
    (ending_ : IsEnding ending) :
    linesAt ends (line ++ (ending ++ rest)) = line :: linesAt ends rest := by
  induction line with
  | nil =>
    rcases ending_ with rfl | rfl
    · rw [List.nil_append, List.singleton_append,
        linesAt_cons fun _ same => absurd same (by decide), if_pos newline]
    · simp [linesAt]
  | cons c line ih =>
    obtain ⟨inside, other⟩ := within c List.mem_cons_self
    have later := ih fun d member => within d (List.mem_cons_of_mem _ member)
    rw [List.cons_append, linesAt_cons fun _ same => absurd same other, later]
    simp [inside]

/-- Lines that are ended one after another are read back. -/
theorem linesAt_flatMap (newline : ends '\n' = true)
    (within : ∀ line ∈ own, ∀ c ∈ line, ends c = false ∧ c ≠ '\r') (ending_ : IsEnding ending)
    (rest : Text) : linesAt ends (own.flatMap (· ++ ending) ++ rest) = own ++ linesAt ends rest := by
  induction own with
  | nil => rfl
  | cons line own ih =>
    have later := ih fun other member => within other (List.mem_cons_of_mem _ member)
    rw [List.flatMap_cons, List.append_assoc, List.append_assoc,
      linesAt_line newline (within line List.mem_cons_self) ending_, later, List.cons_append]

theorem not_break_of_inLine (inLine : isLineBreak c = false) : c ≠ '\n' ∧ c ≠ '\r' := by
  constructor <;> rintro rfl <;> exact absurd inLine (by decide)

theorem lines_line (inLine : ∀ c ∈ line, isLineBreak c = false) (ending_ : IsEnding ending)
    (rest : Text) : lines (line ++ (ending ++ rest)) = line :: lines rest := by
  simp only [← linesAt_isLineBreak]
  apply linesAt_line rfl _ ending_
  intro c member
  exact ⟨inLine c member, (not_break_of_inLine (inLine c member)).2⟩

theorem lines_flatMap (inLine : ∀ line ∈ own, ∀ c ∈ line, isLineBreak c = false)
    (ending_ : IsEnding ending) (rest : Text) :
    lines (own.flatMap (· ++ ending) ++ rest) = own ++ lines rest := by
  simp only [← linesAt_isLineBreak]
  apply linesAt_flatMap rfl _ ending_
  intro line member c among
  exact ⟨inLine line member c among, (not_break_of_inLine (inLine line member c among)).2⟩

theorem feedLines_flatMap (inLine : ∀ line ∈ own, ∀ c ∈ line, isLineBreak c = false)
    (ending_ : IsEnding ending) : feedLines (own.flatMap (· ++ ending)) = own := by
  have within : ∀ line ∈ own, ∀ c ∈ line, (c == '\n') = false ∧ c ≠ '\r' := by
    intro line member c among
    simpa using not_break_of_inLine (inLine line member c among)
  simpa [linesAt_newline, linesAt] using linesAt_flatMap rfl within ending_ []

theorem inLine_of_mem_lines (member : line ∈ lines text) : ∀ c ∈ line, isLineBreak c = false := by
  rw [← linesAt_isLineBreak] at member
  exact within_of_mem_linesAt member

/-! ### Plain texts -/

theorem isTidy_of_append {before text : Text} (tidy : (before ++ text).isTidy = true) :
    text.isTidy = true := by
  induction before with
  | nil => exact tidy
  | cons c before ih => exact ih (Bool.and_eq_true_iff.mp tidy).2

theorem isTidy_append {run text : Text} (blank : ∀ c ∈ run, isTabOrSpace c = true) :
    (run ++ text).isTidy = text.isTidy := by
  induction run with
  | nil => rfl
  | cons c run ih =>
    have other : (c != '\r') = true := by
      have first := blank c List.mem_cons_self
      by_contra same
      simp only [bne_iff_ne, ne_eq, not_not] at same
      subst same
      exact absurd first (by decide)
    rw [List.cons_append, isTidy, other, Bool.true_or, Bool.true_and]
    exact ih fun other member => blank other (List.mem_cons_of_mem _ member)

theorem isPlain_nil : IsPlain [] := ⟨rfl, nofun⟩

theorem isPlain_cons : IsPlain (c :: rest) ↔
    (isLineBreak c = true → c = '\n' ∨ c = '\r' ∧ rest.head? = some '\n') ∧ IsPlain rest := by
  constructor
  · intro ⟨tidy, breaks⟩
    simp only [isTidy, Bool.and_eq_true, Bool.or_eq_true, bne_iff_ne, beq_iff_eq] at tidy
    refine ⟨fun breaks_ => ?_, tidy.2, fun other member => breaks other (by simp [member])⟩
    apply (breaks c List.mem_cons_self breaks_).imp_right
    intro same
    exact ⟨same, tidy.1.resolve_left (not_not.mpr same)⟩
  · intro ⟨here, tidy, breaks⟩
    constructor
    · simp only [isTidy, Bool.and_eq_true, Bool.or_eq_true, bne_iff_ne, beq_iff_eq]
      refine ⟨or_iff_not_imp_left.mpr fun same => ?_, tidy⟩
      rw [not_not] at same
      subst same
      simpa using here rfl
    · intro other member breaks_
      rcases List.mem_cons.mp member with rfl | member
      · exact (here breaks_).imp_right And.left
      · exact breaks other member breaks_

theorem feedLines_cons (other : c ≠ '\n') (apart : ∀ more, c = '\r' → rest ≠ '\n' :: more) :
    feedLines (c :: rest) =
      match feedLines rest with
      | [] => [[c]]
      | line :: more => (c :: line) :: more := by
  simp only [← linesAt_newline]
  rw [linesAt_cons apart, if_neg (by simpa using other)]

theorem feedLines_of_isPlain (plain : IsPlain text) : feedLines text = lines text := by
  fun_induction lines text with
  | case1 => rfl
  | case2 rest ih =>
    rw [← ih (isPlain_cons.mp (isPlain_cons.mp plain).2).2]
    rfl
  | case3 c rest apart breaks ih =>
    obtain ⟨here, plain⟩ := isPlain_cons.mp plain
    have newline : c = '\n' := by
      apply (here breaks).resolve_right
      intro ⟨same, head⟩
      obtain ⟨more, rfl⟩ := List.head?_eq_some_iff.mp head
      exact apart more same rfl
    rw [newline, ← ih plain]
    rfl
  | case4 c rest apart within last ih =>
    have other : c ≠ '\n' := (not_break_of_inLine (by simpa using within)).1
    rw [feedLines_cons other apart, ih (isPlain_cons.mp plain).2, last]
  | case5 c rest apart within line more split ih =>
    have other : c ≠ '\n' := (not_break_of_inLine (by simpa using within)).1
    rw [feedLines_cons other apart, ih (isPlain_cons.mp plain).2, split]

theorem length_feedLines_cons (other : c ≠ '\n')
    (apart : ∀ more, c = '\r' → rest ≠ '\n' :: more) (goesOn : rest ≠ []) :
    (feedLines (c :: rest)).length = (feedLines rest).length := by
  have some : feedLines rest ≠ [] := by
    rw [← linesAt_newline]
    exact mt linesAt_eq_nil.mp goesOn
  obtain ⟨line, more, split⟩ := List.exists_cons_of_ne_nil some
  simp [feedLines_cons other apart, split]

theorem last_of_cons (last : ∀ d ∈ (c :: rest).getLast?, isLineBreak d = false)
    (goesOn : rest ≠ []) : ∀ d ∈ rest.getLast?, isLineBreak d = false := by
  obtain ⟨d, more, rfl⟩ := List.exists_cons_of_ne_nil goesOn
  simpa [List.getLast?_cons_cons] using last

/-- A text goes on behind a line boundary if none ends it. -/
theorem ne_nil_of_last (last : ∀ d ∈ (c :: rest).getLast?, isLineBreak d = false)
    (breaks : isLineBreak c = true) : rest ≠ [] := by
  rintro rfl
  simp [breaks] at last

/-- A text that no line boundary ends has as many lines at LF and CRLF as at all boundaries only if
it is plain, and else fewer. -/
theorem length_feedLines (last : ∀ c ∈ text.getLast?, isLineBreak c = false) :
    (feedLines text).length ≤ (lines text).length ∧
      ((feedLines text).length = (lines text).length → IsPlain text) := by
  -- A boundary that is no line feed goes on with the line at LF and CRLF, so there is one less.
  fun_induction lines text with
  | case1 => exact ⟨Nat.le_refl _, fun _ => isPlain_nil⟩
  | case2 rest ih =>
    have last := last_of_cons last nofun
    obtain ⟨fewer, plain⟩ := ih (last_of_cons last (ne_nil_of_last last rfl))
    have whole : feedLines ('\r' :: '\n' :: rest) = [] :: feedLines rest := rfl
    simp only [whole, List.length_cons, Nat.add_le_add_iff_right, Nat.add_right_cancel_iff]
    refine ⟨fewer, fun same => ?_⟩
    simp [isPlain_cons, plain same]
  | case3 c rest apart breaks ih =>
    have more := ne_nil_of_last last breaks
    obtain ⟨fewer, plain⟩ := ih (last_of_cons last more)
    by_cases newline : c = '\n'
    · subst newline
      have whole : feedLines ('\n' :: rest) = [] :: feedLines rest := rfl
      simp only [whole, List.length_cons, Nat.add_le_add_iff_right, Nat.add_right_cancel_iff]
      refine ⟨fewer, fun same => ?_⟩
      simp [isPlain_cons, plain same]
    · rw [length_feedLines_cons newline apart more, List.length_cons]
      constructor <;> omega
  | case4 c rest apart within none ih =>
    have other := not_break_of_inLine (by simpa using within)
    rw [← linesAt_isLineBreak, linesAt_eq_nil] at none
    subst none
    have whole : feedLines [c] = [[c]] := feedLines_cons other.1 apart
    simp [whole, isPlain_cons, within, isPlain_nil]
  | case5 c rest apart within line more split ih =>
    have other := not_break_of_inLine (by simpa using within)
    have goesOn : rest ≠ [] := by
      rintro rfl
      simp [lines] at split
    obtain ⟨fewer, plain⟩ := ih (last_of_cons last goesOn)
    rw [split] at fewer plain
    rw [length_feedLines_cons other.1 apart goesOn]
    refine ⟨fewer, fun same => ?_⟩
    simp [isPlain_cons, within, plain same]

/-! ### Line breaks -/

theorem contains_iff {pattern : Text} : contains pattern text = true ↔ pattern <:+: text := by
  induction text with
  | nil => simp [contains]
  | cons c rest ih => simp [contains, List.infix_cons_iff, ih]

theorem isEnding_newline (text : Text) : IsEnding (newline text) := by
  unfold newline
  split
  · exact .inr rfl
  · exact .inl rfl

theorem newline_eq_crlf : newline text = ['\r', '\n'] ↔ ['\r', '\n'] <:+: text := by
  rw [← contains_iff]
  unfold newline
  split <;> simp_all

theorem newline_of_not_mem (none : '\r' ∉ text) : newline text = ['\n'] := by
  apply (isEnding_newline text).resolve_right
  intro carriage
  exact none ((newline_eq_crlf.mp carriage).subset (by simp))

/-- Lines that are all ended alike keep to that line break. -/
theorem newline_flatMap (filled : own ≠ []) (none : ∀ line ∈ own, '\r' ∉ line)
    (ending_ : IsEnding ending) : newline (own.flatMap (· ++ ending)) = ending := by
  rcases ending_ with rfl | rfl
  · apply newline_of_not_mem
    simpa using none
  · obtain ⟨line, more, rfl⟩ := List.exists_cons_of_ne_nil filled
    rw [newline_eq_crlf, List.flatMap_cons]
    exact ⟨line, more.flatMap (· ++ ['\r', '\n']), rfl⟩

end Text

end FixLoop
