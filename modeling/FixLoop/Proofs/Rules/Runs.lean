import FixLoop.Proofs.Rules.Separate
import FixLoop.Text.Blank
import Mathlib.Data.List.TakeWhile

/-!
Rules about runs of spaces and tabs. Such a rule walks through a text with a state that depends on
the character before, looks at each run as a whole, and replaces a run that breaks it by another
one. A run breaks the rule at its start or nowhere, so the replaced runs stand apart.
-/

namespace FixLoop

theorem isTabOrSpace_cases {c : Char} (blank : isTabOrSpace c = true) : c = ' ' ∨ c = '\t' := by
  simpa [isTabOrSpace] using blank

theorem isLayout_of_isTabOrSpace {c : Char} (blank : isTabOrSpace c = true) :
    isLayout c = true := by
  rcases isTabOrSpace_cases blank with rfl | rfl <;> rfl

/-- A rule about runs of spaces and tabs. -/
structure RunRule where
  /-- The state at the start of a text. -/
  start : Bool
  /-- The state after a character. -/
  next : Char → Bool
  /-- Whether a run breaks the rule, with the state before it and what follows it. -/
  breaks : Bool → Text → Text → Bool
  /-- What a run is replaced by. -/
  mend : Text → Text
  breaks_nil : ∀ state rest, breaks state [] rest = false
  /-- All characters of a run leave the state that a space leaves. -/
  next_of_mem : ∀ c, isTabOrSpace c = true → next c = next ' '
  /-- Within a run nothing breaks the rule. -/
  breaks_inside : ∀ run rest, breaks (next ' ') run rest = false

namespace RunRule

variable (rule : RunRule)

/-- The runs that break a rule, in a text from an offset on. -/
def spansFrom (offset : Nat) (state : Bool) : Text → List (Nat × Nat)
  | [] => []
  | c :: rest =>
    let more := spansFrom (offset + 1) (rule.next c) rest
    let run := (c :: rest).takeWhile isTabOrSpace
    if rule.breaks state run ((c :: rest).dropWhile isTabOrSpace) then
      (offset, offset + run.length) :: more
    else more

/-- The edit that replaces a run. -/
def edit (document : Document) (span : Nat × Nat) : TextEdit where
  path := document.path
  start := span.1
  stop := span.2
  text := rule.mend (Text.slice document.text span.1 span.2)

/-- A walk through a text, with the spans of the runs that break a rule. -/
inductive Walk : Nat → Bool → Text → List (Nat × Nat) → Prop where
  | nil {offset : Nat} {state : Bool} : Walk offset state [] []
  | pass {offset : Nat} {state : Bool} {c : Char} {rest : Text} {spans : List (Nat × Nat)}
      (kept : rule.breaks state ((c :: rest).takeWhile isTabOrSpace)
        ((c :: rest).dropWhile isTabOrSpace) = false)
      (later : Walk (offset + 1) (rule.next c) rest spans) : Walk offset state (c :: rest) spans
  | broken {offset : Nat} {state : Bool} {run rest : Text} {spans : List (Nat × Nat)}
      (blank : ∀ c ∈ run, isTabOrSpace c = true) (whole : rest.takeWhile isTabOrSpace = [])
      (breaks : rule.breaks state run rest = true)
      (later : Walk (offset + run.length) (rule.next ' ') rest spans) :
    Walk offset state (run ++ rest) ((offset, offset + run.length) :: spans)

/-- Whether a text becomes another one when so many of the runs that break a rule are replaced. -/
inductive Mended : Bool → Nat → Text → Text → Prop where
  | nil {state : Bool} : Mended state 0 [] []
  | keep {state : Bool} {count : Nat} {c : Char} {rest result : Text}
      (later : Mended (rule.next c) count rest result) :
    Mended state count (c :: rest) (c :: result)
  | mend {state : Bool} {count : Nat} {run rest result : Text}
      (blank : ∀ c ∈ run, isTabOrSpace c = true) (whole : rest.takeWhile isTabOrSpace = [])
      (breaks : rule.breaks state run rest = true)
      (later : Mended (rule.next ' ') count rest result) :
    Mended state (count + 1) (run ++ rest) (rule.mend run ++ result)

/-- The rule, as a rule about texts. -/
def toRule (descriptor : Descriptor) : Rule where
  descriptor
  spans := rule.spansFrom 0 rule.start
  edit := rule.edit
  mends text result := ∃ count, rule.Mended rule.start count text result

variable {rule} {offset place count : Nat} {state : Bool} {text run rest result : Text}
  {spans : List (Nat × Nat)} {document : Document} {taken : List TextEdit}

/-! ### Runs -/

theorem takeWhile_run (blank : ∀ c ∈ run, isTabOrSpace c = true)
    (whole : rest.takeWhile isTabOrSpace = []) :
    (run ++ rest).takeWhile isTabOrSpace = run ∧ (run ++ rest).dropWhile isTabOrSpace = rest := by
  have split := List.takeWhile_append_dropWhile (p := isTabOrSpace) (l := rest)
  rw [whole, List.nil_append] at split
  rw [List.takeWhile_append_of_pos blank, List.dropWhile_append_of_pos blank, whole,
    List.append_nil]
  exact ⟨rfl, split⟩

theorem takeWhile_dropWhile (text : Text) :
    (text.dropWhile isTabOrSpace).takeWhile isTabOrSpace = [] := by
  induction text with
  | nil => rfl
  | cons c rest ih =>
    rw [List.dropWhile_cons]
    split
    · exact ih
    · rename_i solid
      exact List.takeWhile_cons_of_neg solid

/-- Before a character that belongs to no run the state does not matter. -/
theorem spansFrom_whole (whole : text.takeWhile isTabOrSpace = []) (other : Bool) :
    rule.spansFrom offset state text = rule.spansFrom offset other text := by
  cases text with
  | nil => rfl
  | cons c rest =>
    rw [spansFrom, spansFrom, whole, rule.breaks_nil, rule.breaks_nil]

/-- No run starts within another one. -/
theorem spansFrom_inside (blank : ∀ c ∈ run, isTabOrSpace c = true) (offset : Nat) :
    rule.spansFrom offset (rule.next ' ') (run ++ rest) =
      rule.spansFrom (offset + run.length) (rule.next ' ') rest := by
  induction run generalizing offset with
  | nil => rfl
  | cons c run ih =>
    have others := ih (fun other member => blank other (List.mem_cons_of_mem _ member)) (offset + 1)
    rw [List.cons_append, spansFrom, if_neg (by simp [rule.breaks_inside]),
      rule.next_of_mem c (blank c List.mem_cons_self), others, List.length_cons]
    congr 1
    omega

theorem ne_nil_of_breaks (breaks : rule.breaks state run rest = true) : run ≠ [] := by
  rintro rfl
  exact nomatch (rule.breaks_nil state rest).symm.trans breaks

theorem spansFrom_broken (blank : ∀ c ∈ run, isTabOrSpace c = true)
    (whole : rest.takeWhile isTabOrSpace = []) (breaks : rule.breaks state run rest = true) :
    rule.spansFrom offset state (run ++ rest) =
      (offset, offset + run.length) ::
        rule.spansFrom (offset + run.length) (rule.next ' ') rest := by
  obtain ⟨taken, dropped⟩ := takeWhile_run blank whole
  cases run with
  | nil => exact nomatch (rule.breaks_nil state rest).symm.trans breaks
  | cons c run =>
    have others : ∀ other ∈ run, isTabOrSpace other = true :=
      fun other member => blank other (List.mem_cons_of_mem _ member)
    rw [List.cons_append] at taken dropped ⊢
    rw [spansFrom, taken, dropped, if_pos breaks, rule.next_of_mem c (blank c List.mem_cons_self),
      spansFrom_inside others, List.length_cons]
    congr 2
    omega

theorem spansFrom_kept (blank : ∀ c ∈ run, isTabOrSpace c = true)
    (whole : rest.takeWhile isTabOrSpace = []) (kept : rule.breaks state run rest = false) :
    rule.spansFrom offset state (run ++ rest) =
      rule.spansFrom (offset + run.length) (rule.next ' ') rest := by
  obtain ⟨taken, dropped⟩ := takeWhile_run blank whole
  cases run with
  | nil => exact spansFrom_whole whole _
  | cons c run =>
    have others : ∀ other ∈ run, isTabOrSpace other = true :=
      fun other member => blank other (List.mem_cons_of_mem _ member)
    rw [List.cons_append] at taken dropped ⊢
    rw [spansFrom, taken, dropped, if_neg (by simp [kept]),
      rule.next_of_mem c (blank c List.mem_cons_self), spansFrom_inside others, List.length_cons]
    congr 1
    omega

theorem walk (rule : RunRule) (offset : Nat) (state : Bool) (text : Text) :
    rule.Walk offset state text (rule.spansFrom offset state text) := by
  induction size : text.length using Nat.strong_induction_on generalizing offset state text with
  | _ size ih =>
    subst size
    cases text with
    | nil => exact .nil
    | cons c rest =>
      cases breaks : rule.breaks state ((c :: rest).takeWhile isTabOrSpace)
          ((c :: rest).dropWhile isTabOrSpace) with
      | false =>
        rw [spansFrom, if_neg (by simp [breaks])]
        exact .pass breaks (ih _ (Nat.lt_succ_self _) _ _ _ rfl)
      | true =>
        have split := List.takeWhile_append_dropWhile (p := isTabOrSpace) (l := c :: rest)
        have blank : ∀ other ∈ (c :: rest).takeWhile isTabOrSpace, isTabOrSpace other = true :=
          fun other member => List.mem_takeWhile_imp member
        have whole := takeWhile_dropWhile (c :: rest)
        generalize (c :: rest).takeWhile isTabOrSpace = run,
          (c :: rest).dropWhile isTabOrSpace = after at *
        rw [← split, spansFrom_broken blank whole breaks]
        refine .broken blank whole breaks (ih _ ?_ _ _ _ rfl)
        have positive := List.length_pos_of_ne_nil (ne_nil_of_breaks breaks)
        rw [← split, List.length_append]
        omega

theorem Mended.keep_run (mended : rule.Mended (rule.next ' ') count rest result)
    (blank : ∀ c ∈ run, isTabOrSpace c = true) (filled : run ≠ []) :
    rule.Mended state count (run ++ rest) (run ++ result) := by
  induction run generalizing state with
  | nil => exact absurd rfl filled
  | cons c run ih =>
    refine .keep ?_
    rw [rule.next_of_mem c (blank c List.mem_cons_self)]
    cases run with
    | nil => exact mended
    | cons d run => exact ih (fun other member => blank other (List.mem_cons_of_mem _ member)) nofun

theorem slice_append (before run rest : Text) :
    Text.slice (before ++ (run ++ rest)) before.length ((before.length + run.length : Nat) : Int) =
      run := by
  have place (n : Nat) (inside : n ≤ (before ++ (run ++ rest)).length) :
      Text.place (before ++ (run ++ rest)).length n = n := by
    rw [Text.place, if_neg (by omega), Int.toNat_natCast, Nat.min_eq_left inside]
  rw [Text.slice, Text.upTo, place _ (by simp), place _ (by simp), ← List.append_assoc,
    ← List.length_append, List.take_left, List.drop_left]

namespace Walk

theorem bounds (walk : rule.Walk offset state text spans) :
    ∀ span ∈ spans, offset ≤ span.1 ∧ span.1 < span.2 ∧ span.2 ≤ offset + text.length := by
  induction walk with
  | nil => exact nofun
  | pass kept later ih =>
    intro span member
    have inside := ih span member
    rw [List.length_cons]
    omega
  | broken blank whole breaks later ih =>
    have positive := List.length_pos_of_ne_nil (ne_nil_of_breaks breaks)
    rw [List.length_append]
    intro span member
    rcases List.mem_cons.mp member with rfl | member
    · dsimp only
      omega
    · have inside := ih span member
      omega

/-- The runs that break a rule stand one behind the other. -/
theorem behind (walk : rule.Walk offset state text spans) :
    spans.Pairwise fun a b => a.1 < b.1 ∧ a.2 ≤ b.1 := by
  induction walk with
  | nil => exact .nil
  | pass kept later ih => exact ih
  | broken blank whole breaks later ih =>
    refine List.pairwise_cons.mpr ⟨fun span member => ?_, ih⟩
    have inside := later.bounds span member
    have positive := List.length_pos_of_ne_nil (ne_nil_of_breaks breaks)
    dsimp only
    omega

theorem breaks_of_mem (walk : rule.Walk offset state text spans) {whole : Text}
    (here : ∃ before : Text, before.length = offset ∧ before ++ text = whole) :
    ∀ span ∈ spans, ∃ state rest,
      rule.breaks state (Text.slice whole span.1 span.2) rest = true := by
  induction walk with
  | nil => exact nofun
  | @pass offset state c rest spans kept later ih =>
    obtain ⟨before, rfl, rfl⟩ := here
    exact ih ⟨before ++ [c], by simp, by simp⟩
  | @broken offset state run rest spans blank own breaks later ih =>
    obtain ⟨before, rfl, rfl⟩ := here
    intro span member
    rcases List.mem_cons.mp member with rfl | member
    · rw [slice_append]
      exact ⟨state, rest, breaks⟩
    · exact ih ⟨before ++ run, by simp, by simp⟩ span member

/-- Replacing some of the runs that break a rule mends so many of them. -/
theorem mended (walk : rule.Walk offset state text spans)
    (part : taken.Sublist (spans.map (rule.edit document)))
    (patched : TextEdit.Patched offset text taken result)
    (here : ∃ before : Text, before.length = offset ∧ before ++ text = document.text) :
    rule.Mended state taken.length text result := by
  -- Offsets are those of the whole document, so each step carries the text before it.
  induction walk generalizing taken result with
  | nil =>
    obtain rfl := List.sublist_nil.mp part
    rw [patched.eq_of_nil]
    exact .nil
  | @pass offset state c rest spans kept later ih =>
    have beyond : ∀ edit ∈ taken, (offset + [c].length : Int) ≤ edit.start := by
      intro edit member
      obtain ⟨span, broken, rfl⟩ := List.mem_map.mp (part.subset member)
      have inside := later.bounds span broken
      change (offset + 1 : Int) ≤ span.1
      omega
    have cut : TextEdit.Patched offset ([c] ++ rest) taken result := patched
    obtain ⟨result, rfl, onward⟩ := cut.skip beyond
    obtain ⟨before, rfl, whole⟩ := here
    exact .keep (ih part onward ⟨before ++ [c], by simp, by simpa using whole⟩)
  | @broken offset state run rest spans blank whole breaks later ih =>
    obtain ⟨before, rfl, covers⟩ := here
    have onward : ∃ start : Text, start.length = before.length + run.length ∧
        start ++ rest = document.text := ⟨before ++ run, by simp, by simpa using covers⟩
    rw [List.map_cons] at part
    cases part with
    | cons _ part =>
      have beyond : ∀ edit ∈ taken, (before.length + run.length : Int) ≤ edit.start := by
        intro edit member
        obtain ⟨span, broken, rfl⟩ := List.mem_map.mp (part.subset member)
        have inside := later.bounds span broken
        change (before.length + run.length : Int) ≤ span.1
        omega
      obtain ⟨result, rfl, later⟩ := patched.skip beyond
      exact (ih part later onward).keep_run blank (ne_nil_of_breaks breaks)
    | cons_cons _ part =>
      have start : (rule.edit document (before.length, before.length + run.length)).start =
          before.length := rfl
      have stop : (rule.edit document (before.length, before.length + run.length)).stop =
          before.length + run.length := Int.natCast_add ..
      obtain ⟨result, rfl, later⟩ := patched.take start stop
      have replaced : (rule.edit document (before.length, before.length + run.length)).text =
          rule.mend run := by
        rw [edit, ← covers, slice_append]
      rw [replaced]
      exact .mend blank whole breaks (ih part later onward)

end Walk

namespace Mended

/-- A character that belongs to no run stays. -/
theorem solid {c : Char} (mended : rule.Mended state count (c :: rest) result)
    (solid : isTabOrSpace c = false) :
    ∃ later, result = c :: later ∧ rule.Mended (rule.next c) count rest later := by
  generalize whole : c :: rest = text at mended
  cases mended with
  | nil => cases whole
  | keep later =>
    cases whole
    exact ⟨_, rfl, later⟩
  | @mend state count run rest' _ blank _ breaks later =>
    obtain ⟨first, run, rfl⟩ := List.exists_cons_of_ne_nil (ne_nil_of_breaks breaks)
    obtain ⟨rfl, -⟩ := List.cons.inj whole
    exact nomatch solid.symm.trans (blank c List.mem_cons_self)

theorem eq_nil (mended : rule.Mended state count [] result) : result = [] := by
  generalize empty : ([] : Text) = text at mended
  cases mended with
  | nil => rfl
  | keep later => cases empty
  | mend blank whole breaks later =>
    exact absurd (List.append_eq_nil_iff.mp empty.symm).1 (ne_nil_of_breaks breaks)

theorem whole (mended : rule.Mended state count text result)
    (whole : text.takeWhile isTabOrSpace = []) : result.takeWhile isTabOrSpace = [] := by
  cases mended with
  | nil => exact whole
  | @keep _ _ c rest result later =>
    have solid : ¬ isTabOrSpace c = true := fun blank =>
      nomatch (List.takeWhile_cons_of_pos blank).symm.trans whole
    exact List.takeWhile_cons_of_neg solid
  | @mend _ _ run rest result blank own breaks later =>
    rw [(takeWhile_run blank own).1] at whole
    exact absurd whole (ne_nil_of_breaks breaks)

/-- The character that ends a text stays at its end, if it belongs to no run. -/
theorem getLast? {last : Char} (mended : rule.Mended state count text result)
    (ends : text.getLast? = some last) (solid : isTabOrSpace last = false) :
    result.getLast? = some last := by
  induction mended with
  | nil => exact ends
  | @keep state count c rest result later ih =>
    rw [List.getLast?_cons] at ends ⊢
    cases beyond : rest.getLast? with
    | some other =>
      rw [beyond] at ends
      rw [ih (beyond.trans ends)]
      rfl
    | none =>
      rw [beyond] at ends
      rw [List.getLast?_eq_none_iff] at beyond
      subst beyond
      have nothing := later.eq_nil
      subst nothing
      exact ends
  | @mend state count run rest result blank whole breaks later ih =>
    rw [List.getLast?_append] at ends ⊢
    cases beyond : rest.getLast? with
    | some other =>
      rw [beyond] at ends
      rw [ih (beyond.trans ends)]
      rfl
    | none =>
      rw [beyond] at ends
      exact nomatch solid.symm.trans (blank last (List.mem_of_getLast? ends))

theorem isTidy
    (solid : ∀ run, (∀ c ∈ run, isTabOrSpace c = true) → ∀ c ∈ rule.mend run, isTabOrSpace c = true)
    (mended : rule.Mended state count text result) (tidy : text.isTidy = true) :
    result.isTidy = true := by
  induction mended with
  | nil => exact tidy
  | @keep state count c rest result later ih =>
    simp only [Text.isTidy, Bool.and_eq_true, Bool.or_eq_true, bne_iff_ne, ne_eq,
      beq_iff_eq] at tidy ⊢
    refine ⟨tidy.1.imp_right fun head => ?_, ih tidy.2⟩
    obtain ⟨after, rfl⟩ := List.head?_eq_some_iff.mp head
    obtain ⟨onward, rfl, -⟩ := later.solid (by decide)
    rfl
  | mend spaces whole breaks later ih =>
    rw [Text.isTidy_append spaces] at tidy
    rw [Text.isTidy_append (solid _ spaces)]
    exact ih tidy

end Mended

/-- Whether replacing runs changes nothing about the others. -/
structure Sound (rule : RunRule) : Prop where
  blank : ∀ run, (∀ c ∈ run, isTabOrSpace c = true) → ∀ c ∈ rule.mend run, isTabOrSpace c = true
  keeps : ∀ {state : Bool} {count : Nat} {c : Char} {rest result : Text},
    Text.isTidy (c :: rest) = true → rule.Mended (rule.next c) count rest result →
    rule.breaks state ((c :: result).takeWhile isTabOrSpace)
        ((c :: result).dropWhile isTabOrSpace) =
      rule.breaks state ((c :: rest).takeWhile isTabOrSpace) ((c :: rest).dropWhile isTabOrSpace)
  mends : ∀ {state : Bool} {count place : Nat} {run rest result : Text},
    (∀ c ∈ run, isTabOrSpace c = true) → rest.takeWhile isTabOrSpace = [] →
    rule.breaks state run rest = true → rest.isTidy = true →
    rule.Mended (rule.next ' ') count rest result →
    rule.spansFrom place state (rule.mend run ++ result) =
      rule.spansFrom (place + (rule.mend run).length) (rule.next ' ') result

/-- So many runs fewer break a rule as were mended. -/
theorem Sound.length_spansFrom (sound : rule.Sound)
    (mended : rule.Mended state count text result) (tidy : text.isTidy = true)
    (offset place : Nat) :
    (rule.spansFrom place state result).length + count =
      (rule.spansFrom offset state text).length := by
  induction mended generalizing offset place with
  | nil => rfl
  | @keep state count c rest result later ih =>
    have others := ih (Bool.and_eq_true_iff.mp tidy).2 (offset + 1) (place + 1)
    rw [spansFrom, spansFrom, sound.keeps tidy later]
    split
    · simp only [List.length_cons]
      omega
    · exact others
  | @mend state count run rest result blank whole breaks later ih =>
    have tidy : rest.isTidy = true := (Text.isTidy_append blank) ▸ tidy
    rw [sound.mends blank whole breaks tidy later, spansFrom_broken blank whole breaks,
      List.length_cons, ← ih tidy (offset + run.length) (place + (rule.mend run).length)]
    omega

/-- The runs that break a rule stand apart. -/
theorem separate (rule : RunRule) (descriptor : Descriptor) (document : Document) :
    (rule.toRule descriptor).Separate document where
  path := fun _ => rfl
  within := fun span broken => by
    have inside := (walk rule 0 rule.start document.text).bounds span broken
    change ((0 : Nat) : Int) ≤ span.1 ∧ (span.1 : Int) ≤ span.2 ∧
      (span.2 : Int) ≤ (0 : Nat) + document.text.length
    omega
  behind := by
    refine List.pairwise_map.mpr ((walk rule 0 rule.start document.text).behind.imp ?_)
    intro a b behind
    change (a.1 : Int) < b.1 ∧ (a.2 : Int) ≤ b.1
    omega

/-- What is accepted for some runs lands, and so many of them are then mended. -/
theorem exists_mended (rule : RunRule) (descriptor : Descriptor) {chosen : List (Nat × Nat)}
    {edits : List TextEdit} (distinct : chosen.Nodup)
    (among : chosen ⊆ (rule.toRule descriptor).spans document.text)
    (accepts : TextEdit.Accepted (chosen.map ((rule.toRule descriptor).edit document)) edits) :
    ∃ count result, TextEdit.apply document.text edits = .ok result ∧
      rule.Mended rule.start count document.text result ∧ chosen.length ≤ count := by
  obtain ⟨taken, result, part, many, applied, patched⟩ :=
    (rule.separate descriptor document).exists_patched among accepts distinct
  exact ⟨taken.length, result, applied,
    (walk rule 0 rule.start document.text).mended part patched ⟨[], rfl, rfl⟩, many⟩

theorem lands (rule : RunRule) (descriptor : Descriptor) : (rule.toRule descriptor).Lands :=
  fun distinct among accepts =>
    let ⟨count, result, applied, mended, _⟩ := rule.exists_mended descriptor distinct among accepts
    ⟨result, applied, count, mended⟩

/-- A sound rule about runs is a lawful rule about texts. -/
theorem Sound.lawful (sound : rule.Sound) (descriptor : Descriptor) :
    (rule.toRule descriptor).Lawful where
  ascending := fun text => (walk rule 0 rule.start text).behind.imp And.left
  path := fun _ _ => rfl
  tidy := fun tidy ⟨_, mended⟩ => mended.isTidy sound.blank tidy
  lands := fun {document chosen edits} tidy distinct among accepts => by
    obtain ⟨count, result, applied, mended, many⟩ :=
      rule.exists_mended descriptor distinct among accepts
    have fewer := sound.length_spansFrom mended tidy 0 0
    refine ⟨result, applied, ⟨_, mended⟩, ?_⟩
    change (rule.spansFrom 0 rule.start result).length + chosen.length ≤
      (rule.spansFrom 0 rule.start document.text).length
    omega

end RunRule

end FixLoop
