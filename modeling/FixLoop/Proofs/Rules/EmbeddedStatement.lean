import FixLoop.Proofs.Rules.Keeper
import FixLoop.Proofs.Rules.Semicolons
import Mathlib.Data.List.TakeWhile

/-!
Embedded statements as a rule. The edit for a finding replaces the white space behind a semicolon of
code by a blank line and an indentation. Findings that end at one semicolon have edits that overlap,
so that one of them is enough for all; edits at different semicolons stand apart.
-/

namespace FixLoop.EmbeddedStatement

open Literals TextEdit

/-- What may be put behind a semicolon of a text: a blank line, and an indentation of the text. -/
inductive IsFilling (whole : Text) : Text → Prop where
  | fill {newline indentation : Text} (ends : newline = ['\n'] ∨ newline = ['\r', '\n'])
      (indents : ∃ offset, indentation = Text.indentation whole offset) :
    IsFilling whole (newline ++ newline ++ indentation)

/-- Whether a text is another one with the white space replaced behind some semicolons of code,
which are given by the lengths of what follows them. -/
inductive Respaced (whole : Text) (fixed : Nat → Bool) : Mode → Text → Text → Prop where
  | nil {mode : Mode} : Respaced whole fixed mode [] []
  | keep {mode : Mode} {c : Char} {rest result : Text} (kept : fixed rest.length = false)
      (later : Respaced whole fixed (mode.next c rest.head?) rest result) :
    Respaced whole fixed mode (c :: rest) (c :: result)
  | gap {gap filling rest result : Text} {c : Char}
      (spaced : fixed (gap ++ c :: rest).length = true)
      (layout : ∀ other ∈ gap, isLayout other = true) (solid : isLayout c = false)
      (fills : IsFilling whole filling)
      (later : Respaced whole fixed .code (c :: rest) result) :
    Respaced whole fixed .code (';' :: (gap ++ c :: rest)) (';' :: (filling ++ result))

/-- The edit for a finding. -/
def edit (document : Document) (span : Nat × Nat) : TextEdit where
  path := document.path
  start := span.2
  stop := nextStatement document.text span.2
  text := Text.newline document.text ++ Text.newline document.text ++
    Text.indentation document.text span.1

def rule : Rule where
  descriptor
  spans
  edit
  mends text result := ∃ fixed, Respaced text fixed .code text result

variable {whole text result rest other filling gap : Text} {fixed : Nat → Bool} {mode : Mode}
  {offset : Nat} {edits : List TextEdit} {document : Document} {span : Nat × Nat}

theorem blank_indentation (text : Text) (offset : Int) :
    ∀ c ∈ Text.indentation text offset, isTabOrSpace c = true :=
  fun _ member => List.mem_takeWhile_imp member

theorem IsFilling.isBreak (fills : IsFilling whole filling) : IsBreak filling := by
  obtain ⟨ends, place, rfl⟩ := fills
  have blank : ∀ c ∈ Text.indentation whole place, isLayout c = true := by
    intro c member
    have blank : (c == ' ' || c == '\t') = true := blank_indentation whole place c member
    rw [isLayout, blank]
    rfl
  constructor
  · intro c member
    rcases List.mem_append.mp member with newline | indentation
    · rcases ends with rfl | rfl
      · simp only [List.mem_append, List.mem_singleton, or_self] at newline
        rw [newline]
        rfl
      · simp only [List.mem_append, List.mem_cons, List.not_mem_nil, or_false, or_self] at newline
        rcases newline with rfl | rfl <;> rfl
    · exact blank c indentation
  · rw [List.count_append]
    rcases ends with rfl | rfl
    · exact Nat.le_add_right 2 _
    · exact Nat.le_add_right 2 _

namespace Respaced

theorem head? (respaced : Respaced whole fixed mode text result) : result.head? = text.head? := by
  cases respaced <;> rfl

/-- The masks of such texts differ in the same places. -/
theorem spaced (respaced : Respaced whole fixed mode text result) :
    Spaced fixed (maskFrom mode text) (maskFrom mode result) := by
  induction respaced with
  | nil => exact .nil
  | keep kept later ih =>
    rw [maskFrom, maskFrom, later.head?]
    exact .keep ((length_maskFrom _ _).symm ▸ kept) ih
  | @gap gap filling rest result c spaced layout solid fills later ih =>
    have breaks := fills.isBreak
    have masked (text : Text) : maskFrom .code (';' :: text) = ';' :: maskFrom .code text := rfl
    rw [masked, masked, maskFrom_append layout, maskFrom_append breaks.layout]
    refine .gap ?_ layout breaks ih
    rwa [List.length_append, length_maskFrom, ← List.length_append]

end Respaced

/-! ### The edits -/

/-- Whether an edit is the one behind the semicolon of a text that starts at an offset, with the
rest of the text behind the semicolon. -/
structure Fills (whole : Text) (mode : Mode) (offset : Nat) (text rest : Text) (edit : TextEdit) :
    Prop where
  behind : Behind mode text rest
  start : edit.start + rest.length = offset + text.length
  stop : edit.stop = edit.start + (rest.takeWhile isLayout).length
  followed : rest.dropWhile isLayout ≠ []
  fills : IsFilling whole edit.text

namespace Fills

variable {c : Char} {edit : TextEdit}

theorem lt_start (place : Fills whole mode offset text rest edit) :
    (offset : Int) < edit.start := by
  have start := place.start
  have shorter := place.behind.length_lt
  omega

/-- An edit that starts behind the first character stands behind a semicolon there. -/
theorem first (place : Fills whole mode offset (c :: text) rest edit)
    (own : edit.start = offset + 1) : mode = .code ∧ c = ';' ∧ rest = text := by
  have start := place.start
  rw [List.length_cons] at start
  cases place.behind with
  | here => exact ⟨rfl, rfl, rfl⟩
  | later behind =>
    have shorter := behind.length_lt
    omega

theorem later (place : Fills whole mode offset (c :: text) rest edit)
    (other : edit.start ≠ offset + 1) :
    Fills whole (mode.next c text.head?) (offset + 1) text rest edit := by
  have start := place.start
  rw [List.length_cons] at start
  cases place.behind with
  | here => omega
  | later behind => exact ⟨behind, by omega, place.stop, place.followed, place.fills⟩

theorem of_append (layout : ∀ c ∈ gap, isLayout c = true)
    (place : Fills whole .code offset (gap ++ text) rest edit) :
    Fills whole .code (offset + gap.length) text rest edit := by
  have start := place.start
  rw [List.length_append] at start
  exact ⟨place.behind.of_append layout, by omega, place.stop, place.followed, place.fills⟩

/-- An edit replaces white space before something else. -/
theorem exists_gap (place : Fills whole mode offset text rest edit) :
    ∃ gap c after, rest = gap ++ c :: after ∧ (∀ other ∈ gap, isLayout other = true) ∧
      isLayout c = false ∧ edit.stop = edit.start + gap.length := by
  obtain ⟨c, after, onward⟩ := List.exists_cons_of_ne_nil place.followed
  have solid := List.head?_dropWhile_not isLayout rest
  rw [onward] at solid
  refine ⟨rest.takeWhile isLayout, c, after, ?_, fun _ member => List.mem_takeWhile_imp member,
    by simpa using solid, place.stop⟩
  rw [← onward, List.takeWhile_append_dropWhile]

end Fills

namespace Fills

variable {a b : TextEdit}

theorem within (place : Fills whole mode offset text rest a) : Within offset text.length a := by
  have bound := place.lt_start
  have start := place.start
  have stop := place.stop
  have inside := (List.takeWhile_sublist isLayout (l := rest)).length_le
  unfold Within
  omega

theorem stop_lt (first : Fills whole mode offset text rest a)
    (second : Fills whole mode offset text other b) (sooner : a.start < b.start) :
    a.stop < b.start := by
  have start := first.start
  have next := second.start
  have ends := first.behind.length_takeWhile second.behind (by omega)
  rw [first.stop]
  omega

theorem stop_eq (first : Fills whole mode offset text rest a)
    (second : Fills whole mode offset text other b) (same : a.start = b.start) :
    a.stop = b.stop := by
  have start := first.start
  have next := second.start
  have left := (List.suffix_cons ';' _).trans first.behind.suffix
  have right := (List.suffix_cons ';' _).trans second.behind.suffix
  have one : rest = other := by
    refine List.IsSuffix.eq_of_length ?_ (by omega)
    exact List.suffix_of_suffix_length_le left right (by omega)
  rw [first.stop, second.stop, same, one]

/-- Edits overlap only behind one semicolon, and there they do. -/
theorem overlaps_iff (first : Fills whole mode offset text rest a)
    (second : Fills whole mode offset text other b) (path : a.path = b.path) :
    a.overlaps b = true ↔ a.start = b.start := by
  have apart := apart_iff path
  have bound := first.within.2.1
  have limit := second.within.2.1
  rw [← Bool.not_eq_false, show (a.overlaps b = false) = Apart a b from rfl, apart]
  rcases lt_trichotomy a.start b.start with sooner | same | later
  · have ends := first.stop_lt second sooner
    omega
  · have ends := first.stop_eq second same
    omega
  · have ends := second.stop_lt first later
    omega

end Fills

/-- Whether edits are those behind some semicolons of a text that starts at an offset, in order. -/
structure Fitting (whole : Text) (fixed : Nat → Bool) (mode : Mode) (offset : Nat) (text : Text)
    (edits : List TextEdit) : Prop where
  places : ∀ edit ∈ edits, ∃ rest, Fills whole mode offset text rest edit
  ascending : edits.Pairwise fun a b => a.start < b.start
  fixes : ∀ n < text.length,
    fixed n = true ↔ ∃ edit ∈ edits, edit.start + n = offset + text.length

namespace Fitting

variable {c : Char} {edit : TextEdit} {more : List TextEdit}

theorem lt_start (fitting : Fitting whole fixed mode offset text edits) :
    ∀ edit ∈ edits, (offset : Int) < edit.start := by
  intro edit member
  obtain ⟨rest, place⟩ := fitting.places edit member
  exact place.lt_start

theorem eq_nil (fitting : Fitting whole fixed mode offset [] edits) : edits = [] := by
  refine List.eq_nil_iff_forall_not_mem.mpr fun edit member => ?_
  obtain ⟨rest, place⟩ := fitting.places edit member
  exact nomatch place.behind

/-- The edit that starts behind the first character is the first one. -/
theorem exists_more (fitting : Fitting whole fixed mode offset text edits) (member : edit ∈ edits)
    (start : edit.start = offset + 1) : ∃ more, edits = edit :: more := by
  obtain ⟨first, more, rfl⟩ := List.exists_cons_of_ne_nil (List.ne_nil_of_mem member)
  refine ⟨more, ?_⟩
  rcases List.mem_cons.mp member with rfl | later
  · rfl
  · have below := (List.pairwise_cons.mp fitting.ascending).1 edit later
    have bound := fitting.lt_start first List.mem_cons_self
    omega

/-- Edits that do not start behind the first character are edits of the rest. -/
theorem keep (fitting : Fitting whole fixed mode offset (c :: text) edits)
    (others : ∀ edit ∈ edits, edit.start ≠ offset + 1) :
    fixed text.length = false ∧
      Fitting whole fixed (mode.next c text.head?) (offset + 1) text edits := by
  have fixes := fitting.fixes
  rw [List.length_cons] at fixes
  refine ⟨?_, fun edit member => ?_, fitting.ascending, fun n bound => ?_⟩
  · by_contra some
    obtain ⟨edit, member, start⟩ := (fixes _ (Nat.lt_succ_self _)).mp (by simpa using some)
    exact others edit member (by omega)
  · obtain ⟨rest, place⟩ := fitting.places edit member
    exact ⟨rest, place.later (others edit member)⟩
  · rw [fixes n (Nat.lt_succ_of_lt bound)]
    exact exists_congr fun edit => and_congr_right fun _ => by omega

/-- Edits after one that starts behind the first character are edits of what follows its gap. -/
theorem take
    (fitting : Fitting whole fixed .code offset (';' :: (gap ++ text)) (edit :: more))
    (start : edit.start = offset + 1) (layout : ∀ c ∈ gap, isLayout c = true) :
    fixed (gap ++ text).length = true ∧
      Fitting whole fixed .code (offset + 1 + gap.length) text more := by
  obtain ⟨below, ascending⟩ := List.pairwise_cons.mp fitting.ascending
  have fixes := fitting.fixes
  have total : (';' :: (gap ++ text)).length = gap.length + text.length + 1 := by
    rw [List.length_cons, List.length_append]
  rw [total] at fixes
  refine ⟨?_, fun other member => ?_, ascending, fun n bound => ?_⟩
  · rw [List.length_append]
    exact (fixes _ (Nat.lt_succ_self _)).mpr ⟨edit, List.mem_cons_self, by omega⟩
  · obtain ⟨rest, place⟩ := fitting.places other (List.mem_cons_of_mem _ member)
    have sooner := below other member
    exact ⟨rest, (place.later (by omega)).of_append layout⟩
  · rw [fixes n (by omega)]
    constructor
    · rintro ⟨other, member, same⟩
      rcases List.mem_cons.mp member with rfl | member
      · omega
      · exact ⟨other, member, by omega⟩
    · rintro ⟨other, member, same⟩
      exact ⟨other, List.mem_cons_of_mem _ member, by omega⟩

end Fitting

/-- Edits behind semicolons, applied in order, respace a text. -/
theorem respaced_of_patched (patched : Patched offset text edits result)
    (fitting : Fitting whole fixed mode offset text edits) :
    Respaced whole fixed mode text result := by
  induction size : text.length using Nat.strong_induction_on
    generalizing mode offset text edits result with
  | _ size ih =>
    subst size
    have beyond := fitting.lt_start
    cases text with
    | nil =>
      obtain rfl := fitting.eq_nil
      rw [patched.eq_of_nil]
      exact .nil
    | cons c text =>
      have cut : Patched offset ([c] ++ text) edits result := patched
      obtain ⟨later, rfl, onward⟩ := cut.skip fun edit member => by
        have bound := beyond edit member
        rw [List.length_singleton]
        omega
      by_cases first : ∃ edit ∈ edits, edit.start = offset + 1
      · obtain ⟨edit, member, start⟩ := first
        obtain ⟨more, rfl⟩ := fitting.exists_more member start
        obtain ⟨rest, place⟩ := fitting.places edit List.mem_cons_self
        obtain ⟨rfl, rfl, rfl⟩ := place.first start
        obtain ⟨gap, d, after, rfl, layout, solid, stop⟩ := place.exists_gap
        obtain ⟨spaced, fitting⟩ := fitting.take start layout
        obtain ⟨final, rfl, beyond⟩ := onward.take (by simpa using start) (by simp; omega)
        rw [List.singleton_append]
        refine .gap spaced layout solid place.fills (ih _ ?_ beyond fitting rfl)
        simp only [List.length_cons, List.length_append]
        omega
      · obtain ⟨kept, fitting⟩ := fitting.keep fun edit member own => first ⟨edit, member, own⟩
        exact .keep kept (ih _ (Nat.lt_succ_self _) onward fitting rfl)

/-! ### The rule -/

/-- The edit for a finding stands behind a semicolon of code. -/
theorem exists_fills {start after : Text} (found : (start, after) ∈ findings false (mask text)) :
    ∃ rest, after.length = rest.length ∧ Behind .code text rest ∧
      rest.dropWhile isLayout ≠ [] := by
  obtain ⟨-, ends, followed⟩ := mem_findings found
  have reached : Mode.code.IsReached := trivial
  obtain ⟨rest, behind, rfl⟩ := exists_behind reached ends
  refine ⟨rest, length_maskFrom _ _, behind, fun nothing => ?_⟩
  have layout : ∀ c ∈ rest, isLayout c = true := by
    rw [List.dropWhile_eq_nil_iff] at nothing
    exact nothing
  have same : maskFrom .code rest = rest := by
    have masked : maskFrom .code (rest ++ []) = rest ++ maskFrom .code [] := maskFrom_append layout
    rwa [List.append_nil, maskFrom, List.append_nil] at masked
  rw [isFollowed, same, nothing] at followed
  cases followed

theorem isFilling_edit (document : Document) (span : Nat × Nat) :
    IsFilling document.text (edit document span).text := by
  refine .fill ?_ ⟨_, rfl⟩
  unfold Text.newline
  split
  · exact .inr rfl
  · exact .inl rfl

theorem fills_of_mem (broken : span ∈ spans document.text) :
    ∃ rest, Fills document.text .code 0 document.text rest (edit document span) := by
  obtain ⟨⟨start, after⟩, found, rfl⟩ := List.mem_map.mp broken
  obtain ⟨rest, same, behind, followed⟩ := exists_fills found
  have shorter := behind.length_lt
  have dropped : document.text.drop (document.text.length - after.length) = rest := by
    obtain ⟨before, whole⟩ := (List.suffix_cons _ _).trans behind.suffix
    rw [← whole, same, List.length_append, Nat.add_sub_cancel, List.drop_left]
  refine ⟨rest, behind, ?_, ?_, followed, isFilling_edit _ _⟩
  · change ((document.text.length - after.length : Nat) : Int) + rest.length =
      (0 : Nat) + document.text.length
    omega
  · change nextStatement document.text (document.text.length - after.length : Nat) =
      ((document.text.length - after.length : Nat) : Int) + (rest.takeWhile isLayout).length
    rw [nextStatement, if_neg (by omega), Int.toNat_natCast, dropped]

/-- Whether one of some edits starts where so many characters of a text are left. -/
def isFixed (edits : List TextEdit) (text : Text) (left : Nat) : Bool :=
  edits.any fun edit => edit.start + left == text.length

theorem isFixed_eq_true {left : Nat} :
    isFixed edits text left = true ↔ ∃ edit ∈ edits, edit.start + left = (text.length : Int) := by
  simp only [isFixed, List.any_eq_true, beq_iff_eq]

section

variable {chosen : List (Nat × Nat)} (among : chosen ⊆ spans document.text)
  (accepts : Accepted (chosen.map (edit document)) edits)

include among accepts

theorem fills_of_accepted : ∀ edit ∈ edits, edit.path = document.path ∧
    ∃ rest, Fills document.text .code 0 document.text rest edit := by
  intro accepted member
  obtain ⟨span, broken, rfl⟩ := List.mem_map.mp (accepts.subset member)
  exact ⟨rfl, fills_of_mem (among broken)⟩

theorem fitting_of_accepted :
    Fitting document.text (isFixed edits document.text) .code 0 document.text (sorted edits) := by
  have permuted := sorted_perm edits
  have known := fills_of_accepted among accepts
  refine ⟨fun edit member => (known edit (permuted.mem_iff.mp member)).2, ?_, fun n _ => ?_⟩
  · have apart := (permuted.pairwise_iff Apart.symm).mpr accepts.apart
    refine (apart.and (pairwise_sorted edits)).imp_of_mem ?_
    intro a b first second ⟨apart, le⟩
    obtain ⟨own, rest, place⟩ := known a (permuted.mem_iff.mp first)
    obtain ⟨same, other, next⟩ := known b (permuted.mem_iff.mp second)
    have differ : a.start ≠ b.start := fun start =>
      nomatch ((place.overlaps_iff next (own.trans same.symm)).mpr start).symm.trans apart
    rw [isLE_order] at le
    omega
  · rw [isFixed_eq_true]
    simp only [permuted.mem_iff]
    exact exists_congr fun edit => and_congr_right fun _ => by omega

/-- What is accepted for some findings lands, and respaces the text. -/
theorem exists_respaced : ∃ result, TextEdit.apply document.text edits = .ok result ∧
    Respaced document.text (isFixed edits document.text) .code document.text result := by
  have known := fills_of_accepted among accepts
  have within : ∀ edit ∈ edits, Within 0 document.text.length edit := fun edit member =>
    let ⟨_, _, place⟩ := known edit member
    place.within
  obtain ⟨result, applied, patched⟩ := exists_apply within accepts.apart
    fun a first b second => (known a first).1.trans (known b second).1.symm
  exact ⟨result, applied, respaced_of_patched patched (fitting_of_accepted among accepts)⟩

/-- Of each chosen finding, the edit is made or another one at the same semicolon. -/
theorem isFixed_of_chosen {start after : Text}
    (found : (start, after) ∈ findings false (mask document.text))
    (member : (document.text.length - start.length, document.text.length - after.length) ∈ chosen) :
    isFixed edits document.text after.length = true := by
  obtain ⟨taken, accepted, covered⟩ := accepts.covers _ (List.mem_map_of_mem member)
  obtain ⟨path, other, next⟩ := fills_of_accepted among accepts taken accepted
  obtain ⟨rest, place⟩ := fills_of_mem (among member)
  have same : (edit document (document.text.length - start.length,
      document.text.length - after.length)).start = taken.start := by
    rcases covered with rfl | overlap
    · rfl
    · exact (place.overlaps_iff next path.symm).mp overlap
  obtain ⟨-, ends, -⟩ := mem_findings found
  have shorter := ends.length_le
  rw [List.length_cons, mask, length_maskFrom] at shorter
  refine isFixed_eq_true.mpr ⟨taken, accepted, ?_⟩
  rw [← same]
  change ((document.text.length - after.length : Nat) : Int) + after.length = document.text.length
  omega

theorem length_chosen (distinct : chosen.Nodup) : chosen.length ≤
    (findings false (mask document.text)).countP fun finding =>
      isFixed edits document.text finding.2.length := by
  let toSpan (finding : Text × Text) : Nat × Nat :=
    (document.text.length - finding.1.length, document.text.length - finding.2.length)
  have all : chosen ⊆ ((findings false (mask document.text)).filter fun finding =>
      isFixed edits document.text finding.2.length).map toSpan := by
    intro span member
    obtain ⟨finding, found, rfl⟩ := List.mem_map.mp (among member)
    exact List.mem_map.mpr ⟨finding, List.mem_filter.mpr
      ⟨found, isFixed_of_chosen among accepts found member⟩, rfl⟩
  have fewer := (List.subperm_of_subset distinct all).length_le
  rwa [List.length_map, ← List.countP_eq_length_filter] at fewer

end

theorem isTidy_filling (fills : IsFilling whole filling) (tidy : text.isTidy = true) :
    (filling ++ text).isTidy = true := by
  obtain ⟨ends, place, rfl⟩ := fills
  have indented : (Text.indentation whole place ++ text).isTidy = true := by
    rwa [Text.isTidy_append (blank_indentation whole place)]
  rw [List.append_assoc, List.append_assoc]
  rcases ends with rfl | rfl <;> simpa [Text.isTidy] using indented

theorem Respaced.isTidy (respaced : Respaced whole fixed mode text result)
    (tidy : text.isTidy = true) : result.isTidy = true := by
  induction respaced with
  | nil => rfl
  | keep kept later ih =>
    obtain ⟨head, tidy⟩ := Bool.and_eq_true_iff.mp tidy
    rw [Text.isTidy, later.head?, head, ih tidy]
    rfl
  | gap spaced layout solid fills later ih =>
    exact isTidy_filling fills (ih (Text.isTidy_of_append (Bool.and_eq_true_iff.mp tidy).2))

theorem Respaced.getLast? (respaced : Respaced whole fixed mode text result) :
    result.getLast? = text.getLast? := by
  induction respaced with
  | nil => rfl
  | keep kept later ih => rw [List.getLast?_cons, List.getLast?_cons, ih]
  | @gap _ _ rest result _ spaced layout solid fills later ih =>
    have filled : result ≠ [] := by
      rintro rfl
      exact nomatch later.head?
    rw [← List.cons_append, ← List.cons_append, List.getLast?_append_of_ne_nil _ filled,
      List.getLast?_append_of_ne_nil _ (List.cons_ne_nil _ _), ih]

theorem lands : rule.Lands := fun _ among accepts =>
  let ⟨result, applied, respaced⟩ := exists_respaced among accepts
  ⟨result, applied, _, respaced⟩

theorem lawful : rule.Lawful where
  ascending := fun text => by
    refine List.pairwise_map.mpr ((pairwise_findings false (mask text)).imp_of_mem ?_)
    rintro ⟨a, _⟩ ⟨b, _⟩ first second shorter
    have bound := (mem_findings first).1.length_le
    rw [mask, length_maskFrom] at bound
    dsimp only at shorter ⊢
    omega
  path := fun _ _ => rfl
  tidy := fun tidy ⟨_, respaced⟩ => respaced.isTidy tidy
  lands := fun {document chosen edits} _ distinct among accepts => by
    obtain ⟨result, applied, respaced⟩ := exists_respaced among accepts
    have counted : (findings false (mask result)).length =
        (findings false (mask document.text)).countP fun finding =>
          !isFixed edits document.text finding.2.length := respaced.spaced.length_findings false
    have fewer := length_chosen among accepts distinct
    have all := List.length_eq_countP_add_countP
      (l := findings false (mask document.text))
      fun finding => isFixed edits document.text finding.2.length
    simp only [Bool.not_eq_true, Bool.decide_eq_false] at all
    refine ⟨result, applied, ⟨_, respaced⟩, ?_⟩
    change (List.map _ _).length + chosen.length ≤ (List.map _ _).length
    rw [List.length_map, List.length_map, all, counted]
    omega

/-- For what breaks the rule one edit is offered. -/
theorem offers_report {σ : Type} {unit : SourceUnit} (distinct : unit.paths.Nodup)
    (member : document ∈ unit.documents) (broken : span ∈ rule.spans document.text) :
    (offers : Offers σ) (rule.report document span) unit =
      [.answer (some {
        title := descriptor.title, key := descriptor.id, edits := [rule.edit document span] })] := by
  have found : unit.document? (rule.report document span).location.path = some document :=
    SourceUnit.document?_of_mem distinct member
  obtain ⟨rest, place⟩ := fills_of_mem broken
  have inside : nextStatement document.text span.2 < document.text.length := by
    have start := place.start
    have stop : nextStatement document.text span.2 = _ := place.stop
    have shorter : (rest.takeWhile isLayout).length < rest.length := by
      have split := List.takeWhile_append_dropWhile (p := isLayout) (l := rest)
      have some := List.length_pos_of_ne_nil place.followed
      rw [← congrArg List.length split, List.length_append]
      omega
    omega
  change offers _ unit = _
  unfold offers
  rw [found]
  change (if (span.2 : Int) + document.text.length < 0 then _ else _) = _
  rw [if_neg (by omega), edit?]
  change List.map _ (Option.toList (if nextStatement document.text span.2 < document.text.length
    then _ else _)) = _
  rw [if_pos inside]
  rfl

variable {σ : Type}

def keeper : Keeper σ where
  rule
  analyzer
  fixer
  lawful
  severity := rfl
  declares := rfl
  analyzes := fun _ => rfl
  fixableIds := rfl
  able := rfl
  offers := fun _ tidy _ member _ broken => offers_report tidy.distinct member broken
  fixAll := rfl

end FixLoop.EmbeddedStatement
