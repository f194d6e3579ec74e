import FixLoop.Proofs.Rules.Balancing

/-!
Bracket balance against a grammar. Scanning a text for brackets comes to the same as scanning its
mask without any regard to literals and comments. What waits behind a part of the mask are its open
brackets, with a balanced word behind each of them; so the scan goes through exactly if the word of
brackets is balanced, and otherwise it stops where that word can no longer be continued to a
balanced one, or else reports the last bracket that is left open.
-/

namespace FixLoop.Brackets

open Literals

/-- Words of brackets that pair up, kind by kind, and nest. -/
inductive Balanced : Text → Prop where
  | nil : Balanced []
  | nest {opener closer : Char} {inner rest : Text} (pair : closing? opener = some closer)
      (within : Balanced inner) (later : Balanced rest) :
    Balanced (opener :: (inner ++ closer :: rest))

def isBracket (c : Char) : Bool := (closing? c).isSome || isClosing c

/-- The brackets of a masked text, in order. -/
def word (masked : Text) : Text := masked.filter isBracket

/-- Whether a word of brackets starts a balanced one. -/
def CanBalance (brackets : Text) : Prop := ∃ rest, Balanced (brackets ++ rest)

/-- Whether a closing bracket of a masked text is the first that fits nothing before it. -/
structure StopsAt (masked : Text) (offset : Nat) : Prop where
  closes : ∃ c, masked[offset]? = some c ∧ isClosing c = true
  before : CanBalance (word (masked.take offset))
  stops : ¬ CanBalance (word (masked.take (offset + 1)))

/-- Whether an opening bracket stands at an offset of a masked text. -/
def OpensAt (masked : Text) (offset : Nat) : Prop :=
  ∃ c, masked[offset]? = some c ∧ (closing? c).isSome = true

/-- Whether the opening bracket at an offset of a masked text is closed: what stands between the two
is balanced. -/
def IsClosed (masked : Text) (offset : Nat) : Prop :=
  ∃ opener closer inner rest, closing? opener = some closer ∧ Balanced inner ∧
    word (masked.drop offset) = opener :: (inner ++ closer :: rest)

/-- Whether an opening bracket of a masked text is the last that is never closed. -/
structure IsLastOpen (masked : Text) (offset : Nat) : Prop where
  opens : OpensAt masked offset
  unclosed : ¬ IsClosed masked offset
  last : ∀ later, offset < later → OpensAt masked later → IsClosed masked later

variable {mode : Literals.Mode} {text masked more : Text} {c opener closer : Char} {offset : Nat}
  {pending next : List Pending} {imbalance : Imbalance} {waiting others final : List Char}
  {brackets : Text}

/-! ### Scanning the mask -/

/-- The brackets that wait behind a masked text which starts at an offset. -/
def pendingAfter : Nat → List Pending → Text → Except Imbalance (List Pending)
  | _, pending, [] => .ok pending
  | offset, pending, c :: rest =>
    (step offset c pending).bind fun pending => pendingAfter (offset + 1) pending rest

/-- What is reported when a scan has come to its end. -/
def verdict : Except Imbalance (List Pending) → Option Imbalance
  | .error imbalance => some imbalance
  | .ok pending => pending.head?.map fun last => .unclosed last.opener last.closer last.offset

theorem closing?_cases (pair : closing? opener = some closer) :
    opener = '(' ∧ closer = ')' ∨ opener = '[' ∧ closer = ']' ∨
      opener = '\x7b' ∧ closer = '\x7d' := by
  unfold closing? at pair
  split at pair
  · exact .inl ⟨‹_›, (Option.some.inj pair).symm⟩
  split at pair
  · exact .inr (.inl ⟨‹_›, (Option.some.inj pair).symm⟩)
  split at pair
  · exact .inr (.inr ⟨‹_›, (Option.some.inj pair).symm⟩)
  · cases pair

theorem isClosing_of_pair (pair : closing? opener = some closer) : isClosing closer = true := by
  rcases closing?_cases pair with ⟨-, rfl⟩ | ⟨-, rfl⟩ | ⟨-, rfl⟩ <;> rfl

theorem closing?_of_isClosing (closes : isClosing c = true) : closing? c = none := by
  simp only [isClosing, Bool.or_eq_true, beq_iff_eq, or_assoc] at closes
  rcases closes with rfl | rfl | rfl <;> rfl

theorem isBracket_of_isClosing (closes : isClosing c = true) : isBracket c = true := by
  rw [isBracket, closes, Bool.or_true]

theorem isBracket_of_pair (pair : closing? opener = some closer) : isBracket opener = true := by
  rw [isBracket, pair]
  rfl

theorem step_of_plain (plain : isBracket c = false) (offset : Nat) (pending : List Pending) :
    step offset c pending = .ok pending := by
  obtain ⟨opens, closes⟩ := Bool.or_eq_false_iff.mp plain
  unfold step
  rw [Option.isSome_eq_false_iff, Option.isNone_iff_eq_none] at opens
  rw [opens, closes]
  rfl

/-- What the mask shows of literals and comments is no bracket. -/
theorem isBracket_of_seen (reached : mode.IsReached) (other : mode ≠ .code) {ahead : Option Char}
    (seen : mode.hides c ahead = false) : isBracket c = false := by
  cases mode with
  | code => exact absurd rfl other
  | literal quote =>
    have delimits : c = '\n' ∨ c = quote := by
      by_contra inside
      simp [Mode.hides, not_or.mp inside] at seen
    have quoted : isQuote quote = true := reached
    simp only [isQuote, Bool.or_eq_true, beq_iff_eq] at quoted
    rcases delimits with rfl | rfl
    · rfl
    · rcases quoted with rfl | rfl <;> rfl
  | escaped quote =>
    obtain rfl : c = '\n' := by simpa [Mode.hides] using seen
    rfl
  | comment =>
    obtain rfl : c = '\n' := by simpa [Mode.hides] using seen
    rfl

/-- Outside of code, and where a comment starts, the mask shows no bracket. -/
theorem step_masked (reached : mode.IsReached) (offset : Nat) (pending : List Pending)
    (ahead : Option Char) :
    step offset (if mode.hides c ahead then ' ' else c) pending =
      if mode = .code then step offset c pending else .ok pending := by
  have blank : step offset ' ' pending = .ok pending := rfl
  by_cases code : mode = .code
  · subst code
    rw [if_pos rfl]
    split
    · rename_i comment
      obtain ⟨slash, -⟩ := Bool.and_eq_true_iff.mp comment
      rw [blank, beq_iff_eq.mp slash]
      rfl
    · rfl
  · rw [if_neg code]
    split
    · exact blank
    · rename_i seen
      exact step_of_plain (isBracket_of_seen reached code (Bool.eq_false_iff.mpr seen)) ..

/-- Scanning a text and scanning its mask come to the same. -/
theorem check_eq (reached : mode.IsReached) (offset : Nat) (pending : List Pending) :
    check offset mode pending text =
      verdict (pendingAfter offset pending (maskFrom mode text)) := by
  induction text generalizing offset mode pending with
  | nil => rfl
  | cons c rest ih =>
    rw [check, maskFrom, pendingAfter, step_masked reached]
    cases (if mode = .code then step offset c pending else .ok pending) with
    | error imbalance => rfl
    | ok later => exact ih (reached.next c rest.head?) (offset + 1) later

theorem imbalance?_eq (text : Text) :
    imbalance? text = verdict (pendingAfter 0 [] (mask text)) := by
  have reached : Mode.code.IsReached := trivial
  exact check_eq reached 0 []

theorem pendingAfter_concat (masked : Text) (c : Char) (offset : Nat) (pending : List Pending) :
    pendingAfter offset pending (masked ++ [c]) =
      (pendingAfter offset pending masked).bind (step (offset + masked.length) c) := by
  induction masked generalizing offset pending with
  | nil =>
    cases stepped : step offset c pending <;> simp [pendingAfter, stepped, Except.bind]
  | cons first rest ih =>
    rw [List.cons_append, pendingAfter, pendingAfter]
    cases step offset first pending with
    | error imbalance => rfl
    | ok later =>
      refine (ih (offset + 1) later).trans ?_
      rw [List.length_cons, Nat.add_assoc, Nat.add_comm 1]
      rfl

/-! ### The grammar -/

theorem Balanced.append (first : Balanced masked) (second : Balanced more) :
    Balanced (masked ++ more) := by
  induction first with
  | nil => exact second
  | nest pair within later _ ih =>
    rw [List.cons_append, List.append_assoc, List.cons_append]
    exact .nest pair within ih

/-- Whether some brackets are open behind a masked text: behind the last of them the word of
brackets is balanced, and so it is between any two of them and before the first. -/
inductive Waits : Text → List Pending → Prop where
  | none {masked : Text} (balanced : Balanced (word masked)) : Waits masked []
  | opened {before after : Text} {opener closer : Char} {pending : List Pending}
      (earlier : Waits before pending) (pair : closing? opener = some closer)
      (balanced : Balanced (word after)) :
    Waits (before ++ opener :: after) (⟨opener, closer, before.length⟩ :: pending)

theorem word_append (masked more : Text) : word (masked ++ more) = word masked ++ word more :=
  List.filter_append ..

theorem word_cons_of_bracket (bracket : isBracket c = true) :
    word (c :: masked) = c :: word masked := List.filter_cons_of_pos bracket

theorem Waits.append (waits : Waits masked pending) (balanced : Balanced (word more)) :
    Waits (masked ++ more) pending := by
  cases waits with
  | none before =>
    refine .none ?_
    rw [word_append]
    exact before.append balanced
  | opened earlier pair after =>
    rw [List.append_assoc, List.cons_append]
    refine .opened earlier pair ?_
    rw [word_append]
    exact after.append balanced

/-- One more character opens a bracket, closes the last open one, or is none. -/
theorem Waits.concat (waits : Waits masked pending)
    (stepped : step masked.length c pending = .ok next) : Waits (masked ++ [c]) next := by
  unfold step at stepped
  split at stepped
  · rename_i closer pair
    cases stepped
    exact .opened waits pair .nil
  rename_i shut
  split at stepped
  · rename_i closes
    cases waits with
    | none balanced => cases stepped
    | @opened before after opener closer earlier waits pair balanced =>
      dsimp only at stepped
      split at stepped
      · rename_i same
        subst same
        cases stepped
        -- The innermost bracket and what is inside it are balanced now, as a whole.
        have whole : word (opener :: (after ++ [closer])) = opener :: (word after ++ [closer]) := by
          rw [word_cons_of_bracket (isBracket_of_pair pair), word_append,
            word_cons_of_bracket (isBracket_of_isClosing closes)]
          rfl
        rw [List.append_assoc, List.cons_append]
        refine waits.append ?_
        rw [whole]
        exact .nest pair balanced .nil
      · cases stepped
  · rename_i closes
    cases stepped
    have plain : isBracket c = false := by
      rw [isBracket, shut, Bool.eq_false_iff.mpr closes]
      rfl
    have none : word [c] = [] := List.filter_cons_of_neg (Bool.eq_false_iff.mp plain)
    refine waits.append ?_
    rw [none]
    exact .nil

theorem waits_of_pendingAfter (scanned : pendingAfter 0 [] masked = .ok pending) :
    Waits masked pending := by
  induction masked using List.reverseRecOn generalizing pending with
  | nil =>
    cases scanned
    exact .none .nil
  | append_singleton masked c ih =>
    rw [pendingAfter_concat, Nat.zero_add] at scanned
    cases earlier : pendingAfter 0 [] masked with
    | error imbalance =>
      rw [earlier] at scanned
      cases scanned
    | ok waiting =>
      rw [earlier] at scanned
      exact (ih earlier).concat scanned

/-- A scan stops at a character behind which nothing can wait. -/
theorem exists_of_pendingAfter_error (scanned : pendingAfter 0 [] masked = .error imbalance) :
    ∃ before c after pending, masked = before ++ c :: after ∧
      pendingAfter 0 [] before = .ok pending ∧
      step before.length c pending = .error imbalance := by
  induction masked using List.reverseRecOn with
  | nil => cases scanned
  | append_singleton masked c ih =>
    rw [pendingAfter_concat, Nat.zero_add] at scanned
    cases earlier : pendingAfter 0 [] masked with
    | error fault =>
      rw [earlier] at scanned
      obtain ⟨before, d, after, pending, rfl, ran, stopped⟩ := ih (earlier.trans scanned)
      exact ⟨before, d, after ++ [c], pending, by simp, ran, stopped⟩
    | ok pending =>
      rw [earlier] at scanned
      exact ⟨masked, c, [], pending, rfl, earlier, scanned⟩

/-! ### What a word makes wait -/

/-- The partners that are waited for behind a word of brackets. -/
def awaits (waiting : List Char) (brackets : Text) : Option (List Char) :=
  brackets.foldlM (fun waiting c => await c waiting) waiting

theorem awaits_cons (waiting : List Char) (c : Char) (brackets : Text) :
    awaits waiting (c :: brackets) = (await c waiting).bind fun next => awaits next brackets := rfl

theorem awaits_append (waiting : List Char) (brackets more : Text) :
    awaits waiting (brackets ++ more) =
      (awaits waiting brackets).bind fun next => awaits next more :=
  List.foldlM_append

theorem await_of_pair (pair : closing? opener = some closer) (waiting : List Char) :
    await opener waiting = some (closer :: waiting) := by
  unfold await
  rw [pair]

theorem await_of_isClosing (closes : isClosing c = true) (waiting : List Char) :
    await c (c :: waiting) = some waiting := by
  unfold await
  rw [closing?_of_isClosing closes, closes]
  dsimp only
  rw [if_pos rfl, if_pos rfl]

theorem await_nil_of_isClosing (closes : isClosing c = true) : await c [] = none := by
  unfold await
  rw [closing?_of_isClosing closes, closes]
  rfl

theorem Balanced.awaits_eq (balanced : Balanced masked) (waiting : List Char) :
    awaits waiting masked = some waiting := by
  induction balanced generalizing waiting with
  | nil => rfl
  | nest pair within later first second =>
    rw [awaits_cons, await_of_pair pair, Option.bind_some, awaits_append, first, Option.bind_some,
      awaits_cons, await_of_isClosing (isClosing_of_pair pair), Option.bind_some, second]

theorem awaits_of_pendingAfter (offset : Nat) (pending : List Pending) :
    awaits (pending.map (·.closer)) (word masked) =
      (pendingAfter offset pending masked).toOption.map (·.map (·.closer)) := by
  induction masked generalizing offset pending with
  | nil => rfl
  | cons c rest ih =>
    rw [pendingAfter]
    cases bracket : isBracket c with
    | false =>
      rw [step_of_plain bracket, word, List.filter_cons_of_neg (Bool.eq_false_iff.mp bracket)]
      exact ih (offset + 1) pending
    | true =>
      rw [word_cons_of_bracket bracket, awaits_cons, await_eq offset]
      cases step offset c pending with
      | error imbalance => rfl
      | ok later => exact ih (offset + 1) later

theorem awaits_eq_nil : awaits [] (word masked) = some [] ↔ pendingAfter 0 [] masked = .ok [] := by
  have scanned : awaits [] (word masked) =
      (pendingAfter 0 [] masked).toOption.map (·.map (·.closer)) := awaits_of_pendingAfter 0 []
  rw [scanned]
  cases pendingAfter 0 [] masked with
  | error imbalance => exact iff_of_false nofun nofun
  | ok pending => cases pending <;> simp [Except.toOption]

/-- Nothing waits behind a text exactly if its word of brackets is balanced. -/
theorem pendingAfter_eq_nil : pendingAfter 0 [] masked = .ok [] ↔ Balanced (word masked) := by
  constructor
  · intro ran
    cases waits_of_pendingAfter ran with
    | none balanced => exact balanced
  · exact fun balanced => awaits_eq_nil.mp (balanced.awaits_eq [])

theorem balanced_of_awaits (none : awaits [] (word masked) = some []) : Balanced (word masked) :=
  pendingAfter_eq_nil.mp (awaits_eq_nil.mp none)

/-! ### Where a scan stops -/

theorem Waits.closing (waits : Waits masked pending) :
    ∀ c ∈ pending.map (·.closer), isClosing c = true := by
  induction waits with
  | none balanced => exact nofun
  | opened earlier pair balanced ih =>
    exact List.forall_mem_cons.mpr ⟨isClosing_of_pair pair, ih⟩

theorem awaits_self (closing : ∀ c ∈ waiting, isClosing c = true) :
    awaits waiting waiting = some [] := by
  induction waiting with
  | nil => rfl
  | cons c rest ih =>
    obtain ⟨first, later⟩ := List.forall_mem_cons.mp closing
    rw [awaits_cons, await_of_isClosing first]
    exact ih later

/-- What a scan went through can be continued, by what waits. -/
theorem canBalance_of_pendingAfter (ran : pendingAfter 0 [] masked = .ok pending) :
    CanBalance (word masked) := by
  have closing := (waits_of_pendingAfter ran).closing
  have scanned : awaits [] (word masked) = _ := awaits_of_pendingAfter 0 []
  rw [ran] at scanned
  have closers : word (pending.map (·.closer)) = pending.map (·.closer) :=
    List.filter_eq_self.mpr fun c member => isBracket_of_isClosing (closing c member)
  refine ⟨pending.map (·.closer), ?_⟩
  rw [← closers, ← word_append]
  refine balanced_of_awaits ?_
  rw [word_append, closers, awaits_append, scanned]
  exact awaits_self closing

theorem stands_behind (before : Text) (c : Char) (after : Text) :
    (before ++ c :: after)[before.length]? = some c := by
  rw [List.getElem?_append_right (Nat.le_refl _), Nat.sub_self]
  rfl

theorem stopsAt_of_error (scanned : pendingAfter 0 [] masked = .error imbalance) :
    StopsAt masked imbalance.offset := by
  obtain ⟨before, c, after, pending, rfl, ran, stopped⟩ := exists_of_pendingAfter_error scanned
  have stuck : await c (pending.map (·.closer)) = none := by
    rw [await_eq before.length, stopped]
    rfl
  obtain ⟨closes, rfl⟩ : isClosing c = true ∧ imbalance = .unexpected c before.length := by
    unfold step at stopped
    split at stopped
    · cases stopped
    split at stopped
    · rename_i closes
      refine ⟨closes, ?_⟩
      split at stopped
      · split at stopped <;> cases stopped
        rfl
      · cases stopped
        rfl
    · cases stopped
  have waited : awaits [] (word before) = _ := awaits_of_pendingAfter 0 []
  rw [ran] at waited
  have stands : (before ++ c :: after)[before.length]? = some c := stands_behind ..
  refine ⟨⟨c, stands, closes⟩, ?_, ?_⟩
  · rw [Imbalance.offset, List.take_left]
    exact canBalance_of_pendingAfter ran
  · rintro ⟨rest, balanced⟩
    have through := balanced.awaits_eq []
    have taken : (before ++ c :: after).take (before.length + 1) = before ++ [c] :=
      List.take_length_add_append 1
    rw [Imbalance.offset, taken, word_append, word_cons_of_bracket (isBracket_of_isClosing closes),
      List.append_assoc, awaits_append, waited] at through
    have none : awaits (pending.map (·.closer)) (c :: (word [] ++ rest)) = none := by
      rw [awaits_cons, stuck]
      rfl
    exact nomatch none.symm.trans through

/-- One more bracket closes what is waited for, if nothing else is, or leaves it waited for. -/
theorem await_append (ran : await c (waiting ++ closer :: others) = some final) :
    waiting = [] ∧ c = closer ∧ final = others ∨
      ∃ next, await c waiting = some next ∧ final = next ++ closer :: others := by
  unfold await at ran ⊢
  cases pair : closing? c with
  | some partner =>
    rw [pair] at ran
    exact .inr ⟨partner :: waiting, rfl, (Option.some.inj ran).symm⟩
  | none =>
    rw [pair] at ran
    dsimp only at ran ⊢
    cases closes : isClosing c with
    | false =>
      rw [closes] at ran
      exact .inr ⟨waiting, rfl, (Option.some.inj ran).symm⟩
    | true =>
      rw [closes, if_pos rfl] at ran
      rw [if_pos rfl]
      cases waiting with
      | nil =>
        obtain ⟨same, rest⟩ := Option.ite_none_right_eq_some.mp ran
        exact .inl ⟨rfl, same.symm, (Option.some.inj rest).symm⟩
      | cons first waiting =>
        obtain ⟨same, rest⟩ := Option.ite_none_right_eq_some.mp ran
        exact .inr ⟨waiting, if_pos same, (Option.some.inj rest).symm⟩

/-- What is not waited for any more behind a word of brackets, some bracket of it has closed. -/
theorem exists_closer (ran : awaits (waiting ++ closer :: others) brackets = some final)
    (fewer : final.length ≤ others.length) :
    ∃ inner rest, brackets = inner ++ closer :: rest ∧ awaits waiting inner = some [] := by
  induction brackets generalizing waiting with
  | nil =>
    obtain rfl := Option.some.inj ran
    rw [List.length_append, List.length_cons] at fewer
    omega
  | cons c rest ih =>
    rw [awaits_cons, Option.bind_eq_some_iff] at ran
    obtain ⟨next, first, later⟩ := ran
    rcases await_append first with ⟨rfl, rfl, -⟩ | ⟨onward, stepped, rfl⟩
    · exact ⟨[], rest, rfl, rfl⟩
    · obtain ⟨inner, tail, rfl, closed⟩ := ih later
      refine ⟨c :: inner, tail, rfl, ?_⟩
      rw [awaits_cons, stepped]
      exact closed

/-- In a balanced word every opening bracket is closed. -/
theorem isClosed_of_balanced (balanced : Balanced (word masked)) (opens : OpensAt masked offset) :
    IsClosed masked offset := by
  obtain ⟨c, stands, pair⟩ := opens
  obtain ⟨closer, pair⟩ := Option.isSome_iff_exists.mp pair
  obtain ⟨inside, rfl⟩ := List.getElem?_eq_some_iff.mp stands
  have behind : word (masked.drop offset) =
      masked[offset] :: word (masked.drop (offset + 1)) := by
    rw [List.drop_eq_getElem_cons inside, word_cons_of_bracket (isBracket_of_pair pair)]
  have whole := balanced.awaits_eq []
  rw [← List.take_append_drop offset masked, word_append, behind, awaits_append,
    Option.bind_eq_some_iff] at whole
  obtain ⟨waiting, -, later⟩ := whole
  rw [awaits_cons, await_of_pair pair, Option.bind_some, ← List.nil_append (closer :: waiting)]
    at later
  obtain ⟨inner, rest, split, closed⟩ := exists_closer later (Nat.zero_le _)
  have brackets : word inner = inner := List.filter_eq_self.mpr fun c member => by
    have among : c ∈ word (masked.drop (offset + 1)) := split ▸ List.mem_append_left _ member
    exact (List.mem_filter.mp among).2
  refine ⟨_, closer, inner, rest, pair, ?_, behind.trans (by rw [split])⟩
  rw [← brackets] at closed ⊢
  exact balanced_of_awaits closed

theorem isLastOpen_of_ok {last : Pending} (ran : pendingAfter 0 [] masked = .ok (last :: pending)) :
    IsLastOpen masked last.offset := by
  cases waits_of_pendingAfter ran with
  | @opened before after opener closer _ earlier pair balanced =>
    have stands : (before ++ opener :: after)[before.length]? = some opener := stands_behind ..
    refine ⟨⟨opener, stands, Option.isSome_of_eq_some pair⟩, ?_, fun later behind opens => ?_⟩
    · rintro ⟨_, partner, inner, rest, paired, within, split⟩
      rw [List.drop_left, word_cons_of_bracket (isBracket_of_pair pair)] at split
      obtain ⟨-, split⟩ := List.cons.inj split
      have through := balanced.awaits_eq []
      rw [split, awaits_append, within.awaits_eq, Option.bind_some, awaits_cons,
        await_nil_of_isClosing (isClosing_of_pair paired)] at through
      cases through
    · obtain ⟨distance, rfl⟩ := Nat.exists_eq_add_of_lt behind
      obtain ⟨c, there, bracket⟩ := opens
      rw [Nat.add_assoc, List.getElem?_append_right (Nat.le_add_right ..), Nat.add_sub_cancel_left,
        List.getElem?_cons_succ] at there
      have closed := isClosed_of_balanced balanced ⟨c, there, bracket⟩
      unfold IsClosed at closed ⊢
      rwa [Nat.add_assoc, List.drop_length_add_append, List.drop_succ_cons]

/-! ### The verdict -/

/-- A text is refused either where a closing bracket fits nothing or, when none does that, where the
last bracket stands that is left open. -/
theorem imbalance?_cases (text : Text) :
    imbalance? text = none ∧ Balanced (word (mask text)) ∨
      ∃ imbalance, imbalance? text = some imbalance ∧ ¬ Balanced (word (mask text)) ∧
        (StopsAt (mask text) imbalance.offset ∨
          CanBalance (word (mask text)) ∧ IsLastOpen (mask text) imbalance.offset) := by
  rw [imbalance?_eq, ← pendingAfter_eq_nil]
  cases ran : pendingAfter 0 [] (mask text) with
  | error imbalance => exact .inr ⟨imbalance, rfl, nofun, .inl (stopsAt_of_error ran)⟩
  | ok pending =>
    cases pending with
    | nil => exact .inl ⟨rfl, rfl⟩
    | cons last others =>
      refine .inr ⟨_, rfl, nofun, .inr ⟨canBalance_of_pendingAfter ran, ?_⟩⟩
      exact isLastOpen_of_ok ran

open Compilers in
/-- Each document of a unit is judged by the word of its brackets: balanced, it is passed over, and
otherwise it gets one error over one character, at the first closing bracket behind which the word
starts no balanced one or, when there is none, at the last opening bracket that is never closed. -/
theorem compile_judges {σ : Type} (unit : SourceUnit) :
    (Compilers.brackets : Compiler σ).compile unit =
        .answer (unit.documents.filterMap imbalanceDiagnostic?) ∧
      ∀ document,
        imbalanceDiagnostic? document = none ∧ Balanced (word (mask document.text)) ∨
        ∃ (diagnostic : Diagnostic) (offset : Nat),
          imbalanceDiagnostic? document = some diagnostic ∧
          ¬ Balanced (word (mask document.text)) ∧
          diagnostic.severity = .error ∧
          diagnostic.location =
            Location.ofSpan document.path document.text offset (offset + 1) ∧
          (StopsAt (mask document.text) offset ∨
            CanBalance (word (mask document.text)) ∧ IsLastOpen (mask document.text) offset) := by
  refine ⟨rfl, fun document => ?_⟩
  unfold imbalanceDiagnostic?
  rcases imbalance?_cases document.text with
    ⟨fine, balanced⟩ | ⟨imbalance, stops, unbalanced, place⟩
  · rw [fine]
    exact .inl ⟨rfl, balanced⟩
  · rw [stops]
    exact .inr ⟨_, imbalance.offset, rfl, unbalanced, rfl, rfl, place⟩

/-- A bracket in a literal or a comment counts as little as one behind an escaped quote. -/
example : imbalance? "f('(', \"\\\")\", [0]) // )\n) x".toList = some (.unexpected ')' 24) := by
  decide

end FixLoop.Brackets
