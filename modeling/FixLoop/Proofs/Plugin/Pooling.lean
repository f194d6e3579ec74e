import FixLoop.Proofs.Plugin.Merging
import FixLoop.Proofs.Session.Selecting

/-!
Merging the fixes of a batch, whatever edits they make. Of each diagnostic the first fix with the
key of the batch is taken up, in order, and kept whole unless one of its edits overlaps an edit that
is kept already. So no two of the merged edits overlap, they can be applied, and some fix is made if
there is one with edits.
-/

namespace FixLoop

open Selection TextEdit

variable {σ α β : Type}

theorem Callback.Gives.andThen {callback : Callback σ α} {next : α → Callback σ β} {value : α}
    {last : β} (first : callback.Gives value) (rest : (next value).Gives last) :
    (callback.andThen next).Gives last := by
  intro session
  obtain ⟨answered, same, standing⟩ := first session
  rw [carryOut_andThen]
  cases ran : callback.carryOut session with
  | mk answer middle =>
    rw [ran] at answered same standing
    cases answered
    obtain ⟨ended, kept, still⟩ := rest middle
    exact ⟨ended, kept.trans same, still.trans standing⟩

theorem Candidates.withKey_gives {candidates : Candidates σ} {actions : List FixAction}
    (yields : Yields candidates actions) (key : String) :
    (candidates.withKey key).Gives (actions.find? (·.key == key)) := by
  induction yields with
  | nil => exact fun _ => ⟨rfl, rfl, rfl⟩
  | stop answers => exact answers.andThen fun _ => ⟨rfl, rfl, rfl⟩
  | @more _ _ action actions answers _ ih =>
    refine answers.andThen ?_
    dsimp only
    split
    · next own =>
      have found : (action :: actions).find? (·.key == key) = some action :=
        List.find?_cons_of_pos (beq_iff_eq.mpr own)
      rw [found]
      exact fun _ => ⟨rfl, rfl, rfl⟩
    · next other =>
      have missed : (action :: actions).find? (·.key == key) = actions.find? (·.key == key) :=
        List.find?_cons_of_neg (by simpa using other)
      rwa [missed]

/-- The edits of some fixes, one after another. -/
def allEdits (fixes : List FixAction) : List TextEdit := fixes.flatMap (·.edits)

/-- Which fixes are kept if each in turn is kept unless one of its edits overlaps an edit of those
kept before it. -/
inductive Greedy : List FixAction → List FixAction → Prop where
  | nil : Greedy [] []
  | keep {fixes kept : List FixAction} {fix : FixAction} (earlier : Greedy fixes kept)
      (free : ∀ edit ∈ fix.edits, ∀ other ∈ allEdits kept, Apart edit other) :
    Greedy (fixes ++ [fix]) (kept ++ [fix])
  | wait {fixes kept : List FixAction} {fix : FixAction} (earlier : Greedy fixes kept)
      (clash : ∃ edit ∈ fix.edits, ∃ other ∈ allEdits kept, edit.overlaps other = true) :
    Greedy (fixes ++ [fix]) kept

/-- Whether the edits of a fix lie in documents of a unit and do not overlap. -/
structure FixAction.Fits (fix : FixAction) (unit : SourceUnit) : Prop where
  apart : fix.edits.Pairwise Apart
  within : ∀ edit ∈ fix.edits, ∃ document ∈ unit.documents,
    document.path = edit.path ∧ Within 0 document.text.length edit

theorem allEdits_append (fixes others : List FixAction) :
    allEdits (fixes ++ others) = allEdits fixes ++ allEdits others := List.flatMap_append

theorem allEdits_singleton (fix : FixAction) : allEdits [fix] = fix.edits := by simp [allEdits]

theorem mem_allEdits {fixes : List FixAction} {edit : TextEdit} :
    edit ∈ allEdits fixes ↔ ∃ fix ∈ fixes, edit ∈ fix.edits := List.mem_flatMap

theorem allEdits_eq_nil {fixes : List FixAction} :
    allEdits fixes = [] ↔ ∀ fix ∈ fixes, fix.edits = [] := List.flatMap_eq_nil_iff

namespace Greedy

variable {fixes kept : List FixAction} {unit : SourceUnit}

theorem sublist (greedy : Greedy fixes kept) : kept.Sublist fixes := by
  induction greedy with
  | nil => exact .slnil
  | keep earlier free ih => exact ih.append (.refl _)
  | wait earlier clash ih => exact ih.trans (List.sublist_append_left _ _)

theorem apart (greedy : Greedy fixes kept)
    (each : ∀ fix ∈ fixes, fix.edits.Pairwise Apart) : (allEdits kept).Pairwise Apart := by
  induction greedy with
  | nil => exact .nil
  | keep earlier free ih =>
    have before := ih fun fix member => each fix (List.mem_append_left _ member)
    rw [allEdits_append, allEdits_singleton]
    refine List.pairwise_append.mpr ⟨before, each _ (by simp), fun other member edit own => ?_⟩
    exact (free edit own other member).symm
  | wait earlier clash ih =>
    exact ih fun fix member => each fix (List.mem_append_left _ member)

/-- The first fix with edits overlaps nothing. -/
theorem exists_mem (greedy : Greedy fixes kept) (some : ∃ fix ∈ fixes, fix.edits ≠ []) :
    ∃ fix ∈ kept, fix.edits ≠ [] := by
  induction greedy with
  | nil => exact some
  | @keep fixes kept fix earlier free ih =>
    obtain ⟨one, member, edits⟩ := some
    rcases List.mem_append.mp member with old | new
    · obtain ⟨other, among, nonempty⟩ := ih ⟨one, old, edits⟩
      exact ⟨other, List.mem_append_left _ among, nonempty⟩
    · exact ⟨one, List.mem_append_right _ new, edits⟩
  | wait earlier clash ih =>
    obtain ⟨-, -, other, member, -⟩ := clash
    obtain ⟨fix, among, own⟩ := mem_allEdits.mp member
    exact ⟨fix, among, List.ne_nil_of_mem own⟩

theorem allEdits_eq_nil (greedy : Greedy fixes kept) :
    allEdits kept = [] ↔ ∀ fix ∈ fixes, fix.edits = [] := by
  constructor
  · intro nothing fix member
    by_contra edits
    obtain ⟨other, among, nonempty⟩ := greedy.exists_mem ⟨fix, member, edits⟩
    exact nonempty (FixLoop.allEdits_eq_nil.mp nothing other among)
  · intro nothing
    exact FixLoop.allEdits_eq_nil.mpr fun fix member =>
      nothing fix (greedy.sublist.subset member)

end Greedy

namespace Merge

/-- Takes in fixes, one after another. -/
def addAll (merge : Merge) (fixes : List FixAction) : Merge :=
  fixes.foldl (fun merge fix => merge.add fix.edits) merge

theorem clashes_iff {merge : Merge} {edits : List TextEdit} : merge.clashes edits = true ↔
    ∃ edit ∈ edits, ∃ other ∈ merge.accepted, edit.overlaps other = true := by
  simp [clashes]

theorem greedy_addAll {merge : Merge} {earlier kept : List FixAction}
    (greedy : Greedy earlier kept) (same : merge.accepted = allEdits kept)
    (fixes : List FixAction) :
    ∃ all, Greedy (earlier ++ fixes) all ∧ (merge.addAll fixes).accepted = allEdits all := by
  induction fixes generalizing merge earlier kept with
  | nil => exact ⟨kept, by rwa [List.append_nil], same⟩
  | cons fix rest ih =>
    rw [← List.singleton_append, ← List.append_assoc]
    by_cases clash : merge.clashes fix.edits = true
    · have added : (merge.add fix.edits).accepted = allEdits kept := by
        rw [add, if_pos clash, same]
      exact ih (.wait greedy (same ▸ clashes_iff.mp clash)) added
    · have added : (merge.add fix.edits).accepted = allEdits (kept ++ [fix]) := by
        rw [add, if_neg clash, allEdits_append, allEdits_singleton, same]
      refine ih (.keep greedy fun edit own other member => ?_) added
      by_contra overlap
      have overlaps : edit.overlaps other = true := by simpa [Apart] using overlap
      exact clash (clashes_iff.mpr ⟨edit, own, other, same ▸ member, overlaps⟩)

end Merge

namespace Offers

variable {offers : Offers σ} {context : FixAllContext}
  {candidates : Diagnostic → List FixAction}

/-- The fixes that are taken up for some diagnostics of a batch. -/
def taken (candidates : Diagnostic → List FixAction) (context : FixAllContext)
    (diagnostics : List Diagnostic) : List FixAction :=
  (diagnostics.filter (·.id == context.id)).filterMap fun diagnostic =>
    (candidates diagnostic).find? (·.key == context.key)

theorem taken_cons_of_own {diagnostic : Diagnostic} {rest : List Diagnostic}
    (own : diagnostic.id = context.id) :
    taken candidates context (diagnostic :: rest) =
      ((candidates diagnostic).find? (·.key == context.key)).toList ++
        taken candidates context rest := by
  rw [taken, List.filter_cons_of_pos (by simpa using own), List.filterMap_cons]
  split <;> simp [taken, *]

theorem merge_gives {diagnostics : List Diagnostic}
    (yields : ∀ diagnostic ∈ diagnostics,
      Yields (offers diagnostic context.unit) (candidates diagnostic)) (merged : Merge) :
    (offers.merge context diagnostics merged).Gives
      (merged.addAll (taken candidates context diagnostics)) := by
  induction diagnostics generalizing merged with
  | nil => exact fun _ => ⟨rfl, rfl, rfl⟩
  | cons diagnostic rest ih =>
    have later := ih fun other member => yields other (List.mem_cons_of_mem _ member)
    unfold merge
    split
    · next own =>
      have found := Candidates.withKey_gives (yields diagnostic List.mem_cons_self) context.key
      refine found.andThen ?_
      rw [taken_cons_of_own own]
      cases (candidates diagnostic).find? (·.key == context.key) with
      | none => exact later merged
      | some fix => exact later (merged.add fix.edits)
    · next other =>
      rw [taken, List.filter_cons_of_neg (by simpa using other)]
      exact later merged

/-- What combining a batch gives, and which fixes it keeps. -/
theorem fixAll_gives
    (yields : ∀ diagnostic ∈ context.diagnostics,
      Yields (offers diagnostic context.unit) (candidates diagnostic)) :
    ∃ kept, Greedy (taken candidates context context.diagnostics) kept ∧
      (offers.fixAll context).Gives (if allEdits kept = [] then none else some
        { title := "Fix all '" ++ context.id ++ "'", key := context.key
          edits := allEdits kept }) := by
  obtain ⟨kept, greedy, same⟩ : ∃ all, Greedy ([] ++ _) all ∧ _ :=
    @Merge.greedy_addAll {} [] [] .nil rfl (taken candidates context context.diagnostics)
  refine ⟨kept, greedy, (merge_gives yields {}).andThen ?_⟩
  simp only [Merge.action?, same, List.isEmpty_iff]
  split <;> exact fun _ => ⟨rfl, rfl, rfl⟩

end Offers

/-- Edits that lie in documents of a unit and do not overlap can be applied to it. -/
theorem SourceUnit.exists_withEdits {unit : SourceUnit} {edits : List TextEdit}
    (distinct : unit.paths.Nodup) (apart : edits.Pairwise Apart)
    (within : ∀ edit ∈ edits, ∃ document ∈ unit.documents,
      document.path = edit.path ∧ Within 0 document.text.length edit) :
    ∃ next, unit.withEdits edits = .ok next := by
  have each : ∀ document ∈ unit.documents, ∃ result,
      TextEdit.apply document.text (editsOf edits document.path) = .ok result := by
    intro document member
    have own : ∀ edit ∈ editsOf edits document.path, edit.path = document.path :=
      fun edit among => beq_iff_eq.mp (List.mem_filter.mp among).2
    have inside : ∀ edit ∈ editsOf edits document.path, Within 0 document.text.length edit := by
      intro edit among
      obtain ⟨other, present, path, lies⟩ := within edit (List.mem_filter.mp among).1
      have same := path.trans (own edit among)
      rwa [List.inj_on_of_nodup_map distinct present member same] at lies
    obtain ⟨result, applied, -⟩ := exists_apply inside (apart.filter _)
      fun a first b second => (own a first).trans (own b second).symm
    exact ⟨result, applied⟩
  choose! renew applies using each
  refine ⟨_, withEdits_eq distinct (fun edit given => ?_) applies⟩
  obtain ⟨document, member, path, -⟩ := within edit given
  exact path ▸ List.mem_map_of_mem member

/-- If each of the fixes for a batch can be applied, so can what they are combined to, which is all
or nothing of each of them, in order, and is nothing only if none of them has edits. -/
theorem Offers.fixAll_pools {offers : Offers σ} {context : FixAllContext}
    {candidates : Diagnostic → List FixAction}
    (yields : ∀ diagnostic ∈ context.diagnostics,
      Yields (offers diagnostic context.unit) (candidates diagnostic))
    (distinct : context.unit.paths.Nodup)
    (fits : ∀ fix ∈ taken candidates context context.diagnostics, fix.Fits context.unit) :
    ∃ (kept : List FixAction) (combined : Option FixAction),
      Greedy (taken candidates context context.diagnostics) kept ∧
      (offers.fixAll context).Gives combined ∧
      (combined = none ↔
        ∀ fix ∈ taken candidates context context.diagnostics, fix.edits = []) ∧
      (∀ action, combined = some action → action.key = context.key ∧
        action.edits = allEdits kept ∧ ∃ fix ∈ kept, fix.edits ≠ []) ∧
      (allEdits kept).Pairwise Apart ∧
      ∃ next, context.unit.withEdits (allEdits kept) = .ok next := by
  obtain ⟨kept, greedy, gives⟩ := fixAll_gives yields
  have apart := greedy.apart fun fix member => (fits fix member).apart
  refine ⟨kept, _, greedy, gives, ?_, ?_, apart, ?_⟩
  · rw [← greedy.allEdits_eq_nil]
    simp
  · intro action acted
    split at acted
    · cases acted
    · next edits =>
      cases acted
      refine ⟨rfl, rfl, ?_⟩
      by_contra nothing
      exact edits (allEdits_eq_nil.mpr (by simpa using nothing))
  · refine SourceUnit.exists_withEdits distinct apart fun edit member => ?_
    obtain ⟨fix, among, own⟩ := mem_allEdits.mp member
    exact (fits fix (greedy.sublist.subset among)).within edit own

namespace Pairing

/-! Fixes of more than one edit. -/

def edit (start stop : Int) (letter : Char) : TextEdit :=
  { path := "a", start, stop, text := [letter] }

def unit : SourceUnit := Letters.source ['p', 'p', 'p']

/-- The edits for a finding; those for the first and the last one overlap. -/
def edits (diagnostic : Diagnostic) : List TextEdit :=
  if diagnostic.location.start = 0 then [edit 0 1 'q', edit 2 3 'q']
  else if diagnostic.location.start = 1 then [edit 1 2 'r']
  else [edit 3 3 's', edit 2 3 's']

def fixOf (diagnostic : Diagnostic) : FixAction :=
  { title := "Replace it", key := "k", edits := edits diagnostic }

def offers : Offers Unit := fun diagnostic _ => [.answer (some (fixOf diagnostic))]

def context : FixAllContext where
  unit
  id := Letters.descriptor.id
  key := "k"
  diagnostics := Letters.diagnostics Letters.descriptor .analyzer 'p' unit

/-- Of the last fix neither edit is made, though one of them overlaps nothing. -/
theorem fixAll_pools_paired :
    (offers.fixAll context).Gives (some
        { title := "Fix all 'X1'", key := "k"
          edits := [edit 0 1 'q', edit 2 3 'q', edit 1 2 'r'] }) ∧
      ∃ next, unit.withEdits [edit 0 1 'q', edit 2 3 'q', edit 1 2 'r'] = .ok next := by
  have yields : ∀ diagnostic ∈ context.diagnostics,
      Yields (offers diagnostic context.unit) [fixOf diagnostic] :=
    fun _ _ => .more (fun _ => ⟨rfl, rfl, rfl⟩) .nil
  have fits : ∀ fix ∈ Offers.taken (fun diagnostic => [fixOf diagnostic]) context
      context.diagnostics, fix.edits.Pairwise Apart ∧ ∀ edit ∈ fix.edits,
        ∃ document ∈ context.unit.documents,
          document.path = edit.path ∧ Within 0 document.text.length edit := by
    unfold Apart Within
    decide +kernel
  obtain ⟨kept, combined, -, gives, -, acts, -, lands⟩ := Offers.fixAll_pools yields (by decide)
    fun fix member => ⟨(fits fix member).1, (fits fix member).2⟩
  have evaluated : ((offers.fixAll context).carryOut (Letters.session [])).1 = .ok (some
      { title := "Fix all 'X1'", key := "k"
        edits := [edit 0 1 'q', edit 2 3 'q', edit 1 2 'r'] }) := by decide +kernel
  obtain rfl := Except.ok.inj ((gives _).1.symm.trans evaluated)
  rw [← (acts _ rfl).2.1] at lands
  exact ⟨gives, lands⟩

end Pairing

end FixLoop
