import FixLoop.Proofs.Rules.EmbeddedStatement

/-!
Clearing embedded statements. If every finding is mended at once, none is left: behind each
semicolon at which some of them end there is then a blank line, even where only one of several edits
was taken, and no blank line makes a statement that was not followed closely into one that is.
-/

namespace FixLoop.EmbeddedStatement

open Literals

variable {whole text result : Text} {fixed : Nat → Bool} {document : Document}
  {edits : List TextEdit} {unit : SourceUnit}

/-- With a blank line behind every statement that was found, nothing is found any more. -/
theorem Respaced.spans_eq_nil (respaced : Respaced whole fixed .code text result)
    (mended : ∀ finding ∈ findings false (mask text), fixed finding.2.length = true) :
    spans result = [] := by
  have counted : (findings false (mask result)).length =
      (findings false (mask text)).countP fun finding => !fixed finding.2.length :=
    respaced.spaced.length_findings false
  have none : (findings false (mask text)).countP (fun finding => !fixed finding.2.length) = 0 :=
    List.countP_eq_zero.mpr fun finding found => by simp [mended finding found]
  rw [none, List.length_eq_zero_iff] at counted
  rw [spans, counted, List.map_nil]

/-- Edits that are accepted for all findings of a document clear it. -/
theorem exists_cleared
    (accepts : TextEdit.Accepted ((spans document.text).map (edit document)) edits) :
    ∃ result, TextEdit.apply document.text edits = .ok result ∧
      rule.mends document.text result ∧ spans result = [] := by
  obtain ⟨result, applied, respaced⟩ := exists_respaced (List.Subset.refl _) accepts
  refine ⟨result, applied, ⟨_, respaced⟩, respaced.spans_eq_nil ?_⟩
  intro (start, after) found
  exact isFixed_of_chosen (List.Subset.refl _) accepts found (List.mem_map_of_mem found)

/-- In a batch of all diagnostics, all findings of each document are chosen. -/
theorem chosen_of_perm {batch : List Diagnostic} (all : batch.Perm (rule.diagnostics unit))
    (member : document ∈ unit.documents) :
    rule.chosen batch document = rule.spans document.text := by
  refine List.filter_eq_self.mpr fun span broken => decide_eq_true ?_
  exact all.mem_iff.mpr (Rule.mem_diagnostics.mpr ⟨document, member, span, broken, rfl⟩)

/-- Edits that are accepted for all diagnostics of a unit clear it. -/
theorem exists_clear {batch : List Diagnostic} (distinct : unit.paths.Nodup)
    (all : batch.Perm (rule.diagnostics unit))
    (accepts : TextEdit.Accepted (batch.map (rule.editFor unit)) edits) :
    ∃ next, unit.withEdits edits = .ok next ∧ unit.Rewritten rule.mends next ∧
      rule.diagnostics next = [] := by
  obtain ⟨renew, clears, edited⟩ :=
    lawful.exists_withEdits distinct all.subset accepts fun document member edits accepts => by
      rw [chosen_of_perm all member] at accepts
      exact exists_cleared accepts
  refine ⟨_, edited, ⟨rfl, rfl, rfl, ?_⟩, Rule.diagnostics_eq_nil.mpr fun after member => ?_⟩
  · rw [List.forall₂_map_right_iff, List.forall₂_same]
    exact fun document member => ⟨rfl, (clears document member).1⟩
  · obtain ⟨document, among, rfl⟩ := List.mem_map.mp member
    exact (clears document among).2

variable {σ : Type}

/-- One pass is enough: for all that the analyzer reports of a unit, in any order, the fixer answers
with an action whose edits land, and in the unit that they lead to the analyzer reports nothing.
Only the white space behind some semicolons of code is then another. -/
theorem fixAll_clears {diagnostics batch : List Diagnostic} (distinct : unit.paths.Nodup)
    (reported : (analyzer : Analyzer σ).analyze unit = .answer diagnostics)
    (found : diagnostics ≠ []) (all : batch.Perm diagnostics) :
    ∃ action : FixAction,
      (∀ session : Session σ, ∃ journal,
        ((fixer : Fixer σ).fixAll
            { unit, id := descriptor.id, key := descriptor.id
              diagnostics := batch }).carryOut session =
          (.ok (some action), { session with journal })) ∧
      ∃ next, unit.withEdits action.edits = .ok next ∧ unit.Rewritten rule.mends next ∧
        (analyzer : Analyzer σ).analyze next = .answer [] := by
  obtain rfl : rule.diagnostics unit = diagnostics := Callback.answer.inj reported
  let context : FixAllContext :=
    { unit, id := descriptor.id, key := descriptor.id, diagnostics := batch }
  have some : context.diagnostics ≠ [] := fun none => found (List.nil_perm.mp (none ▸ all))
  have each : ∀ d ∈ context.diagnostics,
      Offers.Makes (offers : Offers σ) context (rule.editFor unit) d := by
    intro d member
    obtain ⟨document, present, span, broken, rfl⟩ := Rule.mem_diagnostics.mp (all.subset member)
    rw [Offers.Makes, Rule.editFor_report distinct present]
    exact ⟨rfl, _, offers_report distinct present broken⟩
  obtain ⟨action, -, accepts, answers⟩ := Offers.fixAll_of_makes some each
  obtain ⟨next, edited, rewritten, clear⟩ := exists_clear distinct all accepts
  exact ⟨action, answers, next, edited, rewritten, congrArg Callback.answer clear⟩

/-- A unit in which two headers share the end of one statement, and headers in a comment and in a
literal count for nothing. -/
def crowded : SourceUnit where
  id := "a"
  language := "c"
  documents := [⟨"a.c", "// if (p) q; r;\r\nif (a) b while (c) d(\"; if\"); e;\r\n".toList⟩,
    ⟨"b.c", "  for (;;)\n    f[1](); g();\n".toList⟩]

theorem fixAll_clears_crowded :
    crowded.paths.Nodup ∧ ∃ diagnostics : List Diagnostic,
      (analyzer : Analyzer Unit).analyze crowded = .answer diagnostics ∧
      diagnostics.map (·.location.stop) = [46, 46, 22] ∧
      ∃ action : FixAction,
        (∀ session : Session Unit, ∃ journal,
          ((fixer : Fixer Unit).fixAll
              { unit := crowded, id := descriptor.id, key := descriptor.id
                diagnostics := diagnostics.reverse }).carryOut session =
            (.ok (some action), { session with journal })) ∧
        ∃ next, crowded.withEdits action.edits = .ok next ∧ crowded.Rewritten rule.mends next ∧
          (analyzer : Analyzer Unit).analyze next = .answer [] := by
  have distinct : crowded.paths.Nodup := by decide
  have stops : (diagnostics crowded).map (·.location.stop) = [46, 46, 22] := by decide +kernel
  have found : diagnostics crowded ≠ [] := fun none => nomatch none ▸ stops
  exact ⟨distinct, _, rfl, stops,
    fixAll_clears distinct rfl found (List.reverse_perm (diagnostics crowded))⟩

end FixLoop.EmbeddedStatement
