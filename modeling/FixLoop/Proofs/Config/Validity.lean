import FixLoop.Config
import FixLoop.Proofs.Succeeding

/-!
Which options make a configuration. Every option is read on its own, the two limits are numbers in
their range, and no override that is looked at is empty. Of two overrides with one identifier only
that of the action is looked at, so the one of the fixer may be empty.
-/

namespace FixLoop

namespace Config

/-- The value of an option, or what stands for it where it is not given. -/
def given (options : Options) (name : String) (default : Value) : Value :=
  (options.lookup name).getD default

/-- Whether neither the identifier of an override nor what it asks for is empty. -/
def IsFilled (entry : String × String) : Prop := entry.1 ≠ "" ∧ entry.2 ≠ ""

/-- Whether a configuration is what options say: they are all known, each field is read from its
option, and the overrides that are looked at are filled. -/
structure ReadFrom (options : Options) (config : Config) : Prop where
  known : ∀ option ∈ options, option.1 ∈ optionNames
  maxIterations : given options "max_iterations" (.int 100) = .int config.maxIterations
  batchSize : given options "batch_size" (.int 0) = .int config.batchSize
  minimumSeverity :
    Severity.read (given options "minimum_severity" (.int 1)) = .ok config.minimumSeverity
  ignoredIds : readList (given options "ignored_diagnostic_ids" .null) = .ok config.ignoredIds
  ignoredCompilerIds :
    readList (given options "ignored_compiler_diagnostic_ids" .null) = .ok config.ignoredCompilerIds
  ignoreCompilerErrors :
    config.ignoreCompilerErrors = given options "ignore_compiler_errors" (.bool false)
  fixerOverrides :
    readMap "fixer_overrides" (given options "fixer_overrides" .null) = .ok config.fixerOverrides
  actionOverrides :
    readMap "fix_action_overrides" (given options "fix_action_overrides" .null) =
      .ok config.actionOverrides
  bannerLines : readList (given options "file_banner_lines" .null) = .ok config.bannerLines
  includeUnits : readList (given options "include_units" .null) = .ok config.includeUnits
  excludeUnits : readList (given options "exclude_units" .null) = .ok config.excludeUnits
  parallelAnalysis : config.parallelAnalysis = given options "parallel_analysis" (.bool true)
  format : config.format = given options "format" (.bool false)
  filled : ∀ entry ∈ checkedOverrides config.fixerOverrides config.actionOverrides, IsFilled entry

variable {options : Options} {config : Config}

theorem readInteger_eq_ok {option : String} {value : Value} {n : Int} :
    readInteger option value = .ok n ↔ value = .int n := by
  cases value <;> simp [readInteger]

theorem any_empty_eq_false {entries : List (String × String)} :
    entries.any (fun (key, value) => key = "" || value = "") = false ↔
      ∀ entry ∈ entries, IsFilled entry := by
  simp [IsFilled]

theorem readFrom_of_ok (built : ofOptions options = .ok config) : ReadFrom options config := by
  unfold ofOptions at built
  cases unknown : options.find? (·.1 ∉ optionNames) with
  | some option =>
    rw [unknown] at built
    cases built
  | none =>
    rw [unknown] at built
    dsimp only at built
    -- The steps in their order, each of which went well.
    split at built
    · rename_i severity read
      obtain ⟨minimumSeverity, same, built⟩ := exists_of_bind_eq_ok built
      cases same
      obtain ⟨ignoredIds, ignored, built⟩ := exists_of_bind_eq_ok built
      obtain ⟨ignoredCompilerIds, ignoredCompiler, built⟩ := exists_of_bind_eq_ok built
      obtain ⟨fixerOverrides, fixers, built⟩ := exists_of_bind_eq_ok built
      obtain ⟨actionOverrides, actions, built⟩ := exists_of_bind_eq_ok built
      obtain ⟨bannerLines, banner, built⟩ := exists_of_bind_eq_ok built
      obtain ⟨includeUnits, included, built⟩ := exists_of_bind_eq_ok built
      obtain ⟨excludeUnits, excluded, built⟩ := exists_of_bind_eq_ok built
      obtain ⟨maxIterations, limit, built⟩ := exists_of_bind_eq_ok built
      split at built
      · rename_i positive
        obtain ⟨batchSize, batch, built⟩ := exists_of_bind_eq_ok built
        split at built
        · cases built
        · rename_i notNegative
          split at built
          · cases built
          · rename_i filled
            cases built
            have sameLimit : maxIterations = (maxIterations.toNat : Int) := by omega
            have sameBatch : batchSize = (batchSize.toNat : Int) := by omega
            exact
              { known := by simpa using unknown
                maxIterations := (readInteger_eq_ok.mp limit).trans (congrArg _ sameLimit)
                batchSize := (readInteger_eq_ok.mp batch).trans (congrArg _ sameBatch)
                minimumSeverity := read
                ignoredIds := ignored
                ignoredCompilerIds := ignoredCompiler
                ignoreCompilerErrors := rfl
                fixerOverrides := fixers
                actionOverrides := actions
                bannerLines := banner
                includeUnits := included
                excludeUnits := excluded
                parallelAnalysis := rfl
                format := rfl
                filled := any_empty_eq_false.mp (Bool.eq_false_iff.mpr filled) }
      · cases built
    · cases built

theorem ofOptions_of_readFrom (read : ReadFrom options config) :
    ofOptions options = .ok config := by
  have unknown : options.find? (·.1 ∉ optionNames) = none := by simpa using read.known
  have filled := any_empty_eq_false.mpr read.filled
  have severity := read.minimumSeverity
  unfold given at severity
  unfold ofOptions
  rw [unknown]
  dsimp only
  rw [severity]
  refine bind_eq_ok_of_eq_ok rfl ?_
  refine bind_eq_ok_of_eq_ok read.ignoredIds ?_
  refine bind_eq_ok_of_eq_ok read.ignoredCompilerIds ?_
  refine bind_eq_ok_of_eq_ok read.fixerOverrides ?_
  refine bind_eq_ok_of_eq_ok read.actionOverrides ?_
  refine bind_eq_ok_of_eq_ok read.bannerLines ?_
  refine bind_eq_ok_of_eq_ok read.includeUnits ?_
  refine bind_eq_ok_of_eq_ok read.excludeUnits ?_
  refine bind_eq_ok_of_eq_ok (readInteger_eq_ok.mpr read.maxIterations) ?_
  refine (dif_pos config.maxIterations_pos).trans ?_
  refine bind_eq_ok_of_eq_ok (readInteger_eq_ok.mpr read.batchSize) ?_
  refine (if_neg (Int.not_lt.mpr (Int.natCast_nonneg config.batchSize))).trans ?_
  refine (if_neg (Bool.eq_false_iff.mp filled)).trans ?_
  -- What is left of the configuration that was built are its flags.
  change Except.ok { config with
    ignoreCompilerErrors := given options "ignore_compiler_errors" (.bool false)
    parallelAnalysis := given options "parallel_analysis" (.bool true)
    format := given options "format" (.bool false) } = _
  rw [← read.ignoreCompilerErrors, ← read.parallelAnalysis, ← read.format]

theorem ofOptions_eq_ok_iff : ofOptions options = .ok config ↔ ReadFrom options config :=
  ⟨readFrom_of_ok, ofOptions_of_readFrom⟩

/-- The entries that are looked at are those of the actions and, of the fixers, those whose
identifier no action has. -/
theorem forall_checkedOverrides {fixers actions : List (String × String)}
    {holds : String × String → Prop} :
    (∀ entry ∈ checkedOverrides fixers actions, holds entry) ↔
      (∀ entry ∈ actions, holds entry) ∧
        ∀ entry ∈ fixers, entry.1 ∉ actions.map (·.1) → holds entry := by
  have unshared (entry : String × String) :
      actions.all (·.1 != entry.1) = true ↔ entry.1 ∉ actions.map (·.1) := by
    simp only [List.all_eq_true, bne_iff_ne, List.mem_map, not_exists, not_and]
  simp only [checkedOverrides, List.mem_append, List.mem_filter, unshared]
  constructor
  · intro checked
    exact ⟨fun entry member => checked entry (.inr member),
      fun entry member apart => checked entry (.inl ⟨member, apart⟩)⟩
  · rintro ⟨ofActions, ofFixers⟩ entry (⟨member, apart⟩ | member)
    · exact ofFixers entry member apart
    · exact ofActions entry member

/-- In a configuration that was read, an override of a fixer lacks nothing, except that it may ask
for nothing where the action of its identifier has an override too. -/
theorem ReadFrom.fixer_filled (read : ReadFrom options config) {entry : String × String}
    (member : entry ∈ config.fixerOverrides) :
    entry.1 ≠ "" ∧ (entry.2 = "" → entry.1 ∈ config.actionOverrides.map (·.1)) := by
  obtain ⟨ofActions, ofFixers⟩ := forall_checkedOverrides.mp read.filled
  by_cases shared : entry.1 ∈ config.actionOverrides.map (·.1)
  · obtain ⟨action, among, same⟩ := List.mem_map.mp shared
    exact ⟨same ▸ (ofActions action among).1, fun _ => shared⟩
  · have filled := ofFixers entry member shared
    exact ⟨filled.1, fun empty => absurd empty filled.2⟩

/-- What is certain of a configuration: its limits are whole numbers in range, no override of an
action lacks anything, and no override has an empty identifier. That no override is empty at all
is certain exactly if no fixer is asked for by an empty text under an identifier of both maps. -/
theorem ofOptions_valid (built : ofOptions options = .ok config) :
    (given options "max_iterations" (.int 100) = .int config.maxIterations ∧
      1 ≤ config.maxIterations) ∧
    given options "batch_size" (.int 0) = .int config.batchSize ∧
    (∀ entry ∈ config.actionOverrides, IsFilled entry) ∧
    (∀ entry ∈ config.fixerOverrides,
      entry.1 ≠ "" ∧ (entry.2 = "" → entry.1 ∈ config.actionOverrides.map (·.1))) ∧
    ((∀ entry ∈ config.fixerOverrides ++ config.actionOverrides, IsFilled entry) ↔
      ∀ entry ∈ config.fixerOverrides,
        entry.1 ∈ config.actionOverrides.map (·.1) → entry.2 ≠ "") := by
  have read := ofOptions_eq_ok_iff.mp built
  have ofActions := (forall_checkedOverrides.mp read.filled).1
  refine ⟨⟨read.maxIterations, config.maxIterations_pos⟩, read.batchSize, ofActions,
    fun _ member => read.fixer_filled member, ?_⟩
  constructor
  · intro filled entry member _
    exact (filled entry (List.mem_append_left _ member)).2
  · intro asked entry member
    rcases List.mem_append.mp member with ofFixer | ofAction
    · obtain ⟨named, shadowed⟩ := read.fixer_filled ofFixer
      exact ⟨named, fun empty => asked entry ofFixer (shadowed empty) empty⟩
    · exact ofActions entry ofAction

end Config

namespace Shadowed

/-- For one identifier a fixer is chosen, and an action. -/
def options (fixer : String) : Options :=
  [("max_iterations", .int 3), ("fixer_overrides", .table [("X1", .text fixer)]),
    ("fix_action_overrides", .list [.text "X1 = tidy"])]

def config (fixer : String) : Config where
  maxIterations := 3
  fixerOverrides := [("X1", fixer)]
  actionOverrides := [("X1", "tidy")]

theorem ofOptions_options (fixer : String) :
    Config.ofOptions (options fixer) = .ok (config fixer) := rfl

theorem ofOptions_valid_shared :
    Config.ofOptions (options "blank") = .ok (config "blank") ∧
      ∀ entry ∈ (config "blank").fixerOverrides ++ (config "blank").actionOverrides,
        Config.IsFilled entry := by
  have certain := Config.ofOptions_valid (ofOptions_options "blank")
  exact ⟨ofOptions_options "blank", certain.2.2.2.2.mpr (by decide)⟩

/-- A fixer that is chosen by an empty text is taken over, as its identifier has an action too. -/
theorem fixer_unfilled :
    Config.ofOptions (options "") = .ok (config "") ∧
      ∃ entry ∈ (config "").fixerOverrides, ¬ Config.IsFilled entry :=
  ⟨ofOptions_options "", ("X1", ""), List.mem_singleton.mpr rfl, fun filled => filled.2 rfl⟩

end Shadowed

end FixLoop
