import FixLoop.Config.Sources
import FixLoop.Proofs.Config.Validity
import FixLoop.Proofs.Fields
import Mathlib.Data.List.Induction

/-!
Which source of a configuration counts. Each option is taken from the highest source that says
something of it, whatever the others say. So sources only have to agree where they are heard: on the
options, and not below one that has spoken.
-/

namespace FixLoop

namespace Value

/-- The fields of a table; a value of another kind has none. -/
def fields : Value → Options
  | table fields => fields
  | _ => []

def isTable : Value → Bool
  | table _ => true
  | _ => false

/-- The part of a table under a name, empty if it is missing. -/
def part (name : String) (value : Value) : Value := (value.field? name).getD (.table [])

end Value

namespace Config

/-! ### What the sources say -/

/-- What a configuration is loaded from. -/
structure Setup where
  formats : FileFormats
  tree : FileTree
  start : Path
  environment : List (String × String)
  spoken : Options

/-- What fields say of an option: of two spellings of its name the later counts, and null says
nothing. -/
def said (fields : Options) (name : String) : Option Value :=
  ((fields.reverse.find? (optionName ·.1 = name)).map (·.2)).filter (!·.isNull)

/-- What a variable says of an option, if it is the one for that option and is set. -/
def variableSays (environment : List (String × String)) (name : String) :
    String × String × VariableKind → Option Value
  | (variableName, option, kind) =>
    if option = name then
      (environment.lookup variableName).bind fun text =>
        (readVariable variableName text kind).toOption
    else none

namespace Setup

variable (setup : Setup)

def load : Except LoadFault Config :=
  Config.load setup.formats setup.tree setup.start setup.environment setup.spoken

/-- The table in the first file of a name, empty without such a file and if it cannot be parsed. -/
def table (name : String) : Value :=
  (findTable setup.formats setup.tree name setup.start).toOption.join.getD (.table [])

/-- The section for the configuration in the project file. -/
def projectFields : Options :=
  (((setup.table projectFileName).part "tool").part "codefix").fields

/-- What each source says, from the highest to the lowest. -/
def words : List (String → Option Value) :=
  [said setup.spoken, fun name => optionVariables.findSome? (variableSays setup.environment name),
    said (setup.table fileName).fields, said setup.projectFields]

/-- Whether there is no fault yet in the sources themselves. -/
structure IsReadable : Prop where
  project : ∃ options, fromProject setup.formats setup.tree setup.start = .ok options
  file : ∃ options, fromFile setup.formats setup.tree setup.start = .ok options
  environment : ∃ options, fromEnvironment setup.environment = .ok options

end Setup

/-- The word of the highest source that says something of an option. -/
def decided (words : List (String → Option Value)) (name : String) : Option Value :=
  words.findSome? (· name)

/-- The options of which some source says something, each with the word that counts. -/
def settled (words : List (String → Option Value)) : Options :=
  optionNames.filterMap fun name => (decided words name).map (name, ·)

/-- Whether sources agree on an option as far as they are heard. -/
inductive Agree (name : String) :
    List (String → Option Value) → List (String → Option Value) → Prop where
  | nil : Agree name [] []
  /-- Where one says something of the option, those below it are not heard. -/
  | overrule {first other : String → Option Value} {rest others : List (String → Option Value)}
      {value : Value} (speaks : first name = some value) (same : other name = some value) :
      Agree name (first :: rest) (other :: others)
  | pass {first other : String → Option Value} {rest others : List (String → Option Value)}
      (silent : first name = none) (same : other name = none) (later : Agree name rest others) :
      Agree name (first :: rest) (other :: others)

/-- Whether options are as a source gives them: each of them known, and given once. -/
structure IsSource (options : Options) : Prop where
  distinct : (options.map (·.1)).Nodup
  known : ∀ option ∈ options, option.1 ∈ optionNames

variable {fields options source result : Options} {name : String} {config : Config} {setup : Setup}

/-- With one spelling of each name, fields say of an option what its field does. -/
theorem said_eq_some_iff (once : (fields.map (optionName ·.1)).Nodup) {value : Value} :
    said fields name = some value ↔
      ∃ key, (key, value) ∈ fields ∧ optionName key = name ∧ value.isNull = false := by
  constructor
  · intro speaks
    obtain ⟨found, some⟩ := Option.filter_eq_some_iff.mp speaks
    obtain ⟨⟨key, own⟩, first, rfl⟩ := Option.map_eq_some_iff.mp found
    have member := List.mem_of_find?_eq_some first
    have spelt := List.find?_some first
    exact ⟨key, by simpa using member, by simpa using spelt, by simpa using some⟩
  · rintro ⟨key, member, spelt, some⟩
    have there : (fields.reverse.find? (optionName ·.1 = name)).isSome := by
      rw [List.find?_isSome]
      exact ⟨(key, value), by simpa using member, by simpa using spelt⟩
    obtain ⟨field, first⟩ := Option.isSome_iff_exists.mp there
    have among : field ∈ fields := by simpa using List.mem_of_find?_eq_some first
    have alike : optionName field.1 = name := by simpa using List.find?_some first
    obtain rfl : field = (key, value) :=
      List.inj_on_of_nodup_map once among member (alike.trans spelt.symm)
    simp [said, first, some]

/-! ### Sources as they are read -/

/-- What fields come to, under the names of options: of two spellings of a name the later counts. -/
def collected (fields : Options) : Options :=
  fields.foldl (fun options (key, value) => putField (optionName key) value options) []

theorem collected_concat (fields : Options) (field : String × Value) :
    collected (fields ++ [field]) = putField (optionName field.1) field.2 (collected fields) := by
  simp [collected]

theorem lookup_collected (fields : Options) (name : String) :
    (collected fields).lookup name =
      (fields.reverse.find? (optionName ·.1 = name)).map (·.2) := by
  induction fields using List.reverseRecOn with
  | nil => rfl
  | append_singleton fields field ih =>
    rw [collected_concat, lookup_putField, ih, List.reverse_append]
    by_cases spelt : name = optionName field.1
    · simp [spelt]
    · simp [spelt, Ne.symm spelt]

theorem nodup_keys_collected (fields : Options) : ((collected fields).map (·.1)).Nodup := by
  induction fields using List.reverseRecOn with
  | nil => exact List.nodup_nil
  | append_singleton fields field ih =>
    rw [collected_concat]
    exact nodup_keys_putField ih

theorem isSource_knownOptions (fields : Options) : IsSource (knownOptions fields) where
  distinct := (nodup_keys_collected fields).sublist (List.filter_sublist.map _)
  known option member := by simpa using (List.mem_filter.mp member).2

theorem lookup_knownOptions (known : name ∈ optionNames) :
    ((knownOptions fields).lookup name).filter (!·.isNull) = said fields name := by
  have kept : (knownOptions fields).lookup name =
      if decide (name ∈ optionNames) then (collected fields).lookup name else none :=
    lookup_filter_keys fun name => decide (name ∈ optionNames)
  simp [kept, known, said, lookup_collected]

theorem isNull_of_readVariable {variableName text : String} {kind : VariableKind} {value : Value}
    (read : readVariable variableName text kind = .ok value) : value.isNull = false := by
  cases kind with
  | integer =>
    cases number : Text.integer? text.toList with
    | none => simp [readVariable, number] at read
    | some n =>
      obtain rfl : Value.int n = value := by simpa [readVariable, number] using read
      rfl
  | _ =>
    cases read
    rfl

/-- What is read from variables are words of theirs, in their order. -/
theorem lookup_of_read {environment : List (String × String)}
    {entries : List (String × String × VariableKind)}
    (read : (entries.filterMap fun (name, option, kind) =>
      (environment.lookup name).map fun text => (name, option, kind, text)).mapM
        (fun (name, option, kind, text) => do return (option, ← readVariable name text kind)) =
      .ok options) :
    (options.map (·.1)).Sublist (entries.map (·.2.1)) ∧
      ∀ name, (options.lookup name).filter (!·.isNull) =
        entries.findSome? (variableSays environment name) := by
  induction entries generalizing options with
  | nil =>
    cases read
    exact ⟨List.Sublist.refl _, fun name => rfl⟩
  | cons entry entries ih =>
    obtain ⟨variableName, option, kind⟩ := entry
    cases set : environment.lookup variableName with
    | none =>
      rw [List.filterMap_cons_none (by simp [set])] at read
      obtain ⟨among, speaks⟩ := ih read
      refine ⟨among.cons _, fun name => ?_⟩
      rw [speaks, List.findSome?_cons_of_isNone]
      simp [variableSays, set]
    | some text =>
      rw [List.filterMap_cons_some (by simp [set]; rfl), List.mapM_cons] at read
      obtain ⟨field, one, read⟩ := exists_of_bind_eq_ok read
      obtain ⟨others, rest, read⟩ := exists_of_bind_eq_ok read
      obtain ⟨value, own, one⟩ := exists_of_bind_eq_ok one
      cases one
      cases read
      obtain ⟨among, speaks⟩ := ih rest
      have some := isNull_of_readVariable own
      refine ⟨among.cons_cons _, fun name => ?_⟩
      by_cases asked : name = option
      · simp [variableSays, asked, set, own, some, Except.toOption]
      · rw [lookup_cons_of_ne asked, speaks, List.findSome?_cons_of_isNone]
        simp [variableSays, Ne.symm asked]

theorem lookup_fromEnvironment {environment : List (String × String)}
    (read : fromEnvironment environment = .ok options) :
    (options.lookup name).filter (!·.isNull) =
      optionVariables.findSome? (variableSays environment name) :=
  (lookup_of_read read).2 name

theorem isSource_fromEnvironment {environment : List (String × String)}
    (read : fromEnvironment environment = .ok options) : IsSource options where
  distinct := List.Nodup.sublist (lookup_of_read read).1 (by decide)
  known option member := by
    have named : ∀ name ∈ optionVariables.map (·.2.1), name ∈ optionNames := by decide
    exact named _ ((lookup_of_read read).1.subset (List.mem_map_of_mem member))

theorem subsection_eq (name : String) (value : Value) :
    subsection name value =
      if value.isTable then .ok (value.part name) else .error (.notATable name) := by
  cases value <;> rfl

theorem tableFields_eq (name : String) (value : Value) :
    tableFields name value =
      if value.isTable then .ok value.fields else .error (.notATable name) := by
  cases value <;> rfl

theorem Setup.table_of_found {name : String} {found : Option Value}
    (searched : findTable setup.formats setup.tree name setup.start = .ok found) :
    setup.table name = found.getD (.table []) := by
  simp [table, searched, Except.toOption]

theorem Setup.fromFile_eq {found : Option Value}
    (searched : findTable setup.formats setup.tree fileName setup.start = .ok found) :
    fromFile setup.formats setup.tree setup.start =
      if (setup.table fileName).isTable then .ok (knownOptions (setup.table fileName).fields)
      else .error (.notATable fileName) := by
  rw [fromFile, searched, table_of_found searched]
  cases found with
  | none => rfl
  | some document =>
    simp only [bind, Except.bind, tableFields_eq, Option.getD_some]
    cases document.isTable <;> rfl

theorem Setup.fromProject_eq {found : Option Value}
    (searched : findTable setup.formats setup.tree projectFileName setup.start = .ok found) :
    fromProject setup.formats setup.tree setup.start =
      if (setup.table projectFileName).isTable then
        if ((setup.table projectFileName).part "tool").isTable &&
            (((setup.table projectFileName).part "tool").part "codefix").isTable then
          .ok (knownOptions setup.projectFields)
        else .error (.notATable "codefix")
      else .error (.notATable "tool") := by
  rw [fromProject, projectFields, searched, table_of_found searched]
  cases found with
  | none => rfl
  | some document =>
    simp only [bind, Except.bind, subsection_eq, tableFields_eq, Option.getD_some]
    by_cases table : document.isTable = true
    · by_cases tool : (document.part "tool").isTable = true
      · by_cases settings : ((document.part "tool").part "codefix").isTable = true
        · simp [table, tool, settings, pure, Except.pure]
        · simp [table, tool, settings]
      · simp [table, tool]
    · simp [table]

theorem Setup.eq_of_fromFile
    (read : fromFile setup.formats setup.tree setup.start = .ok options) :
    options = knownOptions (setup.table fileName).fields := by
  obtain ⟨found, searched, -⟩ := exists_of_bind_eq_ok read
  rw [fromFile_eq searched] at read
  split at read
  · exact (Except.ok.inj read).symm
  · cases read

theorem Setup.eq_of_fromProject
    (read : fromProject setup.formats setup.tree setup.start = .ok options) :
    options = knownOptions setup.projectFields := by
  obtain ⟨found, searched, -⟩ := exists_of_bind_eq_ok read
  rw [fromProject_eq searched] at read
  split at read
  · split at read
    · exact (Except.ok.inj read).symm
    · cases read
  · cases read

/-! ### Sources in one -/

theorem lookup_overruled (distinct : (source.map (·.1)).Nodup) :
    (source.foldl (fun result (name, value) =>
      if value.isNull then result else putField name value result) result).lookup name =
      ((source.lookup name).filter (!·.isNull)).or (result.lookup name) := by
  induction source generalizing result with
  | nil => rfl
  | cons field rest ih =>
    obtain ⟨first, value⟩ := field
    obtain ⟨apart, later⟩ := List.nodup_cons.mp distinct
    rw [List.foldl_cons, ih later]
    by_cases asked : name = first
    · subst asked
      rw [lookup_eq_none_of_not_mem apart]
      cases null : value.isNull <;> simp [null, lookup_putField, Option.filter_some]
    · cases null : value.isNull <;> simp [lookup_cons_of_ne asked, lookup_putField, asked, null]

theorem lookup_merged {sources : List Options}
    (given : ∀ source ∈ sources, IsSource source) :
    (merged sources).lookup name =
      sources.reverse.findSome? fun source => (source.lookup name).filter (!·.isNull) := by
  induction sources using List.reverseRecOn with
  | nil => rfl
  | append_singleton sources source ih =>
    obtain ⟨lower, own⟩ := List.forall_mem_append.mp given
    have below := ih lower
    rw [merged] at below ⊢
    rw [List.foldl_append, List.foldl_cons, List.foldl_nil,
      lookup_overruled (own source List.mem_cons_self).distinct, below, List.reverse_append,
      List.reverse_singleton, List.singleton_append, List.findSome?_cons]
    cases (source.lookup name).filter (!·.isNull) <;> rfl

theorem known_of_mem_merged {sources : List Options} (given : ∀ source ∈ sources, IsSource source)
    {option : String × Value} (member : option ∈ merged sources) : option.1 ∈ optionNames := by
  by_contra unknown
  have missing : (merged sources).lookup option.1 = none := by
    rw [lookup_merged given, List.findSome?_eq_none_iff]
    intro source among
    have absent : option.1 ∉ source.map (·.1) := by
      intro present
      obtain ⟨other, own, same⟩ := List.mem_map.mp present
      exact unknown (same ▸ (given source (List.mem_reverse.mp among)).known other own)
    rw [lookup_eq_none_of_not_mem absent]
    rfl
  exact absurd (List.lookup_eq_none_iff.mp missing option member) (by simp)

theorem lookup_settled (words : List (String → Option Value)) (known : name ∈ optionNames) :
    (settled words).lookup name = decided words name := by
  rw [settled, lookup_filterMap_names, if_pos known]

theorem known_of_mem_settled {words : List (String → Option Value)} {option : String × Value}
    (member : option ∈ settled words) : option.1 ∈ optionNames := by
  obtain ⟨name, known, found⟩ := List.mem_filterMap.mp member
  obtain ⟨value, -, rfl⟩ := Option.map_eq_some_iff.mp found
  exact known

/-- Reading a configuration looks at nothing but the values of the options. -/
theorem ofOptions_congr {others : Options} (known : ∀ option ∈ options, option.1 ∈ optionNames)
    (alike : ∀ option ∈ others, option.1 ∈ optionNames)
    (same : ∀ name ∈ optionNames, options.lookup name = others.lookup name) :
    ofOptions options = ofOptions others := by
  have all : options.find? (·.1 ∉ optionNames) = none := by simpa using known
  have every : others.find? (·.1 ∉ optionNames) = none := by simpa using alike
  unfold ofOptions
  rw [all, every]
  simp only [same "max_iterations" (by decide), same "batch_size" (by decide),
    same "minimum_severity" (by decide), same "ignored_diagnostic_ids" (by decide),
    same "ignored_compiler_diagnostic_ids" (by decide),
    same "ignore_compiler_errors" (by decide), same "fixer_overrides" (by decide),
    same "fix_action_overrides" (by decide), same "file_banner_lines" (by decide),
    same "include_units" (by decide), same "exclude_units" (by decide),
    same "parallel_analysis" (by decide), same "format" (by decide)]

namespace Setup

/-- Where the sources can be read, loading is reading what they settle. -/
theorem load_eq (readable : setup.IsReadable) :
    setup.load = (ofOptions (settled setup.words)).mapError .config := by
  obtain ⟨⟨project, first⟩, ⟨file, second⟩, environment, third⟩ := readable
  have given : ∀ source ∈ [project, file, environment, knownOptions setup.spoken],
      IsSource source := by
    simp only [List.forall_mem_cons, eq_of_fromProject first, eq_of_fromFile second]
    exact ⟨isSource_knownOptions _, isSource_knownOptions _, isSource_fromEnvironment third,
      isSource_knownOptions _, nofun⟩
  have loaded : setup.load = (ofOptions (merged
      [project, file, environment, knownOptions setup.spoken])).mapError .config := by
    rw [load, Config.load, first, second, third]
    rfl
  rw [loaded, ofOptions_congr (fun _ member => known_of_mem_merged given member)
    (fun _ member => known_of_mem_settled member)]
  intro name known
  rw [lookup_merged given, lookup_settled _ known, eq_of_fromProject first, eq_of_fromFile second]
  simp [decided, words, List.findSome?_cons, lookup_knownOptions known,
    lookup_fromEnvironment third]

theorem isReadable_of_load (loaded : setup.load = .ok config) : setup.IsReadable := by
  obtain ⟨project, first, loaded⟩ := exists_of_bind_eq_ok loaded
  obtain ⟨file, second, loaded⟩ := exists_of_bind_eq_ok loaded
  obtain ⟨environment, third, -⟩ := exists_of_bind_eq_ok loaded
  exact ⟨⟨project, first⟩, ⟨file, second⟩, ⟨environment, third⟩⟩

end Setup

theorem Agree.decided_eq {words others : List (String → Option Value)}
    (agree : Agree name words others) : decided words name = decided others name := by
  induction agree with
  | nil => rfl
  | overrule speaks same => simp [decided, speaks, same]
  | pass silent same later ih => simpa [decided, silent, same] using ih

theorem settled_eq_of_agree {words others : List (String → Option Value)}
    (agree : ∀ name ∈ optionNames, Agree name words others) : settled words = settled others := by
  apply List.filterMap_congr
  intro name known
  rw [(agree name known).decided_eq]

/-- A configuration that is loaded is read from what its sources settle, so that every field is what
the highest source with a word on its option says, and its default if there is none. From sources
that agree on the options as far as they are heard no other configuration is loaded, and that one is
unless there is a fault in the sources themselves. -/
theorem load_precedence (loaded : setup.load = .ok config) :
    ReadFrom (settled setup.words) config ∧
      ∀ other : Setup, (∀ name ∈ optionNames, Agree name setup.words other.words) →
        (∀ different, other.load = .ok different → different = config) ∧
          (other.IsReadable → other.load = .ok config) := by
  have built : ofOptions (settled setup.words) = .ok config := by
    rw [Setup.load_eq (Setup.isReadable_of_load loaded)] at loaded
    exact eq_ok_of_mapError loaded
  refine ⟨ofOptions_eq_ok_iff.mp built, ?_⟩
  intro other agree
  have again : other.IsReadable → other.load = .ok config := by
    intro readable
    rw [Setup.load_eq readable, ← settled_eq_of_agree agree, built]
    rfl
  refine ⟨?_, again⟩
  intro different found
  exact Except.ok.inj (found.symm.trans (again (Setup.isReadable_of_load found)))

end Config

namespace Overlaid

/-! Four sources, each of which says something that no source above it does. -/

def projectText : Text := "[tool.codefix]\nbatch_size = 2\nformat = true\n".toList

def fileText : Text := "max-iterations = 3\nbatch-size = 4\nother = 5\n".toList

def formats : FileFormats where
  toml? text :=
    if text = projectText then
      some (.table [("tool", .table [("codefix", .table
        [("batch_size", .int 2), ("format", .bool true)])])])
    else if text = fileText then
      some (.table [("max-iterations", .int 3), ("batch-size", .int 4), ("other", .int 5)])
    else none
  yaml? _ := none

def setup : Config.Setup where
  formats
  tree := { entries := [([Config.projectFileName], .file (Utf8.encode projectText)),
    ([Config.fileName], .file (Utf8.encode fileText))] }
  start := []
  environment := [("CODEFIX_MAX_ITERATIONS", "6")]
  spoken := [("batch_size", .null), ("minimum-severity", .text "error")]

theorem exists_load : ∃ config, setup.load = .ok config ∧
    (config.maxIterations, config.batchSize, config.minimumSeverity, config.format.isTruthy) =
      (6, 4, .error, true) :=
  exists_of_map_toOption _ (by decide +kernel)

/-- The environment, the file, the caller and the project file have one word each that counts. -/
theorem load_precedence_overlaid : ∃ config, setup.load = .ok config ∧
    Config.ReadFrom (Config.settled setup.words) config ∧ config.maxIterations = 6 ∧
      config.batchSize = 4 ∧ config.minimumSeverity = .error ∧ config.format.isTruthy = true := by
  obtain ⟨config, loaded, fields⟩ := exists_load
  have read := (Config.load_precedence loaded).1
  exact ⟨config, loaded, read, by simpa using fields⟩

end Overlaid

end FixLoop
