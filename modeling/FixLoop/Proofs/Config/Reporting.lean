import FixLoop.Proofs.Config.Precedence
import FixLoop.Proofs.Failing

/-!
Which faults of a configuration are not reported as such. A section that is no table is taken for
one, and a severity that is neither a name nor a number for a name; every other value that cannot be
used is reported. So loading fails in another way exactly in these two cases, and where the search
for a file cannot go on.
-/

namespace FixLoop

namespace Config

/-! ### What is not foreseen -/

namespace Setup

/-- What becomes of the search for a file that cannot go on from a path. -/
inductive Unsearchable (setup : Setup) (name : String) : LoadFault → Prop where
  | path {cause : PathFault} (failed : setup.tree.findUpwards name setup.start = .error cause)
      (some : cause ≠ .nullCharacter) : Unsearchable setup name (.path cause)

/-- What reading the project file does not foresee. -/
inductive UnforeseenProject (setup : Setup) : LoadFault → Prop where
  | search {fault : LoadFault} (unsearchable : setup.Unsearchable projectFileName fault) :
    UnforeseenProject setup fault
  /-- No document of the notation for settings is like that. -/
  | document (noTable : (setup.table projectFileName).isTable = false) :
    UnforeseenProject setup (.notATable "tool")
  | tool (noTable : ((setup.table projectFileName).part "tool").isTable = false) :
    UnforeseenProject setup (.notATable "codefix")
  | settings
    (noTable : (((setup.table projectFileName).part "tool").part "codefix").isTable = false) :
    UnforeseenProject setup (.notATable "codefix")

/-- What reading the configuration file does not foresee. -/
inductive UnforeseenFile (setup : Setup) : LoadFault → Prop where
  | search {fault : LoadFault} (unsearchable : setup.Unsearchable fileName fault) :
    UnforeseenFile setup fault
  /-- No document of the notation for settings is like that. -/
  | document (noTable : (setup.table fileName).isTable = false) :
    UnforeseenFile setup (.notATable fileName)

/-- What loading a configuration does not foresee. -/
inductive Unforeseen (setup : Setup) : LoadFault → Prop where
  | project {fault : LoadFault} (unforeseen : setup.UnforeseenProject fault) :
    Unforeseen setup fault
  | file {fault : LoadFault} {options : Options}
    (project : fromProject setup.formats setup.tree setup.start = .ok options)
    (unforeseen : setup.UnforeseenFile fault) : Unforeseen setup fault
  /-- The severity that counts is neither a name nor a number. -/
  | severity {value : Value} (readable : setup.IsReadable)
    (counts : decided setup.words "minimum_severity" = some value) (noName : value.text? = none)
    (noNumber : value.int? = none) : Unforeseen setup (.config (.severity .noName))

end Setup

variable {setup : Setup} {fault : LoadFault} {name : String}

/-! ### Reading the sources -/

section

variable {value : Value}

theorem ne_empty_of_isTable (noTable : value.isTable = false) : value ≠ .table [] := by
  rintro rfl
  cases noTable

theorem ne_empty_of_part (some : value.part name ≠ .table []) : value ≠ .table [] := by
  rintro rfl
  exact some rfl

theorem isTable_of_part (some : value.part name ≠ .table []) : value.isTable = true := by
  cases value with
  | table fields => rfl
  | _ => exact absurd rfl some

end

namespace Setup

theorem findTable_unreported_iff :
    (findTable setup.formats setup.tree name setup.start = .error fault ∧
      fault.isReported = false) ↔ setup.Unsearchable name fault := by
  constructor
  · rintro ⟨failed, unreported⟩
    rcases bind_fails_iff.mp failed with failed | ⟨found, -, failed⟩
    · obtain ⟨cause, blocked, rfl⟩ := mapError_fails_iff.mp failed
      exact .path blocked fun same => by simp [LoadFault.isReported, same] at unreported
    · cases found with
      | none => cases failed
      | some path =>
        simp only [] at failed
        split at failed
        · cases failed
        split at failed
        · cases failed
          cases unreported
        · cases failed
  · rintro ⟨failed, some⟩
    refine ⟨bind_fails_iff.mpr (.inl (mapError_fails_iff.mpr ⟨_, failed, rfl⟩)), ?_⟩
    simpa [LoadFault.isReported] using some

/-- Where a file seems to say anything, its search went well. -/
theorem exists_found (some : setup.table name ≠ .table []) :
    ∃ found, findTable setup.formats setup.tree name setup.start = .ok found := by
  cases searched : findTable setup.formats setup.tree name setup.start with
  | ok found => exact ⟨found, rfl⟩
  | error cause =>
    have empty : setup.table name = .table [] := by simp [table, searched, Except.toOption]
    exact absurd empty some

theorem fromProject_unreported_iff :
    (fromProject setup.formats setup.tree setup.start = .error fault ∧
      fault.isReported = false) ↔ setup.UnforeseenProject fault := by
  constructor
  · rintro ⟨failed, unreported⟩
    cases searched : findTable setup.formats setup.tree projectFileName setup.start with
    | error cause =>
      rw [fromProject, searched] at failed
      cases failed
      exact .search (findTable_unreported_iff.mp ⟨searched, unreported⟩)
    | ok found =>
      rw [fromProject_eq searched] at failed
      split at failed
      · split at failed
        · cases failed
        · rename_i noTable
          cases failed
          rcases Bool.and_eq_false_iff.mp (Bool.eq_false_iff.mpr noTable) with noTable | noTable
          · exact .tool noTable
          · exact .settings noTable
      · rename_i noTable
        cases failed
        exact .document (Bool.eq_false_iff.mpr noTable)
  · intro unforeseen
    cases unforeseen with
    | search unsearchable =>
      obtain ⟨failed, unreported⟩ := findTable_unreported_iff.mpr unsearchable
      exact ⟨bind_fails_iff.mpr (.inl failed), unreported⟩
    | document noTable =>
      obtain ⟨found, searched⟩ := exists_found (ne_empty_of_isTable noTable)
      simp [fromProject_eq searched, noTable, LoadFault.isReported]
    | tool noTable =>
      have tool := ne_empty_of_isTable noTable
      obtain ⟨found, searched⟩ := exists_found (ne_empty_of_part tool)
      simp [fromProject_eq searched, noTable, isTable_of_part tool, LoadFault.isReported]
    | settings noTable =>
      have settings := ne_empty_of_isTable noTable
      have tool := ne_empty_of_part settings
      obtain ⟨found, searched⟩ := exists_found (ne_empty_of_part tool)
      simp [fromProject_eq searched, noTable, isTable_of_part tool, LoadFault.isReported]

theorem fromFile_unreported_iff :
    (fromFile setup.formats setup.tree setup.start = .error fault ∧
      fault.isReported = false) ↔ setup.UnforeseenFile fault := by
  constructor
  · rintro ⟨failed, unreported⟩
    cases searched : findTable setup.formats setup.tree fileName setup.start with
    | error cause =>
      rw [fromFile, searched] at failed
      cases failed
      exact .search (findTable_unreported_iff.mp ⟨searched, unreported⟩)
    | ok found =>
      rw [fromFile_eq searched] at failed
      split at failed
      · cases failed
      · rename_i noTable
        cases failed
        exact .document (Bool.eq_false_iff.mpr noTable)
  · intro unforeseen
    cases unforeseen with
    | search unsearchable =>
      obtain ⟨failed, unreported⟩ := findTable_unreported_iff.mpr unsearchable
      exact ⟨bind_fails_iff.mpr (.inl failed), unreported⟩
    | document noTable =>
      obtain ⟨found, searched⟩ := exists_found (ne_empty_of_isTable noTable)
      simp [fromFile_eq searched, noTable, LoadFault.isReported]

end Setup

theorem fromEnvironment_reports {environment : List (String × String)}
    (failed : fromEnvironment environment = .error fault) : fault.isReported = true := by
  obtain ⟨-, ⟨variableName, option, kind, text⟩, -, -, -, failed⟩ := mapM_fails_iff.mp failed
  replace failed := (bind_fails_iff.mp failed).resolve_right nofun
  cases kind with
  | integer =>
    cases number : Text.integer? text.toList with
    | none =>
      obtain rfl : LoadFault.notAnInteger variableName text = fault := by
        simpa [readVariable, number] using failed
      rfl
    | some n => simp [readVariable, number] at failed
  | _ => cases failed

/-! ### Reading the options -/

/-- Whether a computation fails with nothing but what is reported. -/
def Reports {α : Type} (result : Except ConfigFault α) : Prop :=
  ∀ fault, result = .error fault → (LoadFault.config fault).isReported = true

section

variable {α β : Type} {options : Options} {value : Value}

theorem reports_bind {first : Except ConfigFault α} {next : α → Except ConfigFault β}
    (early : Reports first) (later : ∀ a, Reports (next a)) : Reports (first >>= next) := by
  intro fault failed
  rcases bind_fails_iff.mp failed with failed | ⟨a, -, failed⟩
  · exact early fault failed
  · exact later a fault failed

theorem reports_ok (a : α) : Reports (.ok a) := nofun

theorem reports_error {fault : ConfigFault}
    (reported : (LoadFault.config fault).isReported = true) :
    Reports (.error fault : Except ConfigFault α) := by
  rintro _ ⟨⟩
  exact reported

theorem reports_mapM {act : α → Except ConfigFault β} (reports : ∀ a, Reports (act a))
    (items : List α) : Reports (items.mapM act) := by
  intro fault failed
  obtain ⟨-, item, -, -, -, failed⟩ := mapM_fails_iff.mp failed
  exact reports item fault failed

theorem reports_readList (value : Value) : Reports (readList value) := by
  intro fault failed
  cases value <;> cases failed <;> rfl

theorem reports_readPair (option pair : String) : Reports (readPair option pair) := by
  intro fault failed
  unfold readPair at failed
  split at failed <;> cases failed
  rfl

theorem reports_readMap (option : String) (value : Value) : Reports (readMap option value) := by
  cases value with
  | table fields => exact reports_ok _
  | _ =>
    apply reports_bind (reports_readList _)
    intro texts
    apply reports_bind (reports_mapM (reports_readPair option) texts)
    intro pairs
    exact reports_ok _

theorem reports_readInteger (option : String) (value : Value) :
    Reports (readInteger option value) := by
  intro fault failed
  cases value <;> cases failed <;> rfl

theorem read_eq_noName : Severity.read value = .error .noName ↔
    value.text? = none ∧ value.int? = none := by
  cases value with
  | text name => cases found : Severity.ofName? name <;> simp [Severity.read, Value.text?, found]
  | int n => cases found : Severity.ofRank? n <;> simp [Severity.read, Value.int?, found]
  | bool b =>
    cases found : Severity.ofRank? (if b then 1 else 0) <;>
      simp [Severity.read, Value.int?, found]
  | _ => simp [Severity.read, Value.text?, Value.int?]

/-- With a severity that can be read, all else that cannot is reported. -/
theorem reports_ofOptions (known : ∀ option ∈ options, option.1 ∈ optionNames)
    {severity : Severity}
    (read : Severity.read (given options "minimum_severity" (.int 1)) = .ok severity) :
    Reports (ofOptions options) := by
  have all : options.find? (·.1 ∉ optionNames) = none := by simpa using known
  unfold given at read
  unfold ofOptions
  rw [all]
  dsimp only
  rw [read]
  refine reports_bind (reports_ok _) fun _ => ?_
  refine reports_bind (reports_readList _) fun _ => ?_
  refine reports_bind (reports_readList _) fun _ => ?_
  refine reports_bind (reports_readMap _ _) fun _ => ?_
  refine reports_bind (reports_readMap _ _) fun _ => ?_
  refine reports_bind (reports_readList _) fun _ => ?_
  refine reports_bind (reports_readList _) fun _ => ?_
  refine reports_bind (reports_readList _) fun _ => ?_
  refine reports_bind (reports_readInteger _ _) fun _ => ?_
  split
  · refine reports_bind (reports_readInteger _ _) fun _ => ?_
    split
    · exact reports_error rfl
    · split
      · exact reports_error rfl
      · exact reports_ok _
  · exact reports_error rfl

theorem ofOptions_unreported_iff (known : ∀ option ∈ options, option.1 ∈ optionNames)
    {fault : ConfigFault} :
    (ofOptions options = .error fault ∧ (LoadFault.config fault).isReported = false) ↔
      Severity.read (given options "minimum_severity" (.int 1)) = .error .noName ∧
        fault = .severity .noName := by
  cases read : Severity.read (given options "minimum_severity" (.int 1)) with
  | ok severity =>
    constructor
    · rintro ⟨failed, unreported⟩
      have reported := reports_ofOptions known read fault failed
      exact nomatch reported.symm.trans unreported
    · rintro ⟨noName, -⟩
      cases noName
  | error cause =>
    have all : options.find? (·.1 ∉ optionNames) = none := by simpa using known
    have failed : ofOptions options = .error (.severity cause) := by
      unfold given at read
      unfold ofOptions
      rw [all]
      dsimp only
      rw [read]
      rfl
    rw [failed]
    constructor
    · rintro ⟨same, unreported⟩
      cases same
      cases cause <;> cases unreported
      exact ⟨rfl, rfl⟩
    · rintro ⟨noName, rfl⟩
      cases noName
      exact ⟨rfl, rfl⟩

/-- Only a severity that some source gives can have neither a name nor a number. -/
theorem read_given_eq_noName {words : List (String → Option Value)} :
    Severity.read (given (settled words) "minimum_severity" (.int 1)) = .error .noName ↔
      ∃ value, decided words "minimum_severity" = some value ∧ value.text? = none ∧
        value.int? = none := by
  rw [given, lookup_settled _ (by decide)]
  cases decided words "minimum_severity" with
  | none =>
    constructor
    · intro noName
      cases noName
    · simp
  | some value => simp [read_eq_noName]

end

/-! ### Loading -/

/-- Loading a configuration fails with what is not reported as an invalid one exactly where it does
not foresee that. -/
theorem load_unreported_iff :
    (setup.load = .error fault ∧ fault.isReported = false) ↔ setup.Unforeseen fault := by
  constructor
  · rintro ⟨failed, unreported⟩
    rcases bind_fails_iff.mp failed with early | ⟨project, first, later⟩
    · exact .project (Setup.fromProject_unreported_iff.mp ⟨early, unreported⟩)
    rcases bind_fails_iff.mp later with early | ⟨file, second, later⟩
    · exact .file first (Setup.fromFile_unreported_iff.mp ⟨early, unreported⟩)
    rcases bind_fails_iff.mp later with early | ⟨environment, third, -⟩
    · exact nomatch (fromEnvironment_reports early).symm.trans unreported
    have readable : setup.IsReadable := ⟨⟨project, first⟩, ⟨file, second⟩, environment, third⟩
    rw [Setup.load_eq readable] at failed
    obtain ⟨cause, broken, rfl⟩ := mapError_fails_iff.mp failed
    obtain ⟨noName, rfl⟩ := (ofOptions_unreported_iff fun _ member =>
      known_of_mem_settled member).mp ⟨broken, unreported⟩
    obtain ⟨value, counts, noName, noNumber⟩ := read_given_eq_noName.mp noName
    exact .severity readable counts noName noNumber
  · intro unforeseen
    cases unforeseen with
    | project unforeseen =>
      obtain ⟨failed, unreported⟩ := Setup.fromProject_unreported_iff.mpr unforeseen
      exact ⟨bind_fails_iff.mpr (.inl failed), unreported⟩
    | file project unforeseen =>
      obtain ⟨failed, unreported⟩ := Setup.fromFile_unreported_iff.mpr unforeseen
      exact ⟨bind_fails_iff.mpr (.inr ⟨_, project, bind_fails_iff.mpr (.inl failed)⟩), unreported⟩
    | severity readable counts noName noNumber =>
      obtain ⟨failed, unreported⟩ := (ofOptions_unreported_iff fun _ member =>
        known_of_mem_settled member).mpr
          ⟨read_given_eq_noName.mpr ⟨_, counts, noName, noNumber⟩, rfl⟩
      rw [Setup.load_eq readable]
      exact ⟨mapError_fails_iff.mpr ⟨_, failed, rfl⟩, unreported⟩

end Config

namespace Enlisted

/-! A configuration file with a severity in a list. -/

def text : Text := "minimum_severity = [\"warning\"]\n".toList

def formats : FileFormats where
  toml? given :=
    if given = text then some (.table [("minimum_severity", .list [.text "warning"])]) else none
  yaml? _ := none

def setup : Config.Setup where
  formats
  tree := { entries := [([Config.fileName], .file (Utf8.encode text))] }
  start := []
  environment := []
  spoken := []

/-- Loading it fails with what is not reported as an invalid configuration. -/
theorem load_unreported : ∃ fault, setup.load = .error fault ∧ fault.isReported = false := by
  have unreported : (match setup.load with
      | .error fault => fault.isReported
      | .ok _ => true) = false := by decide +kernel
  cases loaded : setup.load with
  | error fault =>
    rw [loaded] at unreported
    exact ⟨fault, rfl, unreported⟩
  | ok config =>
    rw [loaded] at unreported
    cases unreported

end Enlisted

end FixLoop
