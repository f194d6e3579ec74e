import FixLoop.Proofs.Manifest.Patterns

/-!
What escapes from reading the units that a manifest declares: nothing but patterns that are not
foreseen. Entries are read in order and patterns within an entry are, so what escapes is the first
such pattern that reading comes to.
-/

namespace FixLoop

/-- The texts that a value gives: none, one, or a list. -/
inductive Value.Texts : Value → List String → Prop
  | null : Texts .null []
  | text (s : String) : Texts (.text s) [s]
  | list (texts : List String) : Texts (.list (texts.map .text)) texts

theorem Value.Texts.eq_nil {value : Value} {texts : List String} (gives : value.Texts texts)
    (null : value.isNull = true) : texts = [] := by
  cases gives with
  | null => rfl
  | text s => cases null
  | list texts => cases null

/-- What a field of a table gives. -/
def Value.given (value : Value) (key : String) : Value := (value.field? key).getD .null

namespace Manifest

/-! ### Texts that are given -/

/-- Whether a step fails with a fault that is not reported as one of the manifest. -/
def Escapes {α : Type} (fault : ManifestFault) (result : Except ManifestFault α) : Prop :=
  result = .error fault ∧ fault.isReported = false

section

variable {α β : Type} {fault : ManifestFault} {result : Except ManifestFault α}

theorem escapes_bind_iff {next : α → Except ManifestFault β} :
    Escapes fault (result >>= next) ↔
      Escapes fault result ∨ ∃ a, result = .ok a ∧ Escapes fault (next a) := by
  unfold Escapes
  rw [bind_fails_iff]
  constructor
  · rintro ⟨failed | ⟨a, ran, failed⟩, unreported⟩
    · exact .inl ⟨failed, unreported⟩
    · exact .inr ⟨a, ran, failed, unreported⟩
  · rintro (⟨failed, unreported⟩ | ⟨a, ran, failed, unreported⟩)
    · exact ⟨.inl failed, unreported⟩
    · exact ⟨.inr ⟨a, ran, failed⟩, unreported⟩

theorem escapes_later {next : α → Except ManifestFault β} {a : α} (ran : result = .ok a)
    (escapes : Escapes fault (next a)) : Escapes fault (result >>= next) :=
  escapes_bind_iff.mpr (.inr ⟨a, ran, escapes⟩)

end

/-! ### Units -/

variable {tree : FileTree} {root path : Path} {fault : ManifestFault}

/-- Whether reading the entries of units comes to a pattern: the entries before, and the patterns
before in its entry, can be read. -/
inductive ComesTo (tree : FileTree) (root : Path) : List Value → String → Prop
  | intro {earlier later : List Value} {entry : Value} {workspace : Workspace}
      {before after : List String} {pattern : String} {files : List Path}
      (units : readUnits tree root earlier = .ok workspace)
      (named : (entry.given "name").isTruthy = true)
      (documents : (entry.given "documents").Texts (before ++ pattern :: after))
      (found : findFiles tree root before = .ok files) :
      ComesTo tree root (earlier ++ entry :: later) pattern

end Manifest

end FixLoop
