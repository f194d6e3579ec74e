import FixLoop.Proofs.Loading
import FixLoop.Proofs.Manifest.Plugins

/-!
What escapes from loading a manifest. Nearly every way in which that can fail is reported as a fault
of the manifest. The others are: a file that is no text, patterns that are not foreseen, and plugins
that cannot be made of what they are named by.
-/

namespace FixLoop

namespace Manifest

variable {formats : FileFormats} {tree : FileTree} {path : Path} {fault : ManifestFault}

/-- The folder from which the patterns of a manifest look. -/
def folderOf (path : Path) : Path := ((Path.resolve path).getD path).dropLast

/-- Whether a manifest file says a value that declares units by some entries. -/
structure Declares (formats : FileFormats) (tree : FileTree) (path : Path) (value : Value)
    (entries : List Value) : Prop where
  read : readValue formats tree path = .ok value
  units : value.given "units" = .list entries
  some : entries ≠ []

/-- Whether a manifest file says a value of which the units can be read. -/
structure ReadsUnits (formats : FileFormats) (tree : FileTree) (path : Path) (value : Value) :
    Prop where
  units : ∃ entries workspace, Declares formats tree path value entries ∧
    readUnits tree (folderOf path) entries = .ok workspace

/-- Whether the compiler that it names can be used, too. -/
structure ReadsCompiler (σ : Type) (formats : FileFormats) (outcomes : Compilers.Outcomes)
    (tree : FileTree) (path : Path) (value : Value) : Prop
    extends ReadsUnits formats tree path value where
  compiler : ∃ compiler : Compiler σ, readCompiler outcomes (value.given "compiler") = .ok compiler

/-- Whether the formatter that it names can be used, too. -/
structure ReadsFormatter (σ : Type) (formats : FileFormats) (outcomes : Compilers.Outcomes)
    (tree : FileTree) (path : Path) (value : Value) : Prop
    extends ReadsCompiler σ formats outcomes tree path value where
  formatter : ∃ formatter : Formatter σ,
    readFormatter outcomes (value.given "formatter") = .ok formatter

/-- What loading a manifest does not foresee. -/
inductive Unforeseen (σ : Type) (formats : FileFormats) (outcomes : Compilers.Outcomes)
    (tree : FileTree) (path : Path) : ManifestFault → Prop
  /-- The path is no path. -/
  | nullCharacter (null : path.hasNull = true) :
      Unforeseen σ formats outcomes tree path (.unreadable .nullCharacter)
  /-- The file is no text. -/
  | undecodable {bytes : Bytes} {cause : Utf8.Fault} (read : tree.read path = .ok bytes)
      (broken : Utf8.decode bytes = .error cause) :
      Unforeseen σ formats outcomes tree path (.undecodable cause.inLastPiece)
  | pattern {value : Value} {entries : List Value} {pattern : String} {cause : GlobFault}
      (declares : Declares formats tree path value entries)
      (comes : ComesTo tree (folderOf path) entries pattern)
      (unforeseen : tree.Unforeseen (folderOf path) pattern cause) :
      Unforeseen σ formats outcomes tree path (.glob cause)
  | compiler {value : Value} {fault : ManifestFault}
      (reads : ReadsUnits formats tree path value)
      (some : (value.given "compiler").isNull = false)
      (misnamed : Misnamed σ outcomes (value.given "compiler").plain .compiler fault) :
      Unforeseen σ formats outcomes tree path fault
  | formatter {value : Value} {fault : ManifestFault}
      (reads : ReadsCompiler σ formats outcomes tree path value)
      (some : (value.given "formatter").isNull = false)
      (misnamed : Misnamed σ outcomes (value.given "formatter").plain .formatter fault) :
      Unforeseen σ formats outcomes tree path fault
  | analyzer {value : Value} {fault : ManifestFault} {before after : List String} {name : String}
      {registry : Registry σ} (reads : ReadsFormatter σ formats outcomes tree path value)
      (names : (value.given "analyzers").Texts (before ++ name :: after))
      (registered : readAnalyzers outcomes (.list (before.map .text)) {} = .ok registry)
      (misnamed : Misnamed σ outcomes name .analyzer fault) :
      Unforeseen σ formats outcomes tree path fault
  | fixer {value : Value} {fault : ManifestFault} {before after : List String} {name : String}
      {analyzers registry : Registry σ} (reads : ReadsFormatter σ formats outcomes tree path value)
      (analyzed : readAnalyzers outcomes (value.given "analyzers") {} = .ok analyzers)
      (names : (value.given "fixers").Texts (before ++ name :: after))
      (registered : readFixers outcomes (.list (before.map .text)) analyzers = .ok registry)
      (misnamed : Misnamed σ outcomes name .fixer fault) :
      Unforeseen σ formats outcomes tree path fault

variable {σ : Type} {outcomes : Compilers.Outcomes}

section

variable (outcomes : Compilers.Outcomes) (path : Path) (value : Value) (workspace : Workspace)

/-- What is left to do once the formatter is there. -/
def afterFormatter (compiler : Compiler σ) (formatter : Formatter σ) :
    Except ManifestFault (Manifest σ) := do
  let registry ← readAnalyzers outcomes (value.given "analyzers") {}
  let registry ← readFixers outcomes (value.given "fixers") registry
  let usesBuiltin := (value.given "analyzers").isNull && (value.given "fixers").isNull
  let place := (Path.resolve path).getD path
  return { path := place, workspace, registry, usesBuiltin, compiler, formatter }

/-- What is left to do once the compiler is there. -/
def afterCompiler (compiler : Compiler σ) : Except ManifestFault (Manifest σ) := do
  let formatter ← readFormatter outcomes (value.given "formatter")
  afterFormatter outcomes path value workspace compiler formatter

/-- What is left to do once the units are read. -/
def afterUnits : Except ManifestFault (Manifest σ) := do
  let compiler ← readCompiler outcomes (value.given "compiler")
  afterCompiler outcomes path value workspace compiler

end

theorem load_of_declares {value : Value} {entries : List Value}
    (declares : Declares formats tree path value entries) :
    (load formats outcomes tree path : Except ManifestFault (Manifest σ)) =
      readUnits tree (folderOf path) entries >>= afterUnits outcomes path value := by
  obtain ⟨read, units, some⟩ := declares
  obtain ⟨first, rest, rfl⟩ := List.exists_cons_of_ne_nil some
  cases value with
  | table fields =>
    replace units : (fields.lookup "units").getD .null = .list (first :: rest) := units
    unfold load
    rw [read]
    simp only [bind, Except.bind, units]
    rfl
  | _ => cases units

section

variable {value : Value}

theorem ReadsUnits.escapes (reads : ReadsUnits formats tree path value)
    (later : ∀ workspace, Escapes fault
      (afterUnits outcomes path value workspace : Except _ (Manifest σ))) :
    Escapes fault (load formats outcomes tree path : Except _ (Manifest σ)) := by
  obtain ⟨entries, workspace, declares, units⟩ := reads.units
  rw [load_of_declares declares]
  exact escapes_later units (later workspace)

theorem ReadsCompiler.escapes (reads : ReadsCompiler σ formats outcomes tree path value)
    (later : ∀ workspace (compiler : Compiler σ), Escapes fault
      (afterCompiler outcomes path value workspace compiler)) :
    Escapes fault (load formats outcomes tree path : Except _ (Manifest σ)) := by
  obtain ⟨compiler, compiled⟩ := reads.compiler
  exact reads.toReadsUnits.escapes fun workspace =>
    escapes_later compiled (later workspace compiler)

theorem ReadsFormatter.escapes (reads : ReadsFormatter σ formats outcomes tree path value)
    (later : ∀ workspace (compiler : Compiler σ) (formatter : Formatter σ), Escapes fault
      (afterFormatter outcomes path value workspace compiler formatter)) :
    Escapes fault (load formats outcomes tree path : Except _ (Manifest σ)) := by
  obtain ⟨formatter, formatted⟩ := reads.formatter
  exact reads.toReadsCompiler.escapes fun workspace compiler =>
    escapes_later formatted (later workspace compiler formatter)

end

end Manifest

namespace Scrambled

/-! A manifest file with a single byte that is no character. -/

def tree : FileTree where
  entries := [(["m"], .file [0xFF])]

end Scrambled

end FixLoop
