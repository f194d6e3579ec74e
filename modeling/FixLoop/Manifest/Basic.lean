import FixLoop.Config.Sources
import FixLoop.FileTree.Glob
import FixLoop.Manifest.Import
import FixLoop.Plugin.Registry

/-!
Manifests declare the units of a code base by the files that their documents are read from, and the
plugins to use where the built-in ones are not wanted. Units are read first, in order, then the
compiler, the formatter, and the registered plugins; the first thing that is wrong decides the
fault.
-/

namespace FixLoop

structure Manifest (σ : Type) where
  path : Path
  workspace : Workspace
  registry : Registry σ
  /-- Whether the registry is that of the built-in plugins because no other was asked for. -/
  usesBuiltin : Bool
  compiler : Compiler σ
  formatter : Formatter σ

/-- What the plugins of one kind are called together. -/
inductive PluginKind where
  | analyzer
  | fixer
  | compiler
  | formatter
  deriving Repr, DecidableEq

def PluginKind.baseType : PluginKind → String
  | analyzer => "BaseAnalyzer"
  | fixer => "BaseFixProvider"
  | compiler => "BaseCompiler"
  | formatter => "BaseFormatter"

inductive ManifestFault where
  | unreadable (fault : PathFault)
  | undecodable (fault : Utf8.Fault)
  | noYaml
  | noMapping
  | noUnits
  | namelessUnit
  | noDocuments (unit : String)
  /-- A value that is neither a text nor a list of texts. -/
  | noTexts (what : String)
  | glob (fault : GlobFault)
  | unreadableDocument (path : Path) (fault : PathFault ⊕ Utf8.Fault)
  | workspace (fault : WorkspaceFault)
  | imports (fault : ImportFault)
  | wrongType (importPath : String) (kind : PluginKind)
  /-- A type that stands for all of a kind was to be used. -/
  | abstractType (kind : PluginKind)
  | registry (fault : RegistryFault)
  deriving Repr, DecidableEq

/-- The message of a fault in a manifest; `place` writes paths as the user knows them. -/
def ManifestFault.message (manifest : Path) (place : Path → String) : ManifestFault → String
  | unreadable fault =>
    "Cannot read manifest '" ++ place manifest ++ "': " ++ fault.message (place manifest)
  | undecodable fault => fault.message
  | noYaml => "Invalid YAML in '" ++ place manifest ++ "'"
  | noMapping => "Manifest '" ++ place manifest ++ "' must be a mapping"
  | noUnits => "Manifest '" ++ place manifest ++ "' declares no units"
  | namelessUnit => "Each unit needs a 'name'"
  | noDocuments unit => "Unit '" ++ unit ++ "' declares no documents"
  | noTexts what => what ++ " must be a string or a list of strings"
  | glob fault => fault.message
  | unreadableDocument path fault =>
    "Cannot read document '" ++ place path ++ "': " ++
      match fault with
      | .inl fault => fault.message (place path)
      | .inr fault => fault.message
  | workspace fault => fault.message
  | imports fault => fault.message
  | wrongType importPath kind => "'" ++ importPath ++ "' is not a " ++ kind.baseType ++ " subclass"
  | abstractType kind => "Can't instantiate abstract class " ++ kind.baseType
  | registry fault => fault.message

/-- Whether a fault is reported as one of the manifest. Some forms of patterns, paths and files are
not foreseen. -/
def ManifestFault.isReported : ManifestFault → Bool
  | unreadable .nullCharacter => false
  | undecodable _ => false
  | glob .empty => true
  | glob .misplacedStars => true
  | glob _ => false
  | imports .relative => false
  | abstractType _ => false
  | _ => true

namespace Manifest

/-- The usual name of a manifest. -/
def fileName : String := "codefix.yaml"

/-- A text, or a list of texts. -/
def readTexts (what : String) : Value → Except ManifestFault (List String)
  | .null => .ok []
  | .text s => .ok [s]
  | .list items => (items.mapM Value.text?).elim (.error (.noTexts what)) .ok
  | _ => .error (.noTexts what)

/-- The files that patterns name, in the order of the patterns and each once. -/
def findFiles (tree : FileTree) (root : Path) : List String → Except ManifestFault (List Path)
  | patterns => do
    let found ← patterns.mapM fun pattern => (tree.glob root pattern).mapError .glob
    return found.flatten.eraseDups

/-- Reads the document of a path from the root. -/
def readDocument (tree : FileTree) (root path : Path) : Except ManifestFault Document :=
  let written := root ++ path
  match tree.readText written with
  | .ok text => .ok { path := path.text, text }
  | .error fault => .error (.unreadableDocument written fault)

/-- Reads the entry of a unit. -/
def readUnit (tree : FileTree) (root : Path) (entry : Value) :
    Except ManifestFault SourceUnit := do
  let given := (entry.field? "name").getD .null
  if !given.isTruthy then throw .namelessUnit
  let name := given.plain
  let field (key : String) := (entry.field? key).getD .null
  let patterns ← readTexts ("Unit '" ++ name ++ "' documents") (field "documents")
  if patterns.isEmpty then throw (.noDocuments name)
  let files ← findFiles tree root patterns
  let documents ← files.mapM (readDocument tree root)
  let dependsOn ← readTexts ("Unit '" ++ name ++ "' depends_on") (field "depends_on")
  return {
    id := name
    name
    language := ((entry.field? "language").map Value.plain).getD "text"
    documents
    dependsOn }

/-- Reads the entries of units into a workspace. -/
def readUnits (tree : FileTree) (root : Path) (entries : List Value) :
    Except ManifestFault Workspace :=
  entries.foldlM
    (fun workspace entry => do
      (workspace.add (← readUnit tree root entry)).mapError .workspace)
    { root := some root }

variable {σ : Type}

def importObject (outcomes : Compilers.Outcomes) (path : String) :
    Except ManifestFault (Imported σ) :=
  (Imported.ofPath outcomes path).mapError .imports

/-- The compiler that a manifest names. -/
def readCompiler (outcomes : Compilers.Outcomes) (given : Value) :
    Except ManifestFault (Compiler σ) :=
  if given.isNull then .ok (Compilers.byLanguage outcomes)
  else do
    match ← importObject outcomes given.plain with
    | .compiler compiler => return compiler
    | .abstractCompiler _ => throw (.abstractType .compiler)
    | _ => throw (.wrongType given.plain .compiler)

/-- The formatter that a manifest names. -/
def readFormatter (outcomes : Compilers.Outcomes) (given : Value) :
    Except ManifestFault (Formatter σ) :=
  if given.isNull then .ok Formatting.whitespace
  else do
    match ← importObject outcomes given.plain with
    | .formatter formatter => return formatter
    | .abstractFormatter _ => throw (.abstractType .formatter)
    | _ => throw (.wrongType given.plain .formatter)

/-- Registers the analyzers that a manifest names, by default the built-in ones. -/
def readAnalyzers (outcomes : Compilers.Outcomes) (given : Value) (registry : Registry σ) :
    Except ManifestFault (Registry σ) :=
  if given.isNull then .ok { registry with analyzers := Builtin.analyzers }
  else do
    (← readTexts "analyzers" given).foldlM
      (fun registry path => do
        match ← importObject outcomes path with
        | .analyzer analyzer => (registry.addAnalyzer analyzer).mapError .registry
        | _ => throw (.wrongType path .analyzer))
      registry

/-- Registers the fixers that a manifest names, by default the built-in ones. -/
def readFixers (outcomes : Compilers.Outcomes) (given : Value) (registry : Registry σ) :
    Except ManifestFault (Registry σ) :=
  if given.isNull then .ok { registry with fixers := Builtin.fixers }
  else do
    (← readTexts "fixers" given).foldlM
      (fun registry path => do
        match ← importObject outcomes path with
        | .fixer fixer => (registry.addFixer fixer).mapError .registry
        | _ => throw (.wrongType path .fixer))
      registry

/-- The value of a manifest file; what counts as nothing is an empty table. -/
def readValue (formats : FileFormats) (tree : FileTree) (path : Path) :
    Except ManifestFault Value := do
  match tree.read path with
  | .error fault => throw (.unreadable fault)
  | .ok bytes =>
    match Utf8.decode bytes with
    | .error fault => throw (.undecodable fault.inLastPiece)
    | .ok text =>
      match formats.yaml? (Text.unifyNewlines text) with
      | none => throw .noYaml
      | some value => return if value.isTruthy then value else .table []

/-- Reads a manifest and all that it declares; Python documents compile as given. -/
def load (formats : FileFormats) (outcomes : Compilers.Outcomes) (tree : FileTree) (path : Path) :
    Except ManifestFault (Manifest σ) := do
  let value ← readValue formats tree path
  match value with
  | .table fields =>
    let field (key : String) := (fields.lookup key).getD .null
    match field "units" with
    | .list (first :: rest) =>
      let place := (Path.resolve path).getD path
      let workspace ← readUnits tree place.dropLast (first :: rest)
      let compiler ← readCompiler outcomes (field "compiler")
      let formatter ← readFormatter outcomes (field "formatter")
      let registry ← readAnalyzers outcomes (field "analyzers") {}
      let registry ← readFixers outcomes (field "fixers") registry
      let usesBuiltin := (field "analyzers").isNull && (field "fixers").isNull
      return { path := place, workspace, registry, usesBuiltin, compiler, formatter }
    | _ => throw .noUnits
  | _ => throw .noMapping

/-- The manifest to use: a file that is given, or the first of the usual name from a folder
outwards. -/
def find? (tree : FileTree) (start : Path) : Except PathFault (Option Path) := do
  match ← tree.file? start with
  | some path => return some path
  | none => tree.findUpwards fileName start

end Manifest

end FixLoop
