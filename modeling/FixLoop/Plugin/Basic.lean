import FixLoop.Plugin.Callback

/-!
Plugins: analyzers and compilers report diagnostics, fixers offer actions for them, and formatters
write whole documents anew.
-/

namespace FixLoop

/-- What a plugin is called and where it applies. It is known by its short name, by its type, and by
its type with the package that defines it. -/
structure Plugin where
  name : String := ""
  type : String
  package : String
  /-- The languages that it applies to; none given means all. -/
  languages : List String := []
  deriving Repr, DecidableEq

namespace Plugin

def fullName (plugin : Plugin) : String := plugin.package ++ "." ++ plugin.type

def displayName (plugin : Plugin) : String :=
  if plugin.name = "" then plugin.type else plugin.name

def supports (plugin : Plugin) (language : String) : Bool :=
  plugin.languages.isEmpty || language ∈ plugin.languages

/-- Whether a configured identity refers to a plugin. -/
def answersTo (plugin : Plugin) (identity : String) : Bool :=
  identity == plugin.fullName || identity == plugin.type || identity == plugin.name

end Plugin

structure Analyzer (σ : Type) extends Plugin where
  /-- The diagnostics that it declares. -/
  descriptors : List Descriptor
  analyze : SourceUnit → Callback σ (List Diagnostic)

/-- Whether an analyzer declares an identifier. -/
def Analyzer.reports {σ : Type} (analyzer : Analyzer σ) (id : String) : Bool :=
  analyzer.descriptors.any (·.id == id)

structure Compiler (σ : Type) extends Plugin where
  compile : SourceUnit → Callback σ (List Diagnostic)

/-- A way to compute one candidate after another, as far as they are asked for; a step without a
candidate, and the end of the list, mean that there are no more. -/
abbrev Candidates (σ : Type) := List (Callback σ (Option FixAction))

structure Fixer (σ : Type) extends Plugin where
  fixableIds : List String
  /-- Whether it can fix every finding of an identifier in a unit by one action. -/
  supportsFixAll : Bool := true
  canFixAll : String → Bool := fun id => supportsFixAll && id ∈ fixableIds
  offers : Diagnostic → SourceUnit → Candidates σ
  fixAll : FixAllContext → Callback σ (Option FixAction)

structure Formatter (σ : Type) extends Plugin where
  /-- The new text of a document of a unit. -/
  format : SourceUnit → Document → Callback σ Text

end FixLoop
