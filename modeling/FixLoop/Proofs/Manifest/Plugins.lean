import FixLoop.Proofs.Manifest.Units

/-!
What escapes from using the plugins that a manifest names: names of modules relative to nothing, and
types that only stand for all plugins of a kind.
-/

namespace FixLoop

namespace Manifest

variable {σ : Type} {outcomes : Compilers.Outcomes} {given : Value} {fault : ManifestFault}

/-- Whether an import path names a module relative to nothing. -/
def IsRelative (path : String) : Prop :=
  ∃ module name, Imported.splitPath path = .ok (module, name) ∧ module.toList.head? = some '.'

/-- Whether a type stands for all plugins of a kind, and none of that kind can be made of it. -/
inductive IsAbstract : PluginKind → Imported σ → Prop
  | compiler (fullName : String) : IsAbstract .compiler (.abstractCompiler fullName)
  | formatter (fullName : String) : IsAbstract .formatter (.abstractFormatter fullName)

/-- The import paths that naming a plugin does not foresee, and what becomes of them. -/
inductive Misnamed (σ : Type) (outcomes : Compilers.Outcomes) (path : String) (kind : PluginKind) :
    ManifestFault → Prop
  | relative (leads : IsRelative path) : Misnamed σ outcomes path kind (.imports .relative)
  | abstract {found : Imported σ} (leads : Imported.ofPath outcomes path = .ok found)
      (stands : IsAbstract kind found) : Misnamed σ outcomes path kind (.abstractType kind)

end Manifest

end FixLoop
