import FixLoop.Plugin.Basic
import FixLoop.Workspace.Order

/-!
Catalogs: the plugins that apply to a unit, and who reports and who can fix an identifier.
-/

namespace FixLoop

structure Catalog (σ : Type) where
  analyzers : List (Analyzer σ)
  fixers : List (Fixer σ)

namespace Catalog

variable {σ : Type}

/-- The plugins that support the language of a unit, in registration order. -/
def ofUnit (unit : SourceUnit) (analyzers : List (Analyzer σ)) (fixers : List (Fixer σ)) :
    Catalog σ where
  analyzers := analyzers.filter (·.supports unit.language)
  fixers := fixers.filter (·.supports unit.language)

/-- The analyzers that report an identifier. -/
def analyzersOf (catalog : Catalog σ) (id : String) : List (Analyzer σ) :=
  catalog.analyzers.filter (·.reports id)

/-- The fixers that can fix a batch of an identifier. -/
def fixersOf (catalog : Catalog σ) (id : String) : List (Fixer σ) :=
  catalog.fixers.filter fun fixer => id ∈ fixer.fixableIds && fixer.canFixAll id

def hasAnalyzer (catalog : Catalog σ) (id : String) : Bool := catalog.analyzers.any (·.reports id)

def hasFixer (catalog : Catalog σ) (id : String) : Bool := !(catalog.fixersOf id).isEmpty

/-- What the analyzers declare, for each identifier the first declaration. -/
def descriptors (catalog : Catalog σ) : List Descriptor :=
  (catalog.analyzers.flatMap (·.descriptors)).foldl
    (fun kept descriptor =>
      if kept.any (·.id == descriptor.id) then kept else kept ++ [descriptor])
    []

/-- The identifiers for which there is a fixer. -/
def fixableIds (catalog : Catalog σ) : List String :=
  (catalog.fixers.flatMap (·.fixableIds)).eraseDups.filter catalog.hasFixer

end Catalog

end FixLoop
