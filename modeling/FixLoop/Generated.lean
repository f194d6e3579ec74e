import FixLoop.SourceUnit
import FixLoop.Text.Lines
import FixLoop.Text.Wildcard

/-!
Generated documents, which are never edited: known by their file name or by a marker in their first
five lines.
-/

namespace FixLoop

namespace Document

/-- The patterns of names of generated files, in lower case. -/
def generatedNames : List String := ["*.generated.*", "*.g.*", "*.designer.*"]

def generatedMarkers : List String := ["<auto-generated", "@generated"]

/-- The last component of a path. -/
def fileName (path : String) : Text :=
  (path.toList.reverse.takeWhile (· ≠ '/')).reverse

/-- The first lines of a text. -/
def head (text : Text) : Text := ['\n'].intercalate ((Text.lines text).take 5)

/-- Whether a document is generated. Upper case does not matter in names; the patterns hold none of
the letters that have an upper case outside ASCII. -/
def isGenerated (document : Document) : Bool :=
  let name := String.ofList ((fileName document.path).map Char.toLower)
  generatedNames.any (fits · name) ||
    generatedMarkers.any fun marker => Text.contains marker.toList (head document.text)

end Document

end FixLoop
