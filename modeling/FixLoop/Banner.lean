import FixLoop.Generated
import FixLoop.Text.Blank

/-!
Banners: comment lines at the top of every document that is not generated. A blank line keeps them
apart from what follows, and a document that starts with them is left alone.
-/

namespace FixLoop

namespace Banner

/-- What starts a comment in a language. -/
def commentMark (language : String) : String :=
  if language ∈ ["python", "shell", "text", "toml", "yaml"] then "#" else "//"

/-- Banner lines as comments of a language. -/
def render (language : String) (lines : List String) : List Text :=
  lines.map fun line => Text.trimRight (((commentMark language).toList ++ [' ']) ++ line.toList)

/-- Whether the first lines of a text are the given ones. -/
def startsWith (text : Text) (rendered : List Text) : Bool :=
  (Text.lines text).take rendered.length == rendered

/-- Whether a text needs no blank line before it: it is empty or starts with a line break. -/
def startsBlank (text : Text) : Bool :=
  text.isEmpty || ['\n'].isPrefixOf text || ['\r', '\n'].isPrefixOf text

/-- The text that puts rendered lines before a document. -/
def insertion (text : Text) (rendered : List Text) : Text :=
  let newline := Text.newline text
  newline.intercalate rendered ++ newline ++ (if startsBlank text then [] else newline)

/-- The edits that add a banner to the documents of a unit that lack it. -/
def edits (unit : SourceUnit) (lines : List String) : List TextEdit :=
  if lines.isEmpty then []
  else
    let rendered := render unit.language lines
    (unit.documents.filter fun document =>
      !document.isGenerated && !startsWith document.text rendered).map fun document =>
        { path := document.path, start := 0, stop := 0
          text := insertion document.text rendered }

end Banner

end FixLoop
