import FixLoop.Edit

/-!
Source units: snapshots of independently compilable groups of documents. A snapshot is replaced as
a whole, and its version counts the edit sets that led to it.
-/

namespace FixLoop

structure Document where
  path : String
  text : Text
  deriving Repr, DecidableEq, Inhabited

structure SourceUnit where
  id : String
  name : String := ""
  language : String := "text"
  documents : List Document := []
  dependsOn : List String := []
  version : Int := 0
  deriving Repr, DecidableEq, Inhabited

namespace SourceUnit

def displayName (unit : SourceUnit) : String :=
  if unit.name = "" then unit.id else unit.name

/-- The first document with a path. -/
def document? (unit : SourceUnit) (path : String) : Option Document :=
  unit.documents.find? (·.path == path)

/-- Changes the text of the last document with a path. -/
def changeDocument (path : String) (change : Text → Except EditFault Text) :
    List Document → Except EditFault (List Document)
  | [] => .error (.unknownDocument path)
  | document :: rest =>
    if rest.any (·.path == path) then
      (document :: ·) <$> changeDocument path change rest
    else if document.path = path then do
      return { document with text := ← change document.text } :: rest
    else .error (.unknownDocument path)

/-- The paths that edits name, each once, in the order of their first edit. -/
def editedPaths (edits : List TextEdit) : List String :=
  (edits.map (·.path)).eraseDups

/-- Applies to each document the edits that name it, the documents in the order of their first
edit. -/
def editDocuments (documents : List Document) (edits : List TextEdit) :
    Except EditFault (List Document) :=
  (editedPaths edits).foldlM
    (fun documents path =>
      changeDocument path (TextEdit.apply · (edits.filter (·.path == path))) documents)
    documents

/-- The next snapshot, with all edits applied. -/
def withEdits (unit : SourceUnit) (edits : List TextEdit) : Except EditFault SourceUnit := do
  let documents ← editDocuments unit.documents edits
  return { unit with documents, version := unit.version + 1 }

end SourceUnit

end FixLoop
