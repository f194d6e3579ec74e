import FixLoop.Plugin.Combine
import FixLoop.Rules.Literals
import FixLoop.Text.Blank
import FixLoop.Text.Word

/-!
Embedded statements. The statement after a header such as a condition, if it has no braces and
another statement follows it closely, is easily read as including that other statement; a blank line
between the two keeps them apart. All scanning is of masked text, on what is left of it, so an
offset is the length of the whole less the length of the rest.
-/

namespace FixLoop

namespace EmbeddedStatement

/-- The languages with braces. -/
def languages : List String := ["c", "cpp", "csharp", "go", "java", "javascript", "typescript"]

def descriptor : Descriptor where
  id := "CF0001"
  title := "Add blank line after embedded statement"
  severity := .info
  format := "Add blank line after embedded statement."

/-- Whether a word character opens a text. -/
def opensWithWord (text : Text) : Bool := text.head?.any isWord

/-- What follows a whole word at the start of a text. -/
def afterWord? (word : String) (text : Text) : Option Text :=
  let rest := text.drop word.length
  if word.toList.isPrefixOf text && !opensWithWord rest then some rest else none

/-- What follows a keyword and its opening parenthesis at the start of a text; white space may
stand between the two. -/
def afterKeyword? (keyword : String) (text : Text) : Option Text :=
  if keyword.toList.isPrefixOf text then
    match (text.drop keyword.length).dropWhile isBlank with
    | '(' :: rest => some rest
    | _ => none
  else none

inductive Header where
  /-- A keyword with a parenthesis that opens before the rest. -/
  | condition (rest : Text)
  | otherwise (rest : Text)
  deriving Repr, DecidableEq

/-- The header at the start of a text that no word character precedes. -/
def header? (text : Text) : Option Header :=
  match ["if", "while", "for", "foreach"].findSome? (afterKeyword? · text) with
  | some rest => some (.condition rest)
  | none => (afterWord? "else" text).map .otherwise

/-- What follows the parenthesis that closes one of so many that are open. -/
def afterParentheses? : Nat → Text → Option Text
  | _, [] => none
  | opened, c :: rest =>
    if c = '(' then afterParentheses? (opened + 1) rest
    else if c = ')' then if opened ≤ 1 then some rest else afterParentheses? (opened - 1) rest
    else afterParentheses? opened rest

/-- What follows the semicolon that ends a statement, at a depth of parentheses and brackets; none
if a brace comes first. -/
def afterStatement? : Int → Text → Option Text
  | _, [] => none
  | depth, c :: rest =>
    if c = '(' || c = '[' then afterStatement? (depth + 1) rest
    else if c = ')' || c = ']' then afterStatement? (depth - 1) rest
    else if (c = '\x7b' || c = '\x7d') && depth == 0 then none
    else if c = ';' && depth == 0 then some rest
    else afterStatement? depth rest

/-- What a header leaves for its body; none if another header goes on from it. -/
def bodyText? : Header → Option Text
  | .condition rest => afterParentheses? 1 rest
  | .otherwise rest =>
    if (afterWord? "if" (rest.dropWhile isBlank)).isSome then none else some rest

/-- Whether a body is a statement without braces and no header itself. -/
def isPlainStatement (body : Text) : Bool :=
  match body with
  | [] => false
  | c :: _ => c ≠ '\x7b' && c ≠ ';' && (header? body).isNone

/-- Whether a statement follows with no blank line before it. -/
def isFollowed (text : Text) : Bool :=
  let gap := text.takeWhile isLayout
  match text.dropWhile isLayout with
  | [] => false
  | c :: rest => gap.count '\n' < 2 && c ≠ '\x7d' && (afterWord? "else" (c :: rest)).isNone

/-- What follows the statement that a header embeds, if it should be followed by a blank line. -/
def afterEmbedded? (header : Header) : Option Text := do
  let body := (← bodyText? header).dropWhile isLayout
  if isPlainStatement body then
    let rest ← afterStatement? 0 body
    if isFollowed rest then some rest else none
  else none

/-- The findings in what is left of a masked text: what is left from each header on, and after the
statement that it embeds. -/
def findings (afterWordChar : Bool) : Text → List (Text × Text)
  | [] => []
  | c :: rest =>
    let here := if afterWordChar then none else (header? (c :: rest)).bind afterEmbedded?
    (here.toList.map fun after => (c :: rest, after)) ++ findings (isWord c) rest

/-- The spans from headers to the ends of the statements that they embed. -/
def spans (text : Text) : List (Nat × Nat) :=
  (findings false (Literals.mask text)).map fun (start, after) =>
    (text.length - start.length, text.length - after.length)

def diagnostics (unit : SourceUnit) : List Diagnostic :=
  unit.documents.flatMap fun document =>
    (spans document.text).map fun (start, stop) =>
      Diagnostic.report descriptor (Location.ofSpan document.path document.text start stop)
        "Add blank line after embedded statement."

/-- The offset of the next statement after an offset; one before the text counts from its end. -/
def nextStatement (text : Text) (stop : Int) : Int :=
  let rest :=
    if stop < 0 then text.drop (stop + text.length).toNat ++ text else text.drop stop.toNat
  stop + (rest.takeWhile isLayout).length

/-- The edit that puts a blank line where a diagnostic ends. -/
def edit? (diagnostic : Diagnostic) (document : Document) : Option TextEdit :=
  let text := document.text
  let stop := diagnostic.location.stop
  let next := nextStatement text stop
  if next < text.length then
    let newline := Text.newline text
    some
      { path := document.path, start := stop, stop := next
        text := newline ++ newline ++ Text.indentation text diagnostic.location.start }
  else none

variable {σ : Type}

def analyzer : Analyzer σ where
  name := "embedded-statement"
  type := "EmbeddedStatementAnalyzer"
  package := "codefix.analyzers.formatting"
  languages
  descriptors := [descriptor]
  analyze unit := .answer (diagnostics unit)

def offers : Offers σ := fun diagnostic unit =>
  match unit.document? diagnostic.location.path with
  | none => []
  | some document =>
    if diagnostic.location.stop + document.text.length < 0 then [.fail .beforeText]
    else (edit? diagnostic document).toList.map fun edit =>
      .answer (some { title := descriptor.title, key := descriptor.id, edits := [edit] })

def fixer : Fixer σ where
  name := "blank-line-after-embedded-statement"
  type := "BlankLineAfterEmbeddedStatementFixer"
  package := "codefix.fixers.formatting"
  languages
  fixableIds := [descriptor.id]
  offers
  fixAll := Offers.fixAll offers

end EmbeddedStatement

end FixLoop
