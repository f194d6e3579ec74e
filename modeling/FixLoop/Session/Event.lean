import FixLoop.Plugin.Action

/-!
Events: what a session did, step by step. Some events are lines of its log; the others, such as the
snapshots handed to plugins, are kept for whoever reasons about a run.
-/

namespace FixLoop

inductive Level where
  | debug
  | info
  | warning
  deriving Repr, DecidableEq

def Level.label : Level → String
  | debug => "DEBUG"
  | info => "INFO"
  | warning => "WARNING"

/-- Who computed an edit set. -/
inductive Author where
  | session
  | plugin
  deriving Repr, DecidableEq

inductive Event where
  | ignoring (id : String)
  | ignoringCompiler (id : String)
  | unitSkipped (name : String) (position total : Nat)
  | unitStarted (name : String) (position total : Nat)
  | unitDone (name : String)
  | runDone (units : Nat)
  | noAnalyzers (name : String)
  | noFixers (name : String)
  | compiling (name : String) (rounds : Nat)
  | analyzing (name : String)
  | oscillating (name : String)
  | listed (diagnostic : Diagnostic)
  | found (count : Nat) (name : String)
  | limitReached (rounds : Nat) (name : String)
  | interrupted (name : String)
  | fixing (count : Nat) (id title : String)
  | buildError (diagnostic : Diagnostic)
  | moreBuildErrors (count : Nat)
  | bannerAdded (path : String)
  | bannerRejected (name : String)
  | formatting (name formatter : String)
  | formatted (path : String)
  | formattingRejected (name : String)
  | analyzerFailed (analyzer name reason : String)
  | deferred (count : Nat) (id : String)
  | rejected (title name : String) (version : Int)
  | applied (title : String) (edits : Nat) (name : String)
  | manyFixers (id first second : String)
  | manyActions (fixer id first second : String)
  | notCombined (fixer : String) (count : Nat) (id : String)
  /-- The compiler was given a snapshot. -/
  | compiled (unit : SourceUnit)
  /-- An analyzer was given a snapshot. -/
  | analyzed (analyzer : String) (unit : SourceUnit)
  /-- A fix was to be selected for a batch. -/
  | selecting (id : String) (batch : List Diagnostic)
  /-- A fixer was asked for candidates. -/
  | consulted (fixer : String) (diagnostic : Diagnostic) (unit : SourceUnit)
  /-- The next candidate of the last consultation was demanded. -/
  | demanded (fixer : String)
  /-- A fixer was asked to fix a whole batch. -/
  | combining (fixer : String) (context : FixAllContext)
  /-- An edit set was offered to the workspace. -/
  | edited (author : Author) (unitId : String) (version : Int) (edits : List TextEdit)
      (landed : Bool)
  /-- A combined fix of an identifier landed. -/
  | fixed (id unitId : String)
  | cancelRequested
  deriving Repr, DecidableEq

namespace Event

/-- A text brought to a width with spaces on its left. -/
def padLeft (width : Nat) (s : String) : String :=
  String.ofList (List.replicate (width - s.length) ' ') ++ s

def counted (count : Nat) (one many : String) : String :=
  toString count ++ " " ++ if count = 1 then one else many

/-- The log line of an event, if it has one; durations read as the given text. -/
def line? (duration : String) : Event → Option (Level × String)
  | ignoring id => some (.debug, "Ignore diagnostic '" ++ id ++ "'")
  | ignoringCompiler id => some (.debug, "Ignore compiler diagnostic '" ++ id ++ "'")
  | unitSkipped name position total =>
    some (.info, "Skip '" ++ name ++ "' " ++ toString position ++ "/" ++ toString total)
  | unitStarted name position total =>
    some (.info, "Fix '" ++ name ++ "' " ++ toString position ++ "/" ++ toString total)
  | unitDone name => some (.info, "Done fixing '" ++ name ++ "' in " ++ duration)
  | runDone units =>
    some (.info, "Done fixing " ++ toString units ++ " unit(s) in " ++ duration)
  | noAnalyzers name => some (.info, "No analyzers found to analyze '" ++ name ++ "'")
  | noFixers name => some (.info, "No fixers found to fix '" ++ name ++ "'")
  | compiling name rounds =>
    some (.debug, "Compile '" ++ name ++ "'" ++
      if rounds = 0 then "" else " iteration " ++ toString (rounds + 1))
  | analyzing name => some (.debug, "Analyze '" ++ name ++ "'")
  | oscillating name =>
    some (.warning, "Infinite loop detected in '" ++ name ++
      "': reported diagnostics have been previously fixed")
  | listed diagnostic => some (.debug, "  " ++ diagnostic.text)
  | found count name =>
    some (.info, "Found " ++ counted count "diagnostic" "diagnostics" ++ " in '" ++ name ++ "'")
  | limitReached rounds name =>
    some (.info, "Reached " ++ toString rounds ++ " iteration(s) in '" ++ name ++
      "' without converging")
  | interrupted name => some (.info, "Fixing '" ++ name ++ "' was cancelled")
  | fixing count id title =>
    some (.info, "Fix " ++ padLeft 4 (toString count) ++ " " ++ padLeft 10 id ++ " '" ++ title ++
      "'")
  | buildError diagnostic => some (.warning, diagnostic.text)
  | moreBuildErrors count => some (.warning, "and " ++ toString count ++ " more diagnostics")
  | bannerAdded path => some (.debug, "Add banner to '" ++ path ++ "'")
  | bannerRejected name => some (.warning, "Cannot add file banner to '" ++ name ++ "'")
  | formatting name formatter => some (.info, "Format '" ++ name ++ "' with " ++ formatter)
  | formatted path => some (.debug, "Format '" ++ path ++ "'")
  | formattingRejected name => some (.warning, "Cannot apply formatting to '" ++ name ++ "'")
  | analyzerFailed analyzer name reason =>
    some (.warning, "Analyzer '" ++ analyzer ++ "' failed on '" ++ name ++ "': " ++ reason)
  | deferred count id =>
    some (.debug, "Deferred " ++ toString count ++ " overlapping fix(es) for '" ++ id ++
      "' to the next pass")
  | rejected title name version =>
    some (.warning, "Cannot apply '" ++ title ++ "' to '" ++ name ++ "' (version " ++
      toString version ++ ")")
  | applied title edits name =>
    some (.debug, "Applied '" ++ title ++ "' (" ++ toString edits ++ " edit(s)) to '" ++ name ++
      "'")
  | manyFixers id first second =>
    some (.warning, "Diagnostic '" ++ id ++ "' is fixable with multiple fixers: '" ++ first ++
      "' and '" ++ second ++ "'")
  | manyActions fixer id first second =>
    some (.warning, "Fixer '" ++ fixer ++ "' registered multiple actions to fix diagnostic '" ++
      id ++ "': '" ++ first ++ "' and '" ++ second ++ "'")
  | notCombined fixer count id =>
    some (.info, "Fixer '" ++ fixer ++ "' produced no fix-all action for " ++ toString count ++
      " '" ++ id ++ "' diagnostic(s)")
  | _ => none

end Event

end FixLoop
