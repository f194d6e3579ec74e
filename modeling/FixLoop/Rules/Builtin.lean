import FixLoop.Rules.EmbeddedStatement
import FixLoop.Rules.FinalNewline
import FixLoop.Rules.TabIndentation
import FixLoop.Rules.TrailingWhitespace

/-!
The built-in plugins, in registration order.
-/

namespace FixLoop

namespace Builtin

variable {σ : Type}

def analyzers : List (Analyzer σ) := [
  EmbeddedStatement.analyzer, TrailingWhitespace.analyzer, FinalNewline.analyzer,
  TabIndentation.analyzer]

def fixers : List (Fixer σ) := [
  EmbeddedStatement.fixer, TrailingWhitespace.fixer, FinalNewline.fixer, TabIndentation.fixer]

end Builtin

end FixLoop
