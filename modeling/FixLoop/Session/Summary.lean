import FixLoop.Session.Result
import FixLoop.Value

/-!
Summaries: results as tables of data, as they are printed for other programs.
-/

namespace FixLoop

namespace Skipped

def toValue (skipped : Skipped) : Value :=
  .table [
    ("id", .text skipped.id), ("reason", .text skipped.reason.label),
    ("detail", .text skipped.detail)]

end Skipped

namespace UnitResult

/-- A result as a table; the limit and build errors are mentioned only where there are any. -/
def toValue (result : UnitResult) : Value :=
  let limit := if result.limitReached then [("iteration_limit_reached", .bool true)] else []
  let errors :=
    if result.compilerErrors.isEmpty then []
    else [("compiler_errors", .list (result.compilerErrors.map fun d => .text d.text))]
  .table <| [
    ("unit", .text result.unitName), ("kind", .text result.kind.label),
    ("iterations", .int result.iterations), ("fixed", .list (result.fixedIds.map .text)),
    ("skipped", .list (result.skipped.map Skipped.toValue))] ++ limit ++ errors

end UnitResult

/-- A number of seconds rounded to thousandths; a whole number stays as it is. -/
def roundedSeconds (seconds : Value) : Value :=
  match seconds with
  | .real x => .real x.toThousandths
  | value => (value.int?.map .int).getD value

namespace RunReport

/-- A report as a table, with the seconds that the run took if they are given. -/
def toValue (report : RunReport) (elapsed : Option Value) : Value :=
  .table <| [
    ("success", .bool report.isSuccess), ("cancelled", .bool report.cancelled),
    ("aborted", .bool report.aborted)] ++
    (elapsed.map fun seconds => ("elapsed", roundedSeconds seconds)).toList ++ [
    ("units", .list (report.results.map UnitResult.toValue)),
    ("fixed_diagnostics", .list (report.fixedDiagnostics.map fun descriptor =>
      .table [("id", .text descriptor.id), ("title", .text descriptor.title)]))]

end RunReport

end FixLoop
