import Callwise.Check.Report
import Callwise.Text.Json

/-!
# Reports as JSON

Each report is an object with the file and its diagnostics. The cause of a diagnostic starts with
its code, and the details follow.
-/

namespace Callwise

/-- A cause with its code and details. -/
def Cause.toJson (cause : Cause) : Json :=
  let details : List (String × Json) := match cause with
    | .typeMismatch expected found => [("expected", .text expected), ("found", .text found)]
    | .invalidArgument index callee expected found =>
      [("index", .number index), ("callee", .text callee), ("expected", .text expected),
        ("found", .text found)]
    | .tooManyArguments callee => [("callee", .text callee)]
    | .tooFewArguments callee => [("callee", .text callee)]
    | .unexpectedKeyword callee name => [("callee", .text callee), ("name", .text name)]
    | .notCallable ty => [("ty", .text ty)]
    | .noMatchingOverload callee => [("callee", .text callee)]
    | .unsupportedSignature callee reason => [("callee", .text callee), ("reason", .text reason)]
    | .revealedType ty => [("ty", .text ty)]
    | .other message => [("message", .text message)]
  .object (("code", .text cause.code) :: details)

/-- A location. -/
def Location.toJson (location : Location) : Json :=
  .object
    [("line", .number location.line), ("col", .number location.col),
      ("end_line", .number location.endLine), ("end_col", .number location.endCol)]

/-- A diagnostic. -/
def Diagnostic.toJson (diagnostic : Diagnostic) : Json :=
  .object
    [("kind", diagnostic.cause.toJson), ("severity", .text diagnostic.severity.text),
      ("location", diagnostic.location.toJson), ("file", .text diagnostic.file),
      ("suggestions", .array (diagnostic.suggestions.map .text))]

/-- A report. -/
def Report.toJson (report : Report) : Json :=
  .object
    [("file", .text report.file),
      ("diagnostics", .array (report.diagnostics.map Diagnostic.toJson))]

end Callwise
