import Callwise.Config.Basic
import Callwise.Module.Bundled

/-!
# Checking a file

`checkSource` checks the text of one file as a configuration says: with its plugins, against the
bundled modules, and with its wishes for what is reported.
-/

namespace Callwise

/-- The diagnostics of a file. -/
structure Report where
  file : String
  diagnostics : List Diagnostic := []
  deriving DecidableEq, Repr, Inhabited

namespace Report

/-- The number of errors. -/
def errorCount (report : Report) : Nat := report.diagnostics.countP Diagnostic.isError

/-- The number of notes. -/
def noteCount (report : Report) : Nat := report.diagnostics.length - report.errorCount

/-- There is an error. -/
def hasErrors (report : Report) : Bool := report.diagnostics.any Diagnostic.isError

/-- The same report without suggestions. -/
def withoutSuggestions (report : Report) : Report :=
  { report with
    diagnostics := report.diagnostics.map fun diagnostic => { diagnostic with suggestions := [] } }

end Report

/-- Why a file could not be checked. -/
inductive CheckFailure where
  | unknownPlugin (error : UnknownPlugin)
  | syntaxFault (fault : SyntaxFault)
  deriving DecidableEq, Repr, Inhabited

/-- The text of a failure. -/
def CheckFailure.message : CheckFailure → String
  | unknownPlugin error => error.message
  | syntaxFault fault => "Parse error: " ++ fault.message

/-- Check the text of a file with plugins that have been loaded. -/
def checkSourceWith (plugins : List Plugin) (file text : String) (config : Config) :
    Except CheckFailure Report :=
  if !config.check.enabled then .ok { file }
  else
    match parseProgram text with
    | .error fault => .error (.syntaxFault fault)
    | .ok body =>
      let checker : Checker :=
        { file
          collector := { limit := config.errors.maxErrors }
          showRevealed := config.check.showRevealedTypes }
      let env : Environment := { plugins, index := Bundled.index }
      let report : Report := ⟨file, (checker.checkModule env body text).diagnostics⟩
      .ok (if config.errors.showSuggestions then report else report.withoutSuggestions)

/-- Check the text of a file. -/
def checkSource (file text : String) (config : Config) : Except CheckFailure Report :=
  match Plugin.loadAll config.plugins with
  | .error error => .error (.unknownPlugin error)
  | .ok plugins => checkSourceWith plugins file text config

/-- A diagnostic as the formats for people print it. -/
def Diagnostic.renderAs (diagnostic : Diagnostic) : ReportFormat → String
  | .compact =>
    diagnostic.file ++ ":" ++ diagnostic.location.line.repr ++ ":"
      ++ diagnostic.location.col.repr ++ ": " ++ diagnostic.severity.text ++ ": "
      ++ diagnostic.message
  | _ => diagnostic.render

end Callwise
