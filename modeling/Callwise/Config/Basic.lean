/-!
# Configuration

What can be set for a run: the plugins, what is checked, how diagnostics are shown, and which files
of a directory are checked.
-/

namespace Callwise

/-- How diagnostics are printed. -/
inductive ReportFormat where
  | default
  | json
  | compact
  deriving DecidableEq, Repr, Inhabited

namespace ReportFormat

/-- The name of a format. -/
def name : ReportFormat → String
  | default => "default"
  | json => "json"
  | compact => "compact"

/-- A text that names no format. -/
structure UnknownFormat where
  text : String
  deriving DecidableEq, Repr, Inhabited

/-- The text of the error. -/
def UnknownFormat.message (error : UnknownFormat) : String :=
  "Unknown format: " ++ error.text ++ " (expected default, json or compact)"

/-- The format of this name. -/
def ofName (text : String) : Except UnknownFormat ReportFormat :=
  match [default, json, compact].find? fun format => format.name == text with
  | some format => .ok format
  | none => .error ⟨text⟩

end ReportFormat

/-- What is checked. -/
structure CheckSettings where
  enabled : Bool := true
  showRevealedTypes : Bool := true
  deriving DecidableEq, Repr, Inhabited

/-- How diagnostics are shown. -/
structure ErrorSettings where
  maxErrors : Nat := 100
  showSuggestions : Bool := true
  color : Bool := true
  format : ReportFormat := .default
  deriving DecidableEq, Repr, Inhabited

/-- Patterns for the files of a directory. -/
structure PathSettings where
  includePatterns : List String
  excludePatterns : List String
  deriving DecidableEq, Repr, Inhabited

/-- The patterns when none are configured. -/
def PathSettings.standard : PathSettings where
  includePatterns := ["**/*.py"]
  excludePatterns := ["**/__pycache__/**", "**/venv/**", "**/.venv/**"]

/-- A whole configuration. -/
structure Config where
  /-- The plugins in the order in which they are asked. -/
  plugins : List String := ["returns"]
  check : CheckSettings := {}
  errors : ErrorSettings := {}
  paths : PathSettings := .standard
  deriving DecidableEq, Repr, Inhabited

/-- The configuration in which nothing is set. -/
def Config.standard : Config := {}

end Callwise
