import Callwise.Check.Json
import Callwise.Command.Options
import Callwise.Config.Discovery
import Callwise.Config.Selection
import Callwise.Files.Walk

/-!
# Running the command

A run reads the arguments, finds the configuration, collects the files, checks each of them, and
prints what was found. It works on a file system that is given as a value, so a run is a function:
its result holds the printed text, the exit status, and the file to be written, if there is one.

Files that are named are always checked; files in a named directory are checked if the configured
patterns select them.
-/

namespace Callwise

/-- The result of a run. -/
structure Outcome where
  output : String := ""
  errorOutput : String := ""
  status : Nat := 0
  /-- The path and the text of a new file. -/
  created : Option (String × String) := none
  deriving DecidableEq, Repr, Inhabited

/-- Why a run ends before files are checked. -/
inductive CommandError where
  | usage (error : UsageError)
  | alreadyThere (path : String)
  | notSaved (error : SaveError)
  | config (error : ConfigError)
  | plugin (error : UnknownPlugin)
  | pathNotFound (path : String)
  | pattern (fault : PatternFault)
  deriving DecidableEq, Repr, Inhabited

/-- The text of the error. -/
def CommandError.message : CommandError → String
  | usage error => error.message
  | alreadyThere path => path ++ " already exists"
  | notSaved error => error.message
  | config error => error.message
  | plugin error => error.message
  | pathNotFound path => "Path not found: " ++ path
  | pattern fault => "Glob pattern error: " ++ fault.message

/-- A colour of printed text. -/
inductive Color where
  | red
  | green
  | cyan
  deriving DecidableEq, Repr, Inhabited

/-- The number by which terminals know the colour. -/
def Color.code : Color → Nat
  | red => 31
  | green => 32
  | cyan => 36

namespace Outcome

/-- A line, possibly in colour. -/
def line (color : Color) (isColored : Bool) (text : String) : String :=
  if isColored then "\x1b[" ++ color.code.repr ++ "m" ++ text ++ "\x1b[0m\n" else text ++ "\n"

/-- Print more text. -/
def print (outcome : Outcome) (text : String) : Outcome :=
  { outcome with output := outcome.output ++ text }

/-- Print more text where errors go. -/
def printError (outcome : Outcome) (text : String) : Outcome :=
  { outcome with errorOutput := outcome.errorOutput ++ text }

/-- The outcome of a run that ends with an error. -/
def ofError (error : CommandError) : Outcome :=
  { errorOutput := "Error: " ++ error.message ++ "\n", status := 1 }

end Outcome

/-- Why a file has no report. -/
inductive FileFailure where
  | unreadable (path : String) (error : FileError)
  | unchecked (path : String) (failure : CheckFailure)
  deriving DecidableEq, Repr, Inhabited

/-- The text of the failure. -/
def FileFailure.message : FileFailure → String
  | unreadable path error => "Failed to read " ++ path ++ ": " ++ error.message
  | unchecked path failure => path ++ ": " ++ failure.message

/-- Check a file. -/
def checkFile (tree : FileTree) (plugins : List Plugin) (config : Config) (path : String) :
    Except FileFailure Report :=
  match tree.readText path with
  | .error error => .error (.unreadable path error)
  | .ok text =>
    match checkSourceWith plugins path text config with
    | .error failure => .error (.unchecked path failure)
    | .ok report => .ok report

namespace Options

/-- The configuration for the run: the named file or the nearest one, with what the options set. -/
def resolveConfig (options : Options) (tree : FileTree) : Except ConfigError Config := do
  let config ← match options.configPath with
    | some path => Config.load tree path
    | none => pure (Config.discover tree tree.current)
  return options.apply config

/-- The files in a directory that are to be checked. -/
def filesIn (tree : FileTree) (settings : PathSettings) (directory : String) :
    Except CommandError (List String) :=
  match tree.glob (directory ++ "/**/*.py") with
  | .error fault => .error (.pattern fault)
  | .ok paths => .ok (paths.filter fun path => tree.isFile path && settings.selects path)

/-- The files that a path on the command line stands for. -/
def filesAt (tree : FileTree) (settings : PathSettings) (path : String) :
    Except CommandError (List String) :=
  if tree.isFile path then .ok [path]
  else if tree.isDirectory path then filesIn tree settings path
  else .error (.pathNotFound path)

/-- The files to check, in order and each once. -/
def collectFiles (options : Options) (tree : FileTree) (settings : PathSettings) :
    Except CommandError (List String) := do
  let found ← options.paths.mapM (filesAt tree settings)
  return Path.sorted found.flatten

end Options

/-- What checking all files has given. -/
structure CheckResults where
  reports : List Report := []
  failures : List FileFailure := []
  deriving DecidableEq, Repr, Inhabited

namespace CheckResults

/-- Sort the results of the files. -/
def ofFiles (results : List (Except FileFailure Report)) : CheckResults where
  reports := results.filterMap Except.toOption
  failures := results.filterMap fun
    | .ok _ => none
    | .error failure => some failure

/-- The number of errors. A file without a report counts as one. -/
def errorCount (results : CheckResults) : Nat :=
  results.reports.foldl (fun count report => count + report.errorCount) results.failures.length

end CheckResults

/-- Apply a function to all items, apart on the two halves of the items and on the halves of those.
The results are joined in the order of the items. -/
def mapHalves {α β : Type} (apply : α → β) (items : List α) : List β :=
  if items.length ≤ 1 then items.map apply
  else
    mapHalves apply (items.take (items.length / 2))
      ++ mapHalves apply (items.drop (items.length / 2))
termination_by items.length
decreasing_by all_goals simp; omega

/-- A number of things. -/
def counted (number : Nat) (thing : String) : String :=
  number.repr ++ " " ++ thing ++ if number == 1 then "" else "s"

namespace Outcome

/-- Print a diagnostic: errors where errors go, notes where output goes. -/
def printDiagnostic (settings : ErrorSettings) (outcome : Outcome) (diagnostic : Diagnostic) :
    Outcome :=
  let text := diagnostic.renderAs settings.format
  if diagnostic.isError then outcome.printError (line .red settings.color text)
  else outcome.print (line .cyan settings.color text)

/-- Print the reports. -/
def printReports (settings : ErrorSettings) (reports : List Report) (outcome : Outcome) :
    Outcome :=
  match settings.format with
  | .json => outcome.print ((Json.array (reports.map Report.toJson)).render ++ "\n")
  | _ => (reports.flatMap Report.diagnostics).foldl (printDiagnostic settings) outcome

/-- Print why files have no report. -/
def printFailures (settings : ErrorSettings) (failures : List FileFailure) (outcome : Outcome) :
    Outcome :=
  failures.foldl
    (fun outcome failure => outcome.printError (line .red settings.color failure.message)) outcome

/-- Print how many errors there are. -/
def printSummary (settings : ErrorSettings) (files errors : Nat) (outcome : Outcome) : Outcome :=
  if settings.format == .json then outcome
  else if errors == 0 then
    outcome.print
      (line .green settings.color ("Checked " ++ counted files "file" ++ ", no errors found"))
  else
    outcome.printError
      ("\n" ++ line .red settings.color
        ("Found " ++ counted errors "error" ++ " in " ++ counted files "file"))

end Outcome

namespace Options

/-- Write a configuration file. -/
def writeConfig (options : Options) (tree : FileTree) : Except CommandError Outcome :=
  let path := options.configPath.getD ".typyrc"
  if tree.exists? path then .error (.alreadyThere path)
  else
    match tree.write path Config.standardText with
    | .error error => .error (.notSaved (.notWritten error))
    | .ok _ =>
      .ok { output := "Wrote " ++ path ++ "\n", created := some (path, Config.standardText) }

/-- The results of the files, in their order. Parallel workers share the files out by halves. -/
def resultsOf (options : Options) (tree : FileTree) (plugins : List Plugin) (config : Config)
    (files : List String) : List (Except FileFailure Report) :=
  if options.parallel then mapHalves (checkFile tree plugins config) files
  else files.map (checkFile tree plugins config)

/-- Check the files. -/
def checkFiles (options : Options) (tree : FileTree) : Except CommandError Outcome := do
  if options.paths.isEmpty then throw (.usage .noPaths)
  let config ← (options.resolveConfig tree).mapError .config
  let plugins ← (Plugin.loadAll config.plugins).mapError .plugin
  let files ← options.collectFiles tree config.paths
  let results := CheckResults.ofFiles (options.resultsOf tree plugins config files)
  let outcome : Outcome := { status := if results.errorCount == 0 then 0 else 1 }
  return ((outcome.printReports config.errors results.reports).printFailures config.errors
    results.failures).printSummary config.errors files.length results.errorCount

/-- Do what the options ask for. -/
def run (options : Options) (tree : FileTree) : Except CommandError Outcome :=
  if options.init then options.writeConfig tree else options.checkFiles tree

end Options

/-- The name of the command in its help text. -/
def commandName : String := "typthon-returns"

/-- Run the command with these arguments. -/
def runCommand (arguments : List String) (tree : FileTree) : Outcome :=
  match Options.ofArguments arguments with
  | .error error => .ofError (.usage error)
  | .ok options =>
    if options.help then { output := Options.usage commandName ++ "\n" }
    else
      match options.run tree with
      | .ok outcome => outcome
      | .error error => .ofError error

end Callwise
