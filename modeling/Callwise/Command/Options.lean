import Callwise.Config.Basic

/-!
# Command-line options

Arguments are read from left to right. A switch stands alone; a setting takes the next argument as
its value, whatever it looks like; an argument that starts with a dash and is neither is refused;
all others are paths. A request for help ends the reading.
-/

namespace Callwise

/-- An option without a value. -/
inductive Switch where
  | help
  | verbose
  | noColor
  | noParallel
  | noReveal
  | noPlugins
  | init
  deriving DecidableEq, Repr, Inhabited

/-- An option with a value. -/
inductive Setting where
  | config
  | plugin
  | maxErrors
  | format
  deriving DecidableEq, Repr, Inhabited

/-- What an argument is when it is not the value of a setting. -/
inductive ArgumentRole where
  | switch (switch : Switch)
  | setting (setting : Setting)
  | unknown
  | path
  deriving DecidableEq, Repr, Inhabited

/-- The role of an argument. -/
def ArgumentRole.ofText (text : String) : ArgumentRole :=
  match text with
  | "--help" | "-h" => .switch .help
  | "--verbose" | "-v" => .switch .verbose
  | "--no-color" => .switch .noColor
  | "--no-parallel" => .switch .noParallel
  | "--no-reveal" => .switch .noReveal
  | "--no-plugins" => .switch .noPlugins
  | "--init" => .switch .init
  | "--config" => .setting .config
  | "--plugin" => .setting .plugin
  | "--max-errors" => .setting .maxErrors
  | "--format" => .setting .format
  | other => if other.toList.head? == some '-' then .unknown else .path

/-- What the arguments ask for. What is not set comes from the configuration. -/
structure Options where
  paths : List String := []
  configPath : Option String := none
  plugins : Option (List String) := none
  maxErrors : Option Nat := none
  color : Option Bool := none
  format : Option ReportFormat := none
  showRevealedTypes : Option Bool := none
  parallel : Bool := true
  verbose : Bool := false
  /-- Write a configuration file and do not check anything. -/
  init : Bool := false
  help : Bool := false
  deriving DecidableEq, Repr, Inhabited

/-- What is wrong with the arguments. -/
inductive UsageError where
  | missingValue (option : String)
  | invalidMaxErrors
  | unknownFormat (error : ReportFormat.UnknownFormat)
  | unknownOption (option : String)
  | noPaths
  deriving DecidableEq, Repr, Inhabited

/-- The text of the error. -/
def UsageError.message : UsageError → String
  | missingValue option => option ++ " requires an argument"
  | invalidMaxErrors => "Invalid value for --max-errors"
  | unknownFormat error => error.message
  | unknownOption option => "Unknown option: " ++ option
  | noPaths => "No paths specified"

/-- A number of 64 bits in decimal digits, possibly behind a plus sign. -/
def word64? (text : String) : Option Nat :=
  let digits := match text.toList with
    | '+' :: rest => rest
    | characters => characters
  if digits.isEmpty || !digits.all Char.isDigit then none
  else
    let value := digits.foldl (fun value c => 10 * value + (c.toNat - '0'.toNat)) 0
    if value < Nat.pow 2 64 then some value else none

namespace Options

/-- Turn a switch. -/
def turn (options : Options) : Switch → Options
  | .help => { options with help := true }
  | .verbose => { options with verbose := true }
  | .noColor => { options with color := some false }
  | .noParallel => { options with parallel := false }
  | .noReveal => { options with showRevealedTypes := some false }
  | .noPlugins => { options with plugins := some [] }
  | .init => { options with init := true }

/-- Give a setting a value. -/
def assign (options : Options) (value : String) : Setting → Except UsageError Options
  | .config => .ok { options with configPath := some value }
  | .plugin => .ok { options with plugins := some (options.plugins.getD [] ++ [value]) }
  | .maxErrors =>
    match word64? value with
    | some limit => .ok { options with maxErrors := some limit }
    | none => .error .invalidMaxErrors
  | .format =>
    match ReportFormat.ofName value with
    | .ok format => .ok { options with format := some format }
    | .error error => .error (.unknownFormat error)

/-- Read the rest of the arguments. -/
def scan (options : Options) : List String → Except UsageError Options
  | [] =>
    if options.paths.isEmpty && !options.init then .error .noPaths else .ok options
  | argument :: rest =>
    match ArgumentRole.ofText argument with
    | .switch .help => .ok (options.turn .help)
    | .switch switch => scan (options.turn switch) rest
    | .setting setting =>
      match rest with
      | [] => .error (.missingValue argument)
      | value :: rest =>
        match options.assign value setting with
        | .ok options => scan options rest
        | .error error => .error error
    | .unknown => .error (.unknownOption argument)
    | .path => scan { options with paths := options.paths ++ [argument] } rest

/-- The options that a list of arguments asks for. -/
def ofArguments (arguments : List String) : Except UsageError Options := scan {} arguments

/-- The configuration with what the options set. -/
def apply (options : Options) (config : Config) : Config where
  plugins := options.plugins.getD config.plugins
  check :=
    { config.check with
      showRevealedTypes := options.showRevealedTypes.getD config.check.showRevealedTypes }
  errors :=
    { config.errors with
      maxErrors := options.maxErrors.getD config.errors.maxErrors
      color := options.color.getD config.errors.color
      format := options.format.getD config.errors.format }
  paths := config.paths

/-- The help text for a program of this name. -/
def usage (program : String) : String :=
  "\n".intercalate
    ["Type checker with call-site plugins for the returns library",
      "",
      "USAGE:",
      "    " ++ program ++ " [OPTIONS] <path>...",
      "",
      "OPTIONS:",
      "    -h, --help            Print help information",
      "    -v, --verbose         Debug logging",
      "    --config <FILE>       Configuration file (default: nearest .typyrc)",
      "    --plugin <NAME>       Load a plugin; may be repeated",
      "    --no-plugins          Check without plugins",
      "    --max-errors <N>      Maximum errors to report per file",
      "    --format <FORMAT>     default, compact or json",
      "    --no-color            Disable colored output",
      "    --no-reveal           Hide reveal_type notes",
      "    --no-parallel         Check files one at a time",
      "    --init                Write a default configuration file"]

end Options

end Callwise
