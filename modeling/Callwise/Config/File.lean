import Callwise.Config.Text
import Callwise.Files.Tree

/-!
# Configuration files

A configuration is loaded from a file that holds its text, and saved by writing its text. Saving
works on a file system and leaves one behind, whether it succeeds or not. What is saved loads as the
same configuration. A configuration that has no text leaves the file system as it is.
-/

namespace Callwise

/-- Why a configuration cannot be loaded. -/
inductive ConfigError where
  | unreadable (error : FileError)
  | invalid (fault : ConfigFault)
  deriving DecidableEq, Repr, Inhabited

/-- The text of the error. -/
def ConfigError.message : ConfigError → String
  | unreadable error => "Failed to read config: " ++ error.message
  | invalid fault => fault.message

/-- Why a configuration cannot be saved. -/
inductive SaveError where
  | unwritable (error : UnwritableConfig)
  | notWritten (error : FileError)
  deriving DecidableEq, Repr, Inhabited

/-- The text of the error. -/
def SaveError.message : SaveError → String
  | unwritable error => error.message
  | notWritten error => "Failed to write config: " ++ error.message

namespace Config

/-- The configuration in a file. -/
def load (tree : FileTree) (path : String) : Except ConfigError Config :=
  match tree.readText path with
  | .error error => .error (.unreadable error)
  | .ok text =>
    match Config.ofText text with
    | .error fault => .error (.invalid fault)
    | .ok config => .ok config

/-- Write the configuration to a file of the file system at hand: first its text is made, then the
file is written. -/
def save (config : Config) (path : String) : EStateM SaveError FileTree Unit :=
  match config.toText with
  | .error error => throw (.unwritable error)
  | .ok text => (FileTree.overwrite path text).adaptExcept .notWritten

end Config

end Callwise
