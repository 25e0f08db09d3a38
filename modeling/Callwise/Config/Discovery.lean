import Callwise.Config.File

/-!
# Finding the configuration

The configuration of a directory is in the nearest file with one of two names, in the directory or
above it. If this file cannot be read or is no configuration, the standard one holds; files further
up are not looked at.
-/

namespace Callwise

namespace Config

/-- The names of configuration files in the order in which they are looked for. -/
def fileNames : List String := [".typyrc", ".typyrc.toml"]

/-- The configuration file in a directory, which is given by its segments from the root. -/
def fileIn? (tree : FileTree) (directory : List String) : Option String :=
  (fileNames.map fun name => "/" ++ "/".intercalate (directory ++ [name])).find? tree.isFile

/-- The nearest configuration file. The directory is given by its segments from the last to the
first. -/
def nearestFile? (tree : FileTree) : List String → Option String
  | [] => fileIn? tree []
  | segment :: above =>
    match fileIn? tree (segment :: above).reverse with
    | some path => some path
    | none => nearestFile? tree above

/-- The configuration that holds in a directory, which is given by its segments from the root. -/
def discover (tree : FileTree) (directory : List String) : Config :=
  match nearestFile? tree directory.reverse with
  | none => .standard
  | some path =>
    match load tree path with
    | .ok config => config
    | .error _ => .standard

end Config

end Callwise
