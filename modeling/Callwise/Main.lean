import Callwise.Command.Run

/-!
# The program

The run itself is a function on a file system that is given as a value. The program loads the part
of the disk that the arguments can lead to, calls this function, and does what its outcome says.
-/

namespace Callwise

/-- The segments of a path from the root, without dots. -/
def fromRoot (current : List String) (path : String) : List String :=
  (Path.segments path).foldl
    (fun place segment =>
      if segment == "." then place
      else if segment == ".." then place.dropLast
      else place ++ [segment])
    (if Path.isAbsolute path then [] else current)

/-- What the disk has at a path, without the entries of a directory. -/
def diskNode? (path : String) : IO (Option FileNode) := do
  let place := (← IO.currentDir) / path
  if ← place.isDir then return some (.directory [])
  try
    return some (.file (← IO.FS.readBinFile place))
  catch _ => return none

/-- The content of a file of this name can be asked for when its directory is checked. -/
def isOfInterest (name : String) : Bool := name.endsWith ".py" || Config.fileNames.contains name

/-- A directory of the disk with all that is below it. -/
partial def diskDirectory (path : String) : IO FileNode := do
  let mut entries := #[]
  for entry in ← ((← IO.currentDir) / path).readDir do
    let name := entry.fileName
    let inner := Path.join path name
    if ← entry.path.isDir then
      entries := entries.push (name, ← diskDirectory inner)
    else if isOfInterest name then
      entries := entries.push (name, ((← diskNode? inner).getD (.file .empty)))
    else
      entries := entries.push (name, .file .empty)
  return .directory entries.toList

/-- Add what the disk has at each place on the way to a path. -/
def loadAlong (root : FileNode) (segments : List String) : IO FileNode := do
  let mut root := root
  for count in [0:segments.length] do
    let place := segments.take (count + 1)
    if (root.descend? place).isNone then
      if let some node ← diskNode? ("/" ++ "/".intercalate place) then
        root := FileNode.insert node place root
  return root

/-- The part of the disk that a run with these options can look at. -/
def loadTree (options : Options) (current : List String) : IO FileTree := do
  let mut root : FileNode := .directory []
  for path in options.paths do
    let isPattern := path.toList.any ("*?[".toList.contains ·)
    let place := if isPattern then current else fromRoot current path
    if let some (.directory _) ← diskNode? ("/" ++ "/".intercalate place) then
      root := FileNode.insert (← diskDirectory ("/" ++ "/".intercalate place)) place root
  for count in [0:current.length + 1] do
    for name in Config.fileNames do
      root ← loadAlong root (current.take count ++ [name])
  for path in options.paths ++ options.configPath.toList do
    root ← loadAlong root (fromRoot current path)
  return { root, current }

end Callwise

/-- Run with the arguments of the command line. -/
def main (arguments : List String) : IO UInt32 := do
  let current := Callwise.Path.segments (← IO.currentDir).toString
  let tree ← match Callwise.Options.ofArguments arguments with
    | .ok options => Callwise.loadTree options current
    | .error _ => pure {}
  let outcome := Callwise.runCommand arguments tree
  if let some (path, text) := outcome.created then IO.FS.writeFile path text
  (← IO.getStdout).putStr outcome.output
  (← IO.getStderr).putStr outcome.errorOutput
  return outcome.status.toUInt32
