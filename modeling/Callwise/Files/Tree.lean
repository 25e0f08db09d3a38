import Callwise.Files.Path

/-!
# Files and directories

A file system is a tree of directories with a current directory. Looking up a path goes from segment
to segment: every segment but the last has to name a directory, and two dots lead to the directory
above.
-/

namespace Callwise

/-- A file or a directory with its entries. -/
inductive FileNode where
  | file (content : ByteArray)
  | directory (entries : List (String × FileNode))
  deriving Inhabited

/-- Why a file cannot be used. -/
inductive FileError where
  | notFound
  | notDirectory
  | isDirectory
  | notText
  deriving DecidableEq, Repr, Inhabited

/-- The text of the error. -/
def FileError.message : FileError → String
  | notFound => "No such file or directory (os error 2)"
  | notDirectory => "Not a directory (os error 20)"
  | isDirectory => "Is a directory (os error 21)"
  | notText => "stream did not contain valid UTF-8"

namespace FileNode

/-- The node is a file. -/
def isFile : FileNode → Bool
  | file _ => true
  | directory _ => false

/-- The node is a directory. -/
def isDirectory : FileNode → Bool
  | file _ => false
  | directory _ => true

/-- The entries of a directory. A file has none. -/
def entries : FileNode → List (String × FileNode)
  | file _ => []
  | directory entries => entries

/-- The node at the end of these names. -/
def descend? : List String → FileNode → Option FileNode
  | [], node => some node
  | name :: names, node => do descend? names (← node.entries.lookup name)

/-- Put a node at the end of these names. Directories that are missing on the way are made. -/
def insert (new : FileNode) : List String → FileNode → FileNode
  | [], _ => new
  | name :: names, node =>
    let inner := insert new names ((node.entries.lookup name).getD (.directory []))
    if (node.entries.lookup name).isSome then
      .directory (node.entries.map fun entry => if entry.1 == name then (name, inner) else entry)
    else .directory (node.entries ++ [(name, inner)])

end FileNode

/-- A file system with a current directory, given by the names on the way from the root. -/
structure FileTree where
  root : FileNode := .directory []
  current : List String := []
  deriving Inhabited

namespace FileTree

/-- Follow the segments of a path from a place, which is given by its names from the last to the
first. -/
def follow (tree : FileTree) : List String → (place : List String) →
    Except FileError (List String)
  | [], place => .ok place
  | segment :: segments, place =>
    match tree.root.descend? place.reverse with
    | none => .error .notFound
    | some (.file _) => .error .notDirectory
    | some (.directory entries) =>
      if segment == "." then follow tree segments place
      else if segment == ".." then follow tree segments place.tail
      else if (entries.lookup segment).isSome then follow tree segments (segment :: place)
      else .error .notFound

/-- The place at which a path starts. -/
def startOf (tree : FileTree) (path : String) : List String :=
  if Path.isAbsolute path then [] else tree.current.reverse

/-- What a path names. A path that ends with a slash names a directory, and the empty path names
nothing. -/
def find (tree : FileTree) (path : String) : Except FileError FileNode := do
  if path.isEmpty then throw .notFound
  let place ← tree.follow (Path.segments path) (tree.startOf path)
  match tree.root.descend? place.reverse with
  | none => .error .notFound
  | some node =>
    if Path.endsWithSlash path && !node.isDirectory then .error .notDirectory else .ok node

/-- The path names something. -/
def exists? (tree : FileTree) (path : String) : Bool := (tree.find path).isOk

/-- The path names a file. -/
def isFile (tree : FileTree) (path : String) : Bool :=
  match tree.find path with
  | .ok node => node.isFile
  | .error _ => false

/-- The path names a directory. -/
def isDirectory (tree : FileTree) (path : String) : Bool :=
  match tree.find path with
  | .ok node => node.isDirectory
  | .error _ => false

/-- The text of a file. -/
def readText (tree : FileTree) (path : String) : Except FileError String := do
  match ← tree.find path with
  | .directory _ => .error .isDirectory
  | .file content =>
    match String.fromUTF8? content with
    | some text => .ok text
    | none => .error .notText

/-- Write a file. Its directory has to be there; a file at the path is replaced, a directory is
not. -/
def write (tree : FileTree) (path text : String) : Except FileError FileTree := do
  match (Path.segments path).getLast? with
  | none => if Path.isAbsolute path then .error .isDirectory else .error .notFound
  | some name =>
    let place ← tree.follow (Path.segments path).dropLast (tree.startOf path)
    match tree.root.descend? place.reverse with
    | some (.directory entries) =>
      let isDirectory := (entries.lookup name).any FileNode.isDirectory
      if isDirectory || Path.endsWithSlash path || name == "." || name == ".." then
        .error .isDirectory
      else
        let new := FileNode.file text.toUTF8
        .ok { tree with root := FileNode.insert new (place.reverse ++ [name]) tree.root }
    | some (.file _) => .error .notDirectory
    | none => .error .notFound

/-- Write a file of the file system at hand. A file that cannot be written is not begun. -/
def overwrite (path text : String) : EStateM FileError FileTree Unit := fun tree =>
  match tree.write path text with
  | .error error => .error error tree
  | .ok changed => .ok () changed

end FileTree

end Callwise
