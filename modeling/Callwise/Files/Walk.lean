import Callwise.Files.Pattern
import Callwise.Files.Tree

/-!
# Files that a pattern names

A pattern for paths is taken apart at its slashes, and each part is matched against the names in a
directory. A part without special characters is looked up and not compared, so it also finds the
directory itself and the one above. Names behind the current directory are written without a dot in
front.
-/

namespace Callwise

namespace FileNode

mutual

/-- What is below a node at any depth, with the names on the way. -/
def descendants : FileNode → List (List String × FileNode)
  | file _ => []
  | directory entries => descendantsOf entries

/-- What the entries of a directory hold, themselves included. -/
def descendantsOf : List (String × FileNode) → List (List String × FileNode)
  | [] => []
  | (name, node) :: rest =>
    ([name], node) :: (descendants node).map (fun found => (name :: found.1, found.2))
      ++ descendantsOf rest

end

end FileNode

namespace FileTree

/-- The path is a way to write the directory in which the walk starts. -/
def isHere (path : String) : Bool := Path.parts path == [.here]

/-- A name behind a path. The current directory is not written. -/
def behind (path name : String) : String := if isHere path then name else Path.join path name

/-- The paths behind a path that a list of patterns names. In a deep walk the first pattern is
compared with the names at every depth. A pattern that starts with a dot also finds the directory
itself and the one above. -/
def walk (tree : FileTree) : (isDeep : Bool) → List Pattern → (path : String) → List String
  | false, [], path => [path]
  | true, [], path =>
    match tree.find path with
    | .error _ => []
    | .ok node =>
      (node.descendants.filter fun found => found.2.isDirectory).map fun found =>
        found.1.foldl behind path
  | true, pattern :: rest, path =>
    if pattern.isRecursive then walk tree true rest path
    else
      match tree.find path with
      | .error _ => []
      | .ok node =>
        (node.descendants.filter fun found => pattern.fits (found.1.getLast?.getD "")).flatMap
          fun found => walk tree false rest (found.1.foldl behind path)
  | false, pattern :: rest, path =>
    match pattern.literal? with
    | some name =>
      let isSpecial := name == "." || name == ".."
      let next := behind path name
      if isSpecial && tree.isDirectory path || !isSpecial && tree.exists? next then
        walk tree false rest next
      else []
    | none =>
      if pattern.isRecursive then walk tree true rest path
      else
        match tree.find path with
        | .error _ => []
        | .ok node =>
          let names := (node.entries.map Prod.fst).filter pattern.fits
          let special :=
            if pattern.head? == some (.char '.') && node.isDirectory then
              [".", ".."].filter pattern.fits
            else []
          names.flatMap (fun name => walk tree false rest (behind path name))
            ++ special.flatMap fun name => walk tree false rest (Path.join path name)

/-- The paths that a pattern names, or what is wrong with it. -/
def glob (tree : FileTree) (text : String) : Except PatternFault (List String) := do
  let _ ← Pattern.ofText text
  let isAbsolute := Path.isAbsolute text
  let relative := if isAbsolute then String.ofList (text.toList.dropWhile (· == '/')) else text
  let patterns ← (Path.pieces relative).mapM Pattern.ofText
  return tree.walk false patterns (if isAbsolute then "/" else ".")

end FileTree

end Callwise
