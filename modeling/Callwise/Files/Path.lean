/-!
# Paths

A path is a text in which slashes separate names. Two spellings name the same path if they have the
same parts: repeated slashes, a slash at the end and a dot between slashes make no difference, but a
dot at the start does. Paths are ordered part by part.
-/

namespace Callwise

/-- A part of a path. -/
inductive PathPart where
  /-- The slash at the start. -/
  | root
  /-- The dot at the start. -/
  | here
  /-- Two dots. -/
  | up
  | name (text : String)
  deriving DecidableEq, Repr, Inhabited

/-- The position of the kind of a part in the order. -/
def PathPart.rank : PathPart → Nat
  | root => 0
  | here => 1
  | up => 2
  | name _ => 3

/-- The text of a name, and nothing for another part. -/
def PathPart.text : PathPart → String
  | name text => text
  | _ => ""

/-- Parts are ordered by kind, and names by their characters. -/
def PathPart.precedes (first second : PathPart) : Bool :=
  first.rank < second.rank || (first.rank == second.rank && first.text < second.text)

namespace Path

/-- The texts between slashes. -/
def pieces (path : String) : List String := (path.toList.splitOn '/').map String.ofList

/-- The texts between slashes that are not empty. -/
def segments (path : String) : List String :=
  (pieces path).filter fun segment => !segment.isEmpty

/-- The path starts at the root. -/
def isAbsolute (path : String) : Bool := path.toList.head? == some '/'

/-- The path ends with a slash. -/
def endsWithSlash (path : String) : Bool := path.toList.getLast? == some '/'

/-- The part that a segment stands for, if it is not a dot. -/
def part? (segment : String) : Option PathPart :=
  if segment == "." then none
  else if segment == ".." then some .up
  else some (.name segment)

/-- The parts of a path. -/
def parts (path : String) : List PathPart :=
  let rest := (segments path).filterMap part?
  if isAbsolute path then .root :: rest
  else if (segments path).head? == some "." then .here :: rest
  else rest

/-- The parts of the first path come before those of the second. -/
def partsPrecede : List PathPart → List PathPart → Bool
  | [], [] => false
  | [], _ :: _ => true
  | _ :: _, [] => false
  | first :: rest, second :: others =>
    first.precedes second || (first == second && partsPrecede rest others)

/-- The first path comes before the second. -/
def precedes (first second : String) : Bool := partsPrecede (parts first) (parts second)

/-- The paths in their order, each once. Of several spellings the first one stays. -/
def sorted (paths : List String) : List String :=
  let ordered := paths.mergeSort fun first second => !precedes second first
  ordered.foldr (fun path rest =>
    match rest with
    | next :: others => if parts path == parts next then path :: others else path :: rest
    | [] => [path]) []

/-- A name behind a path. -/
def join (path name : String) : String :=
  if path.isEmpty || endsWithSlash path then path ++ name else path ++ "/" ++ name

end Path

end Callwise
