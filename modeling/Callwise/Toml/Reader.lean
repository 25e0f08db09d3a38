import Callwise.Toml.Node
import Callwise.Toml.Text
import Callwise.Toml.Scalar

/-!
# Reading a settings file

A file is a list of lines, each of which is empty or holds one header or one key with its value.
Arrays and tables in braces nest at most 79 deep, and a key has at most 79 parts.
-/

namespace Callwise.Toml

/-- A step of reading, which fails on text that does not fit. -/
abbrev Reader := StateT (List Char) Option

namespace Reader

variable {α : Type}

/-- Refuse the text. -/
def refuse : Reader α := fun _ => none

/-- The next character. -/
def peek? : Reader (Option Char) := fun text => some (text.head?, text)

/-- Take the next character if it is this one. -/
def accept (c : Char) : Reader Bool := fun text =>
  match text with
  | first :: rest => if first == c then some (true, rest) else some (false, text)
  | [] => some (false, [])

/-- Take this character. -/
def expect (c : Char) : Reader Unit := do
  if !(← accept c) then refuse

/-- Take what a function finds. -/
def found (find : List Char → Option (α × List Char)) : Reader α := find

/-- Take these characters. -/
def word : List Char → Reader Unit
  | [] => pure ()
  | c :: rest => do
    expect c
    word rest

/-- Skip blanks. -/
def blanks : Reader Unit := modify (List.dropWhile isBlank)

/-- Skip a comment. -/
def comment : Reader Unit := do
  if ← accept '#' then modify (List.dropWhile isPlain)

/-- Take a line end. -/
def lineEnd : Reader Unit := fun text =>
  if startsWithLineEnd text then some ((), dropLineEnd text) else none

/-- Take the rest of a line that holds no more than a comment. -/
def restOfLine : Reader Unit := do
  blanks
  comment
  match ← peek? with
  | none => pure ()
  | some _ => lineEnd

/-- Skip blanks, line ends and comments, at most `bound` of them. -/
def gap : (bound : Nat) → Reader Unit
  | 0 => pure ()
  | bound + 1 => do
    blanks
    match ← peek? with
    | some '#' | some '\n' | some '\r' =>
      comment
      lineEnd
      gap bound
    | _ => pure ()

/-- The number of characters ahead. -/
def ahead : Reader Nat := fun text => some (text.length, text)

/-! ### Keys -/

/-- A character of a key without quotes. -/
def isBare (c : Char) : Bool := c.isAlphanum || c == '-' || c == '_'

/-- One part of a key. -/
def keyPart : Reader String := do
  match ← peek? with
  | some '\x22' =>
    expect '\x22'
    String.ofList <$> found basicText
  | some '\x27' =>
    expect '\x27'
    String.ofList <$> found literalText
  | _ =>
    let text ← get
    set (text.dropWhile isBare)
    let part := text.takeWhile isBare
    if part.isEmpty then refuse else pure (String.ofList part)

/-- The parts of a key, with dots between them. -/
def keyParts : (bound : Nat) → Reader (List String)
  | 0 => refuse
  | bound + 1 => do
    blanks
    let first ← keyPart
    blanks
    if ← accept '.' then return first :: (← keyParts bound) else return [first]

/-- The largest number of nested values and of parts of a key. -/
def nestingLimit : Nat := 79

/-- A key: the parts before the last one, and the last one. -/
def key : Reader (List String × String) := do
  let parts ← keyParts nestingLimit
  match parts.getLast? with
  | some last => pure (parts.dropLast, last)
  | none => refuse

/-! ### Values -/

/-- A value that is no string, array or table. -/
def scalar : Reader Node := do
  match ← peek? with
  | some 't' =>
    word "true".toList
    pure (.boolean true)
  | some 'f' =>
    word "false".toList
    pure (.boolean false)
  | _ =>
    let text ← get
    match moment? text with
    | some rest =>
      set rest
      pure .moment
    | none =>
      match (float? text).orElse fun _ => specialFloat? text with
      | some rest =>
        set rest
        pure .float
      | none => Node.integer <$> found integer?

/-- The items of an array and the closing bracket. A comma may follow the last item. -/
def items (value : Reader Node) : (bound : Nat) → Reader (List Node)
  | 0 => refuse
  | bound + 1 => do
    gap (← ahead)
    if ← accept ']' then return []
    let first ← value
    gap (← ahead)
    if ← accept ',' then return first :: (← items value bound)
    expect ']'
    return [first]

/-- A key with its value. -/
def keyValue (value : Reader Node) : Reader (List String × String × Node) := do
  let (path, last) ← key
  expect '='
  blanks
  return (path, last, ← value)

/-- The fields of a table in braces and the closing brace, when there is at least one. No comma
follows the last field. -/
def inlineFields (value : Reader Node) : (bound : Nat) → Fields → Reader Fields
  | 0, _ => refuse
  | bound + 1, fields => do
    let (path, last, node) ← keyValue value
    blanks
    match fields.addDotted path last node .header with
    | none => refuse
    | some (_, fields) =>
      if ← accept ',' then inlineFields value bound fields
      else
        expect '\x7d'
        return fields

/-- A value in which arrays and tables nest at most `depth - 1` deep. -/
def value : (depth : Nat) → Reader Node
  | 0 => refuse
  | depth + 1 => do
    match ← peek? with
    | some '\x22' | some '\x27' =>
      (fun text => Node.text (String.ofList text)) <$> found readText?
    | some '[' =>
      if depth == 0 then refuse
      expect '['
      return .array (← items (value depth) (← ahead))
    | some '\x7b' =>
      if depth == 0 then refuse
      expect '\x7b'
      blanks
      if ← accept '\x7d' then return .inline []
      return .inline (← inlineFields (value depth) (← ahead) [])
    | _ => scalar

/-! ### Lines -/

/-- What has been read: the fields of the file, and the path of the table that the last header
opened. -/
structure Document where
  fields : Fields := []
  current : List String := []

namespace Document

/-- Add a value under a key to the table of the last header. -/
def addValue (document : Document) (path : List String) (last : String) (node : Node) :
    Option Document := do
  let (_, fields) ← document.fields.update .implied (Fields.addDotted path last node)
    document.current .header
  some { document with fields }

/-- Open a table. It is new, or it was named only on the way to others. -/
def openTable (document : Document) (path : List String) (last : String) : Option Document := do
  let change := fun (origin : Origin) (fields : Fields) =>
    match fields.lookup last with
    | none => some (origin, fields ++ [(last, .table .header [])])
    | some (.table .implied content) =>
      some (origin, fields.replace last (.table .header content))
    | some _ => none
  let (_, fields) ← document.fields.update .implied change path .header
  some ⟨fields, path ++ [last]⟩

/-- Open another row of a table of rows. -/
def openRow (document : Document) (path : List String) (last : String) : Option Document := do
  let change := fun (origin : Origin) (fields : Fields) =>
    match fields.lookup last with
    | none => some (origin, fields ++ [(last, .rows [] [])])
    | some (.rows latest earlier) =>
      some (origin, fields.replace last (.rows [] (latest :: earlier)))
    | some _ => none
  let (_, fields) ← document.fields.update .implied change path .header
  some ⟨fields, path ++ [last]⟩

end Document

/-- A change of the document that may be refused. -/
def changed (document : Option Document) : Reader Document :=
  match document with
  | some document => pure document
  | none => refuse

/-- A header, behind its first bracket. -/
def header (document : Document) : Reader Document := do
  let isRow ← accept '['
  let (path, last) ← key
  expect ']'
  if isRow then expect ']'
  restOfLine
  changed (if isRow then document.openRow path last else document.openTable path last)

/-- The lines of a file, at most `bound` of them. -/
def lines : (bound : Nat) → Document → Reader Document
  | 0, document => pure document
  | bound + 1, document => do
    blanks
    match ← peek? with
    | none => pure document
    | some '#' | some '\n' | some '\r' =>
      restOfLine
      lines bound document
    | some '[' =>
      expect '['
      lines bound (← header document)
    | some _ =>
      let (path, last, node) ← keyValue (value (nestingLimit + 1))
      restOfLine
      lines bound (← changed (document.addValue path last node))

end Reader

/-- The fields of a settings file. A byte order mark at its start is skipped. -/
def readFields? (text : String) : Option Fields :=
  let characters := match text.toList with
    | '\uFEFF' :: rest => rest
    | characters => characters
  (Reader.lines (characters.length + 1) {} characters).map fun (document, _) => document.fields

end Callwise.Toml
