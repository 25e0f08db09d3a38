/-!
# Places in a source text

A span is a pair of byte offsets into the UTF-8 text, the end excluded. Lines begin at the
start of the text and after every line feed; they are counted from one and columns in bytes
from zero.
-/

namespace Callwise

/-- A stretch of text by the offsets of its first byte and of the byte behind it. -/
structure Span where
  start : Nat
  stop : Nat
  deriving DecidableEq, Repr, Inhabited

/-- A stretch of text by lines and columns. -/
structure Location where
  line : Nat
  col : Nat
  endLine : Nat
  endCol : Nat
  deriving DecidableEq, Repr, Inhabited

/-- The location of something that stands nowhere. -/
def Location.nowhere : Location := ⟨0, 0, 0, 0⟩

/-- The offsets at which the lines of a text begin, in ascending order. There is always a first
line. -/
structure LineIndex where
  starts : Array Nat
  nonempty : 0 < starts.size

instance : Inhabited LineIndex := ⟨⟨#[0], Nat.zero_lt_one⟩⟩

namespace LineIndex

/-- The offset behind every line feed, for a text that begins at the given offset. -/
def startsFrom (offset : Nat) : List Char → List Nat
  | [] => []
  | char :: rest =>
    let next := offset + char.utf8Size
    if char == '\n' then next :: startsFrom next rest else startsFrom next rest

/-- The lines of a text. -/
def ofText (text : String) : LineIndex := ⟨(0 :: startsFrom 0 text.toList).toArray, by simp⟩

/-- The number of lines. -/
def lineCount (index : LineIndex) : Nat := index.starts.size

/-- Halve a stretch of an ascending array until one place is left. A half is kept from its first
place on if the value there is not above the wanted one. -/
def narrow (values : Array Nat) (wanted base size : Nat) (some : 0 < size)
    (within : base + size ≤ values.size) : Fin values.size :=
  if single : size = 1 then ⟨base, by omega⟩
  else if wanted < values[base + size / 2] then
    narrow values wanted base (size - size / 2) (by omega) (by omega)
  else narrow values wanted (base + size / 2) (size - size / 2) (by omega) (by omega)
termination_by size

/-- The place of a value in an ascending array. If the value is missing, the error is the place
where it belongs. -/
def search (values : Array Nat) (wanted : Nat) :
    Except (Fin (values.size + 1)) (Fin values.size) :=
  if some : 0 < values.size then
    let place := narrow values wanted 0 values.size some (by omega)
    if values[place] = wanted then .ok place
    else if values[place] < wanted then .error place.succ
    else .error place.castSucc
  else .error 0

/-- The line of an offset, counted from zero: the line that starts there, or the one before the
place where such a line belongs. -/
def lineOf (index : LineIndex) (offset : Nat) : Fin index.starts.size :=
  match search index.starts offset with
  | .ok line => line
  | .error line => ⟨line.val - 1, by have := index.nonempty; omega⟩

/-- The line, counted from one, and the column of an offset. -/
def position (index : LineIndex) (offset : Nat) : Nat × Nat :=
  let line := index.lineOf offset
  (line + 1, offset - index.starts[line])

/-- The location of a span. -/
def locate (index : LineIndex) (span : Span) : Location :=
  let (line, col) := index.position span.start
  let (endLine, endCol) := index.position span.stop
  ⟨line, col, endLine, endCol⟩

end LineIndex

end Callwise
