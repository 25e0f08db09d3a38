/-!
# Edit distance

The least number of single-character insertions, deletions and substitutions that turn one
text into another, computed row by row: the row of a beginning of the first text holds its
distances to all beginnings of the second. `nearest` picks the names close to a mistyped one.
-/

namespace Callwise.EditDistance

/-- The remaining entries of the next row. `above` is the rest of the previous row, starting
with the entry diagonally before the one to compute, and `left` is the entry computed last. -/
def extendRow (char : Char) : List Char → (above : List Nat) → (left : Nat) → List Nat
  | other :: others, diagonal :: upper :: above, left =>
    let changed := if char == other then diagonal else diagonal + 1
    let entry := min (min (upper + 1) (left + 1)) changed
    entry :: extendRow char others (upper :: above) entry
  | _, _, _ => []

/-- The row after one more character of the first text. -/
def nextRow (target : List Char) (row : List Nat) (char : Char) : List Nat :=
  match row with
  | [] => []
  | first :: _ => (first + 1) :: extendRow char target row (first + 1)

/-- The distances of a text to all beginnings of the target. -/
def lastRow (source target : List Char) : List Nat :=
  source.foldl (nextRow target) (List.range (target.length + 1))

/-- The edit distance of two texts. An empty text is as far from another as that one is long. -/
def distance (source target : String) : Nat :=
  if source.toList.isEmpty then target.toList.length
  else if target.toList.isEmpty then source.toList.length
  else (lastRow source.toList target.toList).getLast?.getD 0

/-- The candidates that differ from the target by at most the given distance, the nearest
first and otherwise in their given order. The target itself is no candidate. -/
def nearest (target : String) (candidates : List String) (limit : Nat) : List String :=
  let measured := candidates.map fun candidate => (candidate, distance target candidate)
  let close := measured.filter fun entry => entry.2 ≤ limit && 0 < entry.2
  (close.mergeSort fun left right => left.2 ≤ right.2).map Prod.fst

end Callwise.EditDistance
