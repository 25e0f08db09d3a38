import Callwise.Text.EditDistance
import Mathlib.Order.Bounds.Basic

/-!
# The edit distance is the length of a shortest edit script

An edit inserts, deletes or replaces one character anywhere in a text. `gap` is the recurrence that
compares two texts by their first characters. It counts the edits of a script, and one edit changes
it by at most one, so no script is shorter. The rows of `EditDistance.lastRow` hold its values for
the beginnings of the two texts, read backwards: each row extends the beginning of the first text by
one character, and each entry that of the second.
-/

namespace Callwise.EditDistance

/-- One character is inserted, deleted or replaced; what stands before and after it is kept. -/
inductive Edit : List Char → List Char → Prop where
  | insert (before after : List Char) (char : Char) :
      Edit (before ++ after) (before ++ char :: after)
  | delete (before after : List Char) (char : Char) :
      Edit (before ++ char :: after) (before ++ after)
  | replace (before after : List Char) (char other : Char) :
      Edit (before ++ char :: after) (before ++ other :: after)

/-- So many edits, one after the other, turn the first text into the second. -/
inductive Edits : Nat → List Char → List Char → Prop where
  | none (text : List Char) : Edits 0 text text
  | step {count : Nat} {source next target : List Char} (edit : Edit source next)
      (rest : Edits count next target) : Edits (count + 1) source target

variable {count : Nat} {source target : List Char}

/-- An edit of a text is one behind a common first character. -/
theorem Edit.cons (char : Char) (edit : Edit source target) :
    Edit (char :: source) (char :: target) := by
  cases edit with
  | insert before after inserted => exact .insert (char :: before) after inserted
  | delete before after deleted => exact .delete (char :: before) after deleted
  | replace before after old new => exact .replace (char :: before) after old new

/-- An edit of a text is one of the text read backwards. -/
theorem Edit.reverse (edit : Edit source target) : Edit source.reverse target.reverse := by
  cases edit with
  | insert before after char => simpa using Edit.insert after.reverse before.reverse char
  | delete before after char => simpa using Edit.delete after.reverse before.reverse char
  | replace before after char other =>
    simpa using Edit.replace after.reverse before.reverse char other

namespace Edits

/-- A common first character is kept by a whole script. -/
theorem cons (char : Char) (edits : Edits count source target) :
    Edits count (char :: source) (char :: target) := by
  induction edits with
  | none text => exact .none _
  | step edit _ ih => exact .step (edit.cons char) ih

/-- A script can be carried out on the texts read backwards. -/
theorem reverse (edits : Edits count source target) :
    Edits count source.reverse target.reverse := by
  induction edits with
  | none text => exact .none _
  | step edit _ ih => exact .step edit.reverse ih

/-- A script may have its new edit at the end as well. -/
theorem concat {last : List Char} (edits : Edits count source target) (edit : Edit target last) :
    Edits (count + 1) source last := by
  induction edits with
  | none text => exact .step edit (.none _)
  | step first _ ih => exact .step first (ih edit)

/-- A text is written by as many insertions as it has characters. -/
theorem insertAll (target : List Char) : Edits target.length [] target := by
  induction target with
  | nil => exact .none _
  | cons char target ih =>
    exact .step (.insert [] [] char) (ih.cons char)

/-- A text is cleared by as many deletions as it has characters. -/
theorem deleteAll (source : List Char) : Edits source.length source [] := by
  induction source with
  | nil => exact .none _
  | cons char source ih => exact .step (.delete [] source char) ih

end Edits

/-! ### The recurrence -/

/-- The distance by first characters: delete the one, insert the other, or put the other in the
place of the one, which is free if they are the same. -/
def gap : List Char → List Char → Nat
  | [], target => target.length
  | source, [] => source.length
  | char :: source, other :: target =>
    min (min (gap source (other :: target) + 1) (gap (char :: source) target + 1))
      (gap source target + if char = other then 0 else 1)
  termination_by source target => source.length + target.length

theorem gap_nil_left (target : List Char) : gap [] target = target.length := by
  rw [gap]

theorem gap_nil_right (source : List Char) : gap source [] = source.length := by
  cases source <;> simp [gap]

theorem gap_cons_cons (char other : Char) (source target : List Char) :
    gap (char :: source) (other :: target) =
      min (min (gap source (other :: target) + 1) (gap (char :: source) target + 1))
        (gap source target + if char = other then 0 else 1) := by
  rw [gap]

/-- There is a script with as many edits as the recurrence counts. -/
theorem edits_gap (source target : List Char) : Edits (gap source target) source target := by
  induction source, target using gap.induct with
  | case1 target => rw [gap_nil_left]; exact .insertAll target
  | case2 source => rw [gap_nil_right]; exact .deleteAll source
  | case3 char source other target afterDeletion beforeInsertion besides =>
    have deleted := Edits.step (.delete [] source char) afterDeletion
    have inserted := beforeInsertion.concat (.insert [] target other)
    have replaced : Edits (gap source target + if char = other then 0 else 1)
        (char :: source) (other :: target) := by
      split
      case isTrue same => exact same ▸ besides.cons char
      case isFalse => exact .step (.replace [] source char other) (besides.cons other)
    rw [gap_cons_cons]
    exact min_rec' (Edits · _ _) (min_rec' (Edits · _ _) deleted inserted) replaced

/-- A character in front of the first text is one deletion more. -/
theorem gap_cons_left_le (char : Char) (source target : List Char) :
    gap (char :: source) target ≤ gap source target + 1 := by
  cases target with
  | nil => simp [gap_nil_right]
  | cons other target => rw [gap_cons_cons]; omega

/-- A character in front of the second text is one insertion more. -/
theorem gap_cons_right_le (source : List Char) (other : Char) (target : List Char) :
    gap source (other :: target) ≤ gap source target + 1 := by
  cases source with
  | nil => simp [gap_nil_left]
  | cons char source => rw [gap_cons_cons]; omega

/-- An insertion in front brings a text nearer to any target by at most one. -/
theorem gap_le_cons_left (char : Char) (source target : List Char) :
    gap source target ≤ gap (char :: source) target + 1 := by
  induction target with
  | nil =>
    simp only [gap_nil_right, List.length_cons]
    omega
  | cons other target ih =>
    have appended := gap_cons_right_le source other target
    rw [gap_cons_cons]
    omega

/-- A replacement in front brings a text nearer to any target by at most one. -/
theorem gap_replace_le (char new : Char) (source target : List Char) :
    gap (char :: source) target ≤ gap (new :: source) target + 1 := by
  induction target with
  | nil => simp [gap_nil_right]
  | cons other target ih =>
    rw [gap_cons_cons, gap_cons_cons]
    split <;> split <;> omega

/-- A difference of one stays one behind a common beginning. -/
theorem gap_append_le {next : List Char} (before : List Char)
    (near : ∀ target, gap source target ≤ gap next target + 1) (target : List Char) :
    gap (before ++ source) target ≤ gap (before ++ next) target + 1 := by
  induction before generalizing target with
  | nil => exact near target
  | cons char before behind =>
    rw [List.cons_append, List.cons_append]
    induction target with
    | nil => simpa [gap_nil_right] using behind []
    | cons other target ih =>
      have deleted := behind (other :: target)
      have replaced := behind target
      rw [gap_cons_cons, gap_cons_cons]
      omega

/-- One edit anywhere brings a text nearer to any target by at most one. -/
theorem gap_le_of_edit {next : List Char} (edit : Edit source next) (target : List Char) :
    gap source target ≤ gap next target + 1 := by
  cases edit with
  | insert before after char => exact gap_append_le before (gap_le_cons_left char after) target
  | delete before after char => exact gap_append_le before (gap_cons_left_le char after) target
  | replace before after char other =>
    exact gap_append_le before (gap_replace_le char other after) target

/-- No script has fewer edits than the recurrence counts. -/
theorem gap_le_of_edits (edits : Edits count source target) : gap source target ≤ count := by
  induction edits with
  | none text =>
    induction text with
    | nil => simp [gap_nil_left]
    | cons char text ih => rw [gap_cons_cons, if_pos rfl]; omega
  | step edit _ ih => exact (gap_le_of_edit edit _).trans (by omega)

/-! ### The rows -/

/-- The distances of a text to what was seen of the target, with one more character of the target in
each entry. Both texts are read backwards. -/
def prefixRow (source seen : List Char) : List Char → List Nat
  | [] => [gap source seen]
  | other :: others => gap source seen :: prefixRow source (other :: seen) others

theorem prefixRow_eq_cons (source seen others : List Char) :
    prefixRow source seen others = gap source seen :: (prefixRow source seen others).tail := by
  cases others <;> rfl

/-- The row of the empty text counts up. -/
theorem range_eq_prefixRow (seen others : List Char) :
    List.range' seen.length (others.length + 1) = prefixRow [] seen others := by
  induction others generalizing seen with
  | nil => simp [prefixRow, gap_nil_left]
  | cons other others ih =>
    have rest := ih (other :: seen)
    rw [List.length_cons] at rest
    rw [List.length_cons, List.range'_succ, rest, prefixRow, gap_nil_left]

/-- Each new entry is the least of the three ways to come to it from its neighbours. -/
theorem extendRow_prefixRow (char : Char) (source seen others : List Char) :
    extendRow char others (prefixRow source seen others) (gap (char :: source) seen) =
      (prefixRow (char :: source) seen others).tail := by
  induction others generalizing seen with
  | nil => simp [extendRow, prefixRow]
  | cons other others ih =>
    have entry : min (min (gap source (other :: seen) + 1) (gap (char :: source) seen + 1))
        (if char == other then gap source seen else gap source seen + 1) =
        gap (char :: source) (other :: seen) := by
      rw [gap_cons_cons]
      by_cases same : char = other <;> simp [same]
    have rest := ih (other :: seen)
    rw [prefixRow_eq_cons source (other :: seen)] at rest
    rw [prefixRow, prefixRow_eq_cons source (other :: seen), extendRow]
    simp only [entry, rest, prefixRow, List.tail_cons]
    exact (prefixRow_eq_cons _ _ _).symm

/-- The next row is that of the first text with one more character. -/
theorem nextRow_prefixRow (char : Char) (source target : List Char) :
    nextRow target (prefixRow source [] target) char = prefixRow (char :: source) [] target := by
  have first : gap source [] + 1 = gap (char :: source) [] := by simp [gap_nil_right]
  rw [prefixRow_eq_cons source, nextRow, ← prefixRow_eq_cons, first, extendRow_prefixRow,
    ← prefixRow_eq_cons]

/-- After all characters of the first text, the row is that of the whole of it. -/
theorem foldl_nextRow (source done target : List Char) :
    source.foldl (nextRow target) (prefixRow done [] target) =
      prefixRow (source.reverse ++ done) [] target := by
  induction source generalizing done with
  | nil => rfl
  | cons char source ih =>
    rw [List.foldl_cons, nextRow_prefixRow, ih]
    simp

theorem getLast?_prefixRow (source seen others : List Char) :
    (prefixRow source seen others).getLast? = some (gap source (others.reverse ++ seen)) := by
  induction others generalizing seen with
  | nil => simp [prefixRow]
  | cons other others ih =>
    rw [prefixRow, List.getLast?_cons, ih]
    simp

/-- The last entry of the last row compares the whole texts. It is the length of the one text if the
other is empty, so leaving early for an empty text does not matter. -/
theorem distance_eq_gap (source target : String) :
    distance source target = gap source.toList.reverse target.toList.reverse := by
  have start := range_eq_prefixRow [] target.toList
  rw [List.length_nil, ← List.range_eq_range'] at start
  rw [distance, lastRow, start, foldl_nextRow, getLast?_prefixRow]
  split
  case isTrue noSource => simp [List.isEmpty_iff.mp noSource, gap_nil_left]
  case isFalse =>
    split
    case isTrue noTarget => simp [List.isEmpty_iff.mp noTarget, gap_nil_right]
    case isFalse => simp

/-- The edit distance of two texts is the least number of insertions, deletions and replacements of
single characters that turn the one into the other. -/
theorem distance_isLeast (source target : String) :
    IsLeast {count | Edits count source.toList target.toList} (distance source target) := by
  rw [distance_eq_gap]
  constructor
  · simpa using (edits_gap source.toList.reverse target.toList.reverse).reverse
  · intro count edits
    exact gap_le_of_edits edits.reverse

end Callwise.EditDistance
