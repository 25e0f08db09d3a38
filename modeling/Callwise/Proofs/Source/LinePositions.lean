import Callwise.Location
import Mathlib

/-!
# Positions are exact and reversible

The position of an offset is one more than the number of line feeds among the bytes before it, and
the distance from the end of the last of them. In UTF-8 no other character has the byte of a line
feed, so the line starts found character by character are those found byte by byte. Searching them
by halves ends at the last one that is not behind the offset, whether a line starts at the offset or
not, and so finds what counting the starts would find. Offsets beyond the end of the text have
positions on its last line. A larger offset has a later position.
-/

namespace Callwise.LineIndex

/-- The bytes of a text. -/
def bytes (text : String) : List UInt8 := text.toUTF8.data.toList

/-- The places of the line feeds among the bytes before an offset, in ascending order. -/
def feedsBefore (text : String) (offset : Nat) : List Nat := ((bytes text).take offset).idxsOf 10

/-! ### Line starts by bytes -/

/-- Only the line feed is written with its byte. -/
theorem notMem_utf8EncodeChar {char : Char} (other : char ≠ '\n') :
    10 ∉ String.utf8EncodeChar char := by
  have code : char.val.toNat ≠ 10 := fun same => other (Char.ext (UInt32.toNat.inj same))
  have byte : ∀ value : Nat, value % 256 ≠ 10 → (10 : UInt8) ≠ UInt8.ofNat value := by
    intro value differs same
    apply differs
    simpa using (congrArg UInt8.toNat same).symm
  simp only [String.utf8EncodeChar]
  -- The bytes of a longer encoding are 128 or more.
  split_ifs <;> simp only [List.mem_cons, List.not_mem_nil, or_false, not_or]
  · exact byte _ (by omega)
  · exact ⟨byte _ (by omega), byte _ (by omega)⟩
  · exact ⟨byte _ (by omega), byte _ (by omega), byte _ (by omega)⟩
  · exact ⟨byte _ (by omega), byte _ (by omega), byte _ (by omega), byte _ (by omega)⟩

/-- Lines start behind the bytes of line feeds. -/
theorem startsFrom_eq (offset : Nat) (chars : List Char) :
    startsFrom offset chars =
      ((chars.flatMap String.utf8EncodeChar).idxsOf 10 offset).map (· + 1) := by
  induction chars generalizing offset with
  | nil => rfl
  | cons char rest ih =>
    rw [startsFrom, List.flatMap_cons, List.idxsOf_append, List.map_append,
      String.length_utf8EncodeChar, ← ih]
    by_cases feed : char = '\n'
    · subst feed
      rfl
    · have none : (String.utf8EncodeChar char).idxsOf 10 offset = [] := by
        rw [List.idxsOf_eq_nil_iff]
        intro byte member
        exact beq_eq_false_iff_ne.mpr (ne_of_mem_of_not_mem member (notMem_utf8EncodeChar feed))
      simp [none, feed]

/-- The line starts are zero and the places behind the bytes of line feeds. -/
theorem starts_ofText (text : String) :
    (ofText text).starts.toList = 0 :: ((bytes text).idxsOf 10).map (· + 1) := by
  have encoded : bytes text = text.toList.flatMap String.utf8EncodeChar := by
    rw [bytes, String.toUTF8, ← String.utf8Encode_toList, List.utf8Encode,
      List.data_toByteArray]
  rw [encoded, ← startsFrom_eq]
  rfl

/-- Lines start one after another. -/
theorem pairwise_startsFrom (offset : Nat) (chars : List Char) :
    (offset :: startsFrom offset chars).Pairwise (· < ·) := by
  induction chars generalizing offset with
  | nil => simp [startsFrom]
  | cons char rest ih =>
    have next := ih (offset + char.utf8Size)
    have longer := char.utf8Size_pos
    rw [startsFrom, List.pairwise_cons]
    rw [List.pairwise_cons] at next
    split
    · refine ⟨fun start member => ?_, List.pairwise_cons.mpr next⟩
      rcases List.mem_cons.mp member with rfl | later
      · omega
      · have := next.1 start later
        omega
    · refine ⟨fun start member => ?_, next.2⟩
      have := next.1 start member
      omega

/-! ### Searching by halves -/

/-- The place is the last one whose value is not above the wanted one. -/
structure IsLast (values : Array Nat) (wanted : Nat) (place : Fin values.size) : Prop where
  reached : values[place] ≤ wanted
  passed : ∀ bound : place.val + 1 < values.size, wanted < values[place.val + 1]

/-- The values do not go down. -/
def Ascends (values : Array Nat) : Prop :=
  ∀ first second (ordered : first ≤ second) (bound : second < values.size),
    values[first] ≤ values[second]

/-- Halving finds the last place whose value is not above the wanted one: the value at the base
never is, and the value behind the stretch always is. -/
theorem narrow_isLast {values : Array Nat} (ascends : Ascends values) {wanted base size : Nat}
    {some : 0 < size} {within : base + size ≤ values.size} (reached : values[base] ≤ wanted)
    (passed : ∀ bound : base + size < values.size, wanted < values[base + size]) :
    IsLast values wanted (narrow values wanted base size some within) := by
  fun_induction narrow values wanted base size some within with
  | case1 => exact ⟨reached, passed⟩
  | case2 base size some within several above ih =>
    refine ih reached fun bound => ?_
    exact above.trans_le (ascends _ _ (by omega) bound)
  | case3 base size some within several below ih =>
    have whole : base + size / 2 + (size - size / 2) = base + size := by omega
    refine ih (not_lt.mp below) fun bound => ?_
    simp only [whole] at bound ⊢
    exact passed bound

/-- The values up to the last place are those not above the wanted one. -/
theorem IsLast.takeWhile_eq {values : Array Nat} (ascends : Ascends values) {wanted : Nat}
    {place : Fin values.size} (last : IsLast values wanted place) :
    (values.toList.takeWhile fun value => value ≤ wanted) = values.toList.take (place + 1) := by
  have upTo : ∀ value ∈ values.toList.take (place + 1), decide (value ≤ wanted) = true := by
    intro value member
    obtain ⟨position, bound, rfl⟩ := List.mem_take_iff_getElem.mp member
    exact decide_eq_true ((ascends _ _ (by omega) place.isLt).trans last.reached)
  have behind : ((values.toList.drop (place + 1)).takeWhile fun value => value ≤ wanted) = [] := by
    rcases Nat.lt_or_ge (place + 1) values.size with more | atEnd
    · rw [List.drop_eq_getElem_cons (by simpa using more),
        List.takeWhile_cons_of_neg (by simpa using last.passed more)]
    · rw [List.drop_eq_nil_of_le (by simpa using atEnd), List.takeWhile_nil]
  calc (values.toList.takeWhile fun value => value ≤ wanted)
      = (values.toList.take (place + 1) ++ values.toList.drop (place + 1)).takeWhile
          fun value => value ≤ wanted := by rw [List.take_append_drop]
    _ = values.toList.take (place + 1) := by
        rw [List.takeWhile_append_of_pos upTo, behind, List.append_nil]

section

variable {index : LineIndex} (ascends : Ascends index.starts) (first : index.starts[0]? = some 0)
  (offset : Nat)

include ascends first

/-- The line of an offset is the last one that does not start behind it, whether a line starts at
the offset or not. -/
theorem lineOf_isLast : IsLast index.starts offset (index.lineOf offset) := by
  have least : ∀ bound : 0 < index.starts.size, index.starts[0] ≤ offset := by
    intro bound
    rw [Array.getElem?_eq_getElem bound] at first
    exact (Option.some.inj first).trans_le (Nat.zero_le offset)
  have last : IsLast index.starts offset
      (narrow index.starts offset 0 index.starts.size index.nonempty (by omega)) :=
    narrow_isLast ascends (least index.nonempty) (by simp)
  convert last using 1
  unfold lineOf search
  simp only [index.nonempty, dite_true]
  split_ifs with exactly below
  · rfl
  · rfl
  · exact absurd (lt_of_le_of_ne last.reached exactly) below

/-- Counting the lines that start up to an offset gives its position. -/
theorem position_eq_count :
    index.position offset =
      ((index.starts.toList.takeWhile fun start => start ≤ offset).length,
        offset - (index.starts.toList.takeWhile fun start => start ≤ offset).getLast?.getD 0) := by
  have bound := (index.lineOf offset).isLt
  rw [position, (lineOf_isLast ascends first offset).takeWhile_eq ascends, List.getLast?_take]
  simp [bound]

end

/-! ### The position of an offset -/

/-- The lines begun before an offset start behind the line feeds before it. -/
theorem takeWhile_starts (text : String) (offset : Nat) :
    ((ofText text).starts.toList.takeWhile fun start => start ≤ offset) =
      0 :: (feedsBefore text offset).map (· + 1) := by
  have cut : (bytes text).idxsOf 10 = feedsBefore text offset ++
      ((bytes text).drop offset).idxsOf 10 ((bytes text).take offset).length := by
    conv_lhs => rw [← List.take_append_drop offset (bytes text), List.idxsOf_append, Nat.zero_add]
    rfl
  rw [starts_ofText, cut, List.map_append, List.takeWhile_cons_of_pos (by simp)]
  congr 1
  have within : ∀ start ∈ (feedsBefore text offset).map (· + 1),
      decide (start ≤ offset) = true := by
    intro start member
    obtain ⟨feed, listed, rfl⟩ := List.mem_map.mp member
    have bound := List.lt_add_of_mem_idxsOf feed listed
    have length := List.length_take_le offset (bytes text)
    exact decide_eq_true (by omega)
  rw [List.takeWhile_append_of_pos within]
  -- Line feeds at the offset or behind it start no line before it.
  have behind : ∀ feed ∈ ((bytes text).drop offset).idxsOf 10 ((bytes text).take offset).length,
      offset ≤ feed := by
    intro feed listed
    have least := List.ge_of_mem_idxsOf feed listed
    have bound := List.lt_add_of_mem_idxsOf feed listed
    rw [List.length_take] at least bound
    rw [List.length_drop] at bound
    omega
  cases listed : ((bytes text).drop offset).idxsOf 10 ((bytes text).take offset).length with
  | nil => simp
  | cons feed more =>
    have later : offset ≤ feed := behind feed (listed ▸ List.mem_cons_self)
    rw [List.map_cons, List.takeWhile_cons_of_neg (by simpa using later), List.append_nil]

theorem ascends_ofText (text : String) : Ascends (ofText text).starts := by
  intro first second ordered bound
  rcases ordered.eq_or_lt with rfl | before
  · rfl
  · have sorted : (ofText text).starts.toList.Pairwise (· < ·) :=
      pairwise_startsFrom 0 text.toList
    exact (List.pairwise_iff_getElem.mp sorted first second (before.trans bound) bound before).le

/-- Where a line starts, given the line feeds before it. -/
def lineStart (feeds : List Nat) : Nat := feeds.getLast?.elim 0 (· + 1)

theorem position_eq (text : String) (offset : Nat) :
    (ofText text).position offset =
      ((feedsBefore text offset).length + 1, offset - lineStart (feedsBefore text offset)) := by
  rw [position_eq_count (ascends_ofText text) rfl, takeWhile_starts]
  simp only [List.length_cons, List.length_map, List.getLast?_cons, List.getLast?_map, lineStart]
  cases (feedsBefore text offset).getLast? <;> rfl

theorem lineStart_le (text : String) (offset : Nat) :
    lineStart (feedsBefore text offset) ≤ offset := by
  cases last : (feedsBefore text offset).getLast? with
  | none => simp [lineStart, last]
  | some feed =>
    have bound := List.lt_add_of_mem_idxsOf feed (List.mem_of_getLast? last)
    have length := List.length_take_le offset (bytes text)
    simp only [lineStart, last, Option.elim_some]
    omega

/-- The line feeds before an offset are the first of those before a larger one. -/
theorem exists_feedsBefore_eq (text : String) {smaller larger : Nat} (less : smaller < larger) :
    ∃ more, feedsBefore text larger = feedsBefore text smaller ++ more := by
  have cut := List.take_append_drop smaller ((bytes text).take larger)
  rw [List.take_take, Nat.min_eq_left less.le] at cut
  exact ⟨_, (congrArg (List.idxsOf 10 ·) cut).symm.trans List.idxsOf_append⟩

theorem position_strictMono (text : String) :
    StrictMono fun offset => toLex ((ofText text).position offset) := by
  intro smaller larger less
  obtain ⟨more, extended⟩ := exists_feedsBefore_eq text less
  have reached := lineStart_le text smaller
  simp only [position_eq, extended, Prod.Lex.toLex_lt_toLex]
  cases more with
  | nil =>
    rw [List.append_nil]
    exact .inr ⟨rfl, by omega⟩
  | cons feed more => exact .inl (by simp)

/-- For every text and every offset, also beyond the end, the line counts the line feeds among the
bytes before the offset, and the offset is the column behind the last of them, or behind the start
of the text if there is none. So different offsets have different positions, and a smaller offset
has an earlier one. -/
theorem position_exact (text : String) :
    (∀ offset, ∃ line col, (ofText text).position offset = (line, col) ∧
      line - 1 = (feedsBefore text offset).length ∧ 1 ≤ line ∧
      offset = (feedsBefore text offset).getLast?.elim 0 (· + 1) + col) ∧
    Function.Injective (ofText text).position ∧
    StrictMono fun offset => toLex ((ofText text).position offset) := by
  refine ⟨fun offset => ?_, ?_, position_strictMono text⟩
  · have reached := lineStart_le text offset
    exact ⟨_, _, position_eq text offset, rfl, Nat.le_add_left 1 _,
      (Nat.add_sub_of_le reached).symm⟩
  · intro offset other same
    exact (position_strictMono text).injective (congrArg toLex same)

end Callwise.LineIndex
