import Callwise.Diagnostic
import Callwise.Proofs.Text.EditScripts

/-!
# Suggestions are the nearest names

The names close to a mistyped one are the candidates at a distance between one and a limit, sorted
by distance. The sort is stable: the candidates at one distance are an ordered part of the
candidates, so they are still in this order when sorted, and since nothing is lost they are all that
stands at this distance. A diagnostic names the first three. What it leaves out is the rest of the
sorted list, which is no nearer, and the candidates that are too far away or are the mistyped name
itself.
-/

namespace Callwise

namespace EditDistance

/-! ### Sorting by a number -/

section

variable {α : Type} (key : α → Nat)

theorem byKey_trans (left middle right : α) (first : decide (key left ≤ key middle) = true)
    (second : decide (key middle ≤ key right) = true) : decide (key left ≤ key right) = true :=
  decide_eq_true ((of_decide_eq_true first).trans (of_decide_eq_true second))

theorem byKey_total (left right : α) :
    (decide (key left ≤ key right) || decide (key right ≤ key left)) = true := by
  simpa using Nat.le_total (key left) (key right)

/-- Sorting by a number keeps the order of the items that have the same number. -/
theorem filter_mergeSort_byKey (items : List α) (value : Nat) :
    (items.mergeSort fun left right => key left ≤ key right).filter (key · == value) =
      items.filter (key · == value) := by
  have alike : (items.filter (key · == value)).Pairwise
      fun left right => decide (key left ≤ key right) = true := by
    apply List.pairwise_of_forall_mem_list
    intro left inLeft right inRight
    have leftValue := beq_iff_eq.mp (List.mem_filter.mp inLeft).2
    have rightValue := beq_iff_eq.mp (List.mem_filter.mp inRight).2
    exact decide_eq_true (by omega)
  have inOrder := (List.sublist_mergeSort (byKey_trans key) (byKey_total key) alike
    List.filter_sublist).filter (key · == value)
  rw [List.filter_filter] at inOrder
  simp only [Bool.and_self] at inOrder
  have sameCount := ((List.mergeSort_perm items fun left right => key left ≤ key right).filter
    (key · == value)).length_eq
  exact (inOrder.eq_of_length sameCount.symm).symm

end

/-! ### Names at a small distance -/

/-- The distance is within a limit if so many edits suffice. -/
theorem distance_le_iff (source target : String) (limit : Nat) :
    distance source target ≤ limit ↔ ∃ count ≤ limit, Edits count source.toList target.toList := by
  rw [distance_eq_gap]
  constructor
  · intro near
    exact ⟨_, near, by simpa using (edits_gap source.toList.reverse target.toList.reverse).reverse⟩
  · rintro ⟨count, few, edits⟩
    exact (gap_le_of_edits edits.reverse).trans few

/-- Without an edit nothing changes. -/
theorem Edits.eq_of_zero {source target : List Char} (edits : Edits 0 source target) :
    source = target := by
  cases edits
  rfl

/-- Only the text itself is at distance zero. -/
theorem one_le_distance_iff (source target : String) :
    1 ≤ distance source target ↔ target ≠ source := by
  rw [← not_iff_not, Nat.not_le, Nat.lt_one_iff, ← Nat.le_zero, distance_le_iff, not_not]
  constructor
  · rintro ⟨count, none, edits⟩
    obtain rfl := Nat.le_zero.mp none
    exact (String.toList_inj.mp edits.eq_of_zero).symm
  · rintro rfl
    exact ⟨0, le_rfl, .none _⟩

/-- The candidate differs from the target, and by no more than the limit. -/
def isClose (target : String) (limit : Nat) (candidate : String) : Bool :=
  decide (1 ≤ distance target candidate ∧ distance target candidate ≤ limit)

variable (target : String) (candidates : List String) (limit : Nat)

/-- The nearest names are the close candidates, sorted by their distance. -/
theorem nearest_eq_mergeSort :
    nearest target candidates limit =
      (candidates.filter (isClose target limit)).mergeSort fun left right =>
        distance target left ≤ distance target right := by
  have close : ((candidates.map fun candidate => (candidate, distance target candidate)).filter
      fun entry => entry.2 ≤ limit && 0 < entry.2) =
      (candidates.filter (isClose target limit)).map fun candidate =>
        (candidate, distance target candidate) := by
    rw [List.filter_map]
    congr 1
    apply List.filter_congr
    intro candidate _
    simp [isClose, and_comm, Nat.succ_le_iff]
  have sorted := List.map_mergeSort (l := candidates.filter (isClose target limit))
    (r := fun left right => decide (distance target left ≤ distance target right))
    (f := fun candidate => (candidate, distance target candidate))
    (s := fun left right => decide (left.2 ≤ right.2)) fun _ _ _ _ => rfl
  simp only [nearest, close, ← sorted, List.map_map]
  exact List.map_id _

/-- The nearest names are all close candidates. -/
theorem perm_nearest :
    (nearest target candidates limit).Perm (candidates.filter (isClose target limit)) := by
  rw [nearest_eq_mergeSort]
  exact List.mergeSort_perm _ _

/-- The nearest names are sorted by distance. -/
theorem pairwise_nearest :
    (nearest target candidates limit).Pairwise fun left right =>
      distance target left ≤ distance target right := by
  rw [nearest_eq_mergeSort]
  exact (List.pairwise_mergeSort (byKey_trans _) (byKey_total _) _).imp of_decide_eq_true

/-- Which names are among the nearest. -/
theorem mem_nearest_iff (name : String) :
    name ∈ nearest target candidates limit ↔
      name ∈ candidates ∧ name ≠ target ∧
        ∃ count ≤ limit, Edits count target.toList name.toList := by
  rw [(perm_nearest target candidates limit).mem_iff, List.mem_filter, isClose, decide_eq_true_iff,
    one_le_distance_iff, distance_le_iff]

theorem isClose_of_mem_nearest {name : String} (member : name ∈ nearest target candidates limit) :
    isClose target limit name = true :=
  (List.mem_filter.mp ((perm_nearest target candidates limit).mem_iff.mp member)).2

/-! ### The first of the nearest names -/

/-- The candidates that are not among the first of the nearest names: the other near names, and all
that are not close. -/
def leftOut (count : Nat) : List String :=
  (nearest target candidates limit).drop count ++ candidates.filter (!isClose target limit ·)

/-- Each candidate is among the first names or left out. -/
theorem perm_take_append_leftOut (count : Nat) :
    ((nearest target candidates limit).take count ++ leftOut target candidates limit count).Perm
      candidates := by
  rw [leftOut, ← List.append_assoc, List.take_append_drop]
  exact ((perm_nearest target candidates limit).append_right _).trans (List.filter_append_perm _ _)

/-- What is left out is no nearer, if it is not the target itself. -/
theorem distance_le_of_mem_leftOut {count : Nat} {name other : String}
    (first : name ∈ (nearest target candidates limit).take count)
    (left : other ∈ leftOut target candidates limit count) (different : other ≠ target) :
    distance target name ≤ distance target other := by
  have sorted := pairwise_nearest target candidates limit
  rw [← List.take_append_drop count (nearest target candidates limit),
    List.pairwise_append] at sorted
  rcases List.mem_append.mp left with behind | far
  · exact sorted.2.2 name first other behind
  · have near := isClose_of_mem_nearest target candidates limit (List.mem_of_mem_take first)
    have notNear := (List.mem_filter.mp far).2
    have apart := (one_le_distance_iff target other).mpr different
    simp only [isClose, Bool.not_eq_true', decide_eq_true_iff, decide_eq_false_iff_not]
      at near notNear
    omega

/-- The nearest names are, with multiplicity, the candidates at a distance between one and the
limit, which are those that differ from the target and are reached by at most so many edits. They
come in the order of distance, and those at one distance in the order of the candidates. The
suggestions of a diagnostic name up to three candidates at distance one or two, fewer only if there
are no more, and no candidate left out, other than the name itself, is nearer than one named. -/
theorem nearest_names_exact (callee : String) (location : Location) :
    (nearest target candidates limit).Perm (candidates.filter (isClose target limit)) ∧
    (∀ name, name ∈ nearest target candidates limit ↔
      name ∈ candidates ∧ name ≠ target ∧
        ∃ count ≤ limit, Edits count target.toList name.toList) ∧
    ((nearest target candidates limit).Pairwise fun left right =>
      distance target left ≤ distance target right) ∧
    (∀ value, (nearest target candidates limit).filter (distance target · == value) =
      (candidates.filter (isClose target limit)).filter (distance target · == value)) ∧
    ∃ named leftOut : List String,
      (Diagnostic.unexpectedKeyword callee target location candidates).suggestions =
        named.map (fun name => "Did you mean " ++ quoted name ++ "?") ∧
      (named ++ leftOut).Perm candidates ∧
      named.length = min 3 (candidates.countP (isClose target 2)) ∧
      (∀ name ∈ named, isClose target 2 name = true) ∧
      ∀ other ∈ leftOut, other ≠ target →
        ∀ name ∈ named, distance target name ≤ distance target other := by
  refine ⟨perm_nearest _ _ _, mem_nearest_iff _ _ _, pairwise_nearest _ _ _, ?_,
    (nearest target candidates 2).take 3, leftOut target candidates 2 3, rfl,
    perm_take_append_leftOut _ _ _ _, ?_, ?_, ?_⟩
  · intro value
    rw [nearest_eq_mergeSort, filter_mergeSort_byKey]
  · rw [List.length_take, (perm_nearest target candidates 2).length_eq,
      List.countP_eq_length_filter]
  · intro name named
    exact isClose_of_mem_nearest _ _ _ (List.mem_of_mem_take named)
  · intro other left different name named
    exact distance_le_of_mem_leftOut _ _ _ named left different

/-- Of three candidates for `valeu` one is the name itself and one is too far away. -/
theorem nearest_names_of_swapped_letters :
    (Diagnostic.unexpectedKeyword "f" "valeu" .nowhere ["other", "value", "valeu"]).suggestions =
      ["Did you mean \"value\"?"] := by
  obtain ⟨_, _, _, _, named, leftOut, shown, all, count, close, _⟩ :=
    nearest_names_exact "valeu" ["other", "value", "valeu"] 2 "f" .nowhere
  have one : named.length = 1 := count.trans (by decide +kernel)
  obtain ⟨name, rfl⟩ := List.length_eq_one_iff.mp one
  have near := close name (List.mem_singleton_self name)
  have member := all.subset (List.mem_append_left _ (List.mem_singleton_self name))
  simp only [List.mem_cons, List.not_mem_nil, or_false] at member
  rcases member with rfl | rfl | rfl
  · exact absurd near (by decide +kernel)
  · rw [shown]
    rfl
  · exact absurd near (by decide +kernel)

end EditDistance

end Callwise
