import Callwise.Refine.Curry
import Mathlib

/-!
# The groupings of a curried function

`Curry.groupings` lists the ways to split a number of parameters into groups, and `Curry.nest`
builds the signature that takes the groups one after the other. The list is exactly that of the
sequences of positive numbers with the given sum, without repetitions and with the larger numbers
first. No parameter is lost in a nested signature: its groups have the sizes of the grouping, they
make up the parameters when put together, and the last of them returns what the function returned.
-/

namespace Callwise.Curry

/-! ### The list of groupings -/

/-- The splits of a positive number: a first group, the larger the earlier, and a split of the
rest. -/
theorem groupings_succ (total : Nat) :
    groupings (total + 1) = (List.range (total + 1)).flatMap fun rest =>
      (groupings rest).map fun sizes => (total + 1 - rest) :: sizes := by
  rw [groupings]
  simp [List.flatMap_def]

/-- The groupings are the sequences of positive numbers with the given sum. -/
theorem mem_groupings_iff (total : Nat) (sizes : List Nat) :
    sizes ∈ groupings total ↔ (∀ size ∈ sizes, 0 < size) ∧ sizes.sum = total := by
  induction sizes generalizing total with
  | nil =>
    cases total with
    | zero => simp [groupings]
    | succ total => simp [groupings_succ]
  | cons size sizes ih =>
    cases total with
    | zero =>
      simp only [groupings, List.mem_singleton, List.forall_mem_cons, List.sum_cons]
      constructor
      · rintro ⟨⟩
      · omega
    | succ total =>
      simp only [groupings_succ, List.mem_flatMap, List.mem_range, List.mem_map,
        List.cons.injEq, List.forall_mem_cons, List.sum_cons]
      constructor
      · rintro ⟨rest, within, _, listed, first, rfl⟩
        obtain ⟨positive, sum⟩ := (ih rest).mp listed
        exact ⟨⟨by omega, positive⟩, by omega⟩
      · rintro ⟨⟨first, positive⟩, sum⟩
        have listed := (ih sizes.sum).mpr ⟨positive, rfl⟩
        exact ⟨sizes.sum, by omega, sizes, listed, by omega, rfl⟩

/-- The groupings descend in the order that compares the first groups first. -/
theorem pairwise_groupings (total : Nat) :
    (groupings total).Pairwise fun earlier later => List.Lex (· < ·) later earlier := by
  induction total using Nat.strongRecOn with
  | ind total ih =>
    cases total with
    | zero => simp [groupings]
    | succ total =>
      rw [groupings_succ, List.pairwise_flatMap]
      constructor
      · intro rest within
        rw [List.pairwise_map]
        exact (ih rest (List.mem_range.mp within)).imp .cons
      · refine List.pairwise_lt_range.imp_of_mem ?_
        intro rest more within alsoWithin fewer _ listed _ alsoListed
        obtain ⟨_, _, rfl⟩ := List.mem_map.mp listed
        obtain ⟨_, _, rfl⟩ := List.mem_map.mp alsoListed
        have bound := List.mem_range.mp alsoWithin
        exact .rel (by omega)

/-- No grouping is listed twice. -/
theorem nodup_groupings (total : Nat) : (groupings total).Nodup := by
  refine (pairwise_groupings total).imp ?_
  rintro earlier _ descends rfl
  exact List.lex_irrefl Nat.lt_irrefl earlier descends

/-- One more parameter doubles the number of groupings. -/
theorem length_groupings (total : Nat) : (groupings (total + 1)).length = 2 ^ total := by
  -- The groupings of a number are as many as those of all smaller numbers together.
  have summed : ∀ total, (groupings (total + 1)).length =
      ((List.range (total + 1)).map fun rest => (groupings rest).length).sum := by
    intro total
    simp [groupings_succ, List.length_flatMap]
  induction total with
  | zero => simp [groupings]
  | succ total ih =>
    rw [summed, List.range_succ, List.map_append, List.sum_append, ← summed]
    simp [ih, Nat.pow_succ, Nat.mul_two]

/-! ### Nested signatures -/

/-- The signature takes the groups of parameters in turn: with each but the last it returns a
callable for the next, and with the last it returns the given type. -/
inductive TakesInTurn : Signature → List (List Param) → Ty → Prop where
  | last (params : List Param) (ret : Ty) : TakesInTurn ⟨params, ret⟩ [params] ret
  | next (params : List Param) {inner : Signature} {groups : List (List Param)} {ret : Ty}
      (rest : TakesInTurn inner groups ret) :
      TakesInTurn ⟨params, .callable inner⟩ (params :: groups) ret

/-- A nested signature takes the parameters cut into pieces of the given sizes. -/
theorem takesInTurn_nest (params : List Param) {sizes : List Nat} (someGroup : sizes ≠ [])
    (ret : Ty) : TakesInTurn (nest params sizes ret) (sizes.splitLengths params) ret := by
  induction sizes generalizing params with
  | nil => exact absurd rfl someGroup
  | cons size sizes ih =>
    rw [List.splitLengths_cons]
    by_cases several : sizes = []
    · subst several
      rw [nest_singleton, List.splitLengths_nil]
      exact .last _ _
    · rw [nest_cons params ret size several]
      exact .next _ (ih (params.drop size) several)

/-- For every number of parameters, at least one, the groupings are the sequences of positive
numbers with that sum, each listed once and in descending order, so that one more parameter doubles
their number. For each of them the nested signature takes groups of these sizes in turn, which put
together are the parameters, and returns the result of the function. -/
theorem groupings_and_nest_exact (total : Nat) (positive : 0 < total) :
    (∀ sizes, sizes ∈ groupings total ↔ (∀ size ∈ sizes, 0 < size) ∧ sizes.sum = total) ∧
    (groupings total).Nodup ∧
    ((groupings total).Pairwise fun earlier later => List.Lex (· < ·) later earlier) ∧
    (groupings total).length = 2 ^ (total - 1) ∧
    ∀ (params : List Param) (ret : Ty), params.length = total → ∀ sizes ∈ groupings total,
      ∃ groups, TakesInTurn (nest params sizes ret) groups ret ∧
        groups.map List.length = sizes ∧ groups.flatten = params := by
  refine ⟨mem_groupings_iff total, nodup_groupings total, pairwise_groupings total, ?_, ?_⟩
  · have counted := length_groupings (total - 1)
    rwa [Nat.sub_add_cancel positive] at counted
  · intro params ret length sizes listed
    obtain ⟨_, sum⟩ := (mem_groupings_iff total sizes).mp listed
    have someGroup : sizes ≠ [] := by
      rintro rfl
      rw [List.sum_nil] at sum
      omega
    exact ⟨sizes.splitLengths params, takesInTurn_nest params someGroup ret,
      List.map_splitLengths_length _ _ (by omega), List.flatten_splitLengths _ _ (by omega)⟩

/-- Three parameters can be taken in the groups `(a, b)` and `(c)`. -/
theorem three_params_in_two_groups :
    let params : List Param := [⟨some "a", .positional, .int⟩, ⟨some "b", .positional, .str⟩,
      ⟨some "c", .optional, .float⟩]
    (groupings 3).length = 4 ∧ ∃ groups, TakesInTurn (nest params [2, 1] .bool) groups .bool ∧
      groups.map List.length = [2, 1] ∧ groups.flatten = params := by
  intro params
  obtain ⟨member, _, _, length, nested⟩ := groupings_and_nest_exact 3 (by decide)
  exact ⟨length, nested params .bool rfl [2, 1] ((member [2, 1]).mpr ⟨by decide, rfl⟩)⟩

end Callwise.Curry
