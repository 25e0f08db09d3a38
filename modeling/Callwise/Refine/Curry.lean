import Callwise.Refine.Context

/-!
# Currying

A curried function takes its arguments in any sequence of groups. Its refined type has one signature
for each way to split the parameters into groups, the one with all parameters in one group first.
-/

namespace Callwise.Curry

/-- The most parameters for which all groupings are listed. -/
def maxParams : Nat := 10

/-- The sequences of positive numbers with the given sum, those with a larger first number first. -/
def groupings (total : Nat) : List (List Nat) :=
  match total with
  | 0 => [[]]
  | total + 1 =>
    (List.range (total + 1)).attach.flatMap fun ⟨rest, _within⟩ =>
      (groupings rest).map fun sizes => (total + 1 - rest) :: sizes
termination_by total
decreasing_by exact List.mem_range.mp _within

/-- The places at which groups of the given sizes begin and end, for groups from a place on. -/
def bounds (start : Nat) : List Nat → List (Nat × Nat)
  | [] => []
  | size :: sizes => (start, start + size) :: bounds (start + size) sizes

/-- The signature that takes groups of parameters in turn, given by their bounds from the last group
to the first. No groups are one group of all parameters. -/
def nestBack (params : List Param) (ret : Ty) : List (Nat × Nat) → Signature
  | [] => ⟨params.extract 0 params.length, ret⟩
  | (start, stop) :: before =>
    before.foldl (fun current bound => ⟨params.extract bound.1 bound.2, .callable current⟩)
      ⟨params.extract start stop, ret⟩

/-- The signature that takes the parameters group by group. -/
def nest (params : List Param) (sizes : List Nat) (ret : Ty) : Signature :=
  nestBack params ret (bounds 0 sizes).reverse

section

variable (params : List Param) (ret : Ty)

/-- Groups that begin later have bounds that lie behind by as much. -/
theorem bounds_add (start shift : Nat) (sizes : List Nat) :
    bounds (start + shift) sizes =
      (bounds start sizes).map fun bound => (bound.1 + shift, bound.2 + shift) := by
  induction sizes generalizing start with
  | nil => rfl
  | cons size sizes ih =>
    rw [bounds, bounds, List.map_cons, ← ih, Nat.add_right_comm]

/-- One more group in front takes its parameters and returns a callable for the others. -/
theorem nestBack_concat {others : List (Nat × Nat)} (some : others ≠ []) (first : Nat × Nat) :
    nestBack params ret (others ++ [first]) =
      ⟨params.extract first.1 first.2, .callable (nestBack params ret others)⟩ := by
  cases others with
  | nil => exact absurd rfl some
  | cons last before => simp [nestBack]

/-- Groups that lie behind some parameters are groups of the parameters without those. -/
theorem nestBack_map {groups : List (Nat × Nat)} (some : groups ≠ []) (shift : Nat) :
    nestBack params ret (groups.map fun bound => (bound.1 + shift, bound.2 + shift)) =
      nestBack (params.drop shift) ret groups := by
  have slices (start stop : Nat) : params.extract (start + shift) (stop + shift) =
      (params.drop shift).extract start stop := by
    rw [List.extract, List.extract, List.drop_drop, Nat.add_sub_add_right, Nat.add_comm]
  cases groups with
  | nil => exact absurd rfl some
  | cons last before => simp only [List.map_cons, nestBack, List.foldl_map, slices]

theorem nest_nil : nest params [] ret = ⟨params, ret⟩ := by
  simp [nest, bounds, nestBack]

theorem nest_singleton (size : Nat) : nest params [size] ret = ⟨params.take size, ret⟩ := by
  simp [nest, bounds, nestBack]

/-- The parameters of the first group are taken first, and the nesting goes on with the others. -/
theorem nest_cons {sizes : List Nat} (size : Nat) (several : sizes ≠ []) :
    nest params (size :: sizes) ret =
      ⟨params.take size, .callable (nest (params.drop size) sizes ret)⟩ := by
  have some : (bounds 0 sizes).reverse ≠ [] := by
    cases sizes with
    | nil => exact absurd rfl several
    | cons next sizes => simp [bounds]
  rw [nest, bounds, bounds_add, List.reverse_cons, ← List.map_reverse,
    nestBack_concat params ret (by simpa using some), nestBack_map params ret some]
  simp [nest]

end

/-- Why a signature cannot be curried: the first parameter that is not positional decides. -/
def obstacle? (function : Signature) : Option String :=
  (function.params.find? fun param => !param.kind.isPositional).map fun param =>
    if param.kind.isVariadic then "variadic parameters cannot be curried"
    else "keyword-only parameters cannot be curried"

/-- The curried type of a signature. -/
def curried (context : CallContext) (function : Signature) : Except Diagnostic Ty :=
  if function.isEllipsis then .ok (.callable function)
  else
    match obstacle? function with
    | some reason => .error (context.fail (.unsupportedSignature context.shortName reason))
    | none =>
      let count := function.params.length
      if count ≤ 1 then .ok (.callable function)
      else if maxParams < count then .ok context.defaultType
      else
        let nested := (groupings count).map fun sizes => nest function.params sizes function.ret
        .ok (.overloaded nested)

/-- Refine a call of `curry`. -/
def analyze (context : CallContext) : Except Diagnostic Ty :=
  match context.arg? 0 with
  | some (.callable function) => curried context function
  | _ => .ok context.defaultType

end Callwise.Curry
