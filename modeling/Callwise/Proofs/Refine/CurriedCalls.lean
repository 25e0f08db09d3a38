import Callwise.Proofs.Call.PlainCall
import Callwise.Proofs.Refine.Groupings
import Mathlib

/-!
# Calling a curried function group by group

The type of a curried function lists a signature for every way to split its parameters into
groups. A call takes the first signature that accepts it, so what matters is not that the right
signature is listed but which one comes first. Those with a larger first group reject a call with
fewer arguments, and of those with the right first group the one that takes all other parameters
together comes first. After one call of a curried function the type is therefore an ordinary
callable, no longer a curried one: the arguments may come in one group or in two, and a third group
is never reached.
-/

namespace Callwise

namespace Param

/-- Parameters that must be passed by position accept as many types as there are parameters. -/
theorem length_of_accepts {params : List Param}
    (positional : ∀ param ∈ params, param.kind = .positional) {positions : List Ty}
    (accepted : accepts params positions [] = true) : positions.length = params.length := by
  induction params generalizing positions with
  | nil => cases positions <;> simp_all [accepts, seats]
  | cons param params ih =>
    have kind := positional param List.mem_cons_self
    rw [accepts_cons] at accepted
    cases positions with
    | nil => simp [seat, own, settles, kind, ParamKind.isRequired, Seat.isFree] at accepted
    | cons position positions =>
      have rest : accepts params positions [] = true := by
        simp only [seat, own, others, kind, ParamKind.isPositional, if_true, List.filter_nil,
          Option.any_some, Bool.and_eq_true] at accepted
        exact accepted.2
      simp [ih (fun param member =>
        positional param (List.mem_cons_of_mem _ member)) rest]

/-- Parameters that can be passed by position accept their own types. -/
theorem accepts_own_types {params : List Param}
    (positional : ∀ param ∈ params, param.kind = .positional)
    (ground : ∀ param ∈ params, param.ty.IsGround) :
    accepts params (params.map Param.ty) [] = true := by
  induction params with
  | nil => rfl
  | cons param params ih =>
    have kind := positional param List.mem_cons_self
    have first := ground param List.mem_cons_self
    have fitting : param.fits param.ty = true := by
      rw [fits, Substitution.bind_self .empty param.ty first.closed first.kindFree]
    have rest := ih
      (fun param member => positional param (List.mem_cons_of_mem _ member))
      (fun param member => ground param (List.mem_cons_of_mem _ member))
    rw [accepts_cons]
    simp [seat, own, others, kind, ParamKind.isPositional, settles, suits, Seat.isFree, fitting,
      rest]

/-- The first parameters accept the types of the first parameters if there are as many of them. -/
theorem accepts_take {params : List Param}
    (positional : ∀ param ∈ params, param.kind = .positional)
    (ground : ∀ param ∈ params, param.ty.IsGround) {size count : Nat}
    (sizeInside : size ≤ params.length) (countInside : count ≤ params.length) :
    accepts (params.take size) ((params.take count).map Param.ty) [] = (size == count) := by
  by_cases same : size = count
  · subst same
    rw [accepts_own_types (fun param member => positional param (List.mem_of_mem_take member))
      fun param member => ground param (List.mem_of_mem_take member), beq_self_eq_true]
  · rw [beq_eq_false_iff_ne.mpr same, Bool.eq_false_iff]
    intro accepted
    have lengths := length_of_accepts
      (fun param member => positional param (List.mem_of_mem_take member)) accepted
    simp only [List.length_map, List.length_take] at lengths
    omega

end Param

namespace Curry

/-- The first split of a number is the one into a single group. -/
theorem head?_groupings (total : Nat) :
    (groupings total).head? = some (if total = 0 then [] else [total]) := by
  cases total with
  | zero => simp [groupings]
  | succ total =>
    rw [groupings_succ, List.range_succ_eq_map]
    simp [groupings]

/-- Among the splits with a given first group, the one that leaves the rest in a single group comes
first. -/
theorem find?_groupings {total count : Nat} (positive : 0 < count) (inside : count ≤ total)
    {good : List Nat → Bool}
    (first : ∀ size sizes, size ≤ total → good (size :: sizes) = (size == count)) :
    (groupings total).find? good =
      some (count :: if total - count = 0 then [] else [total - count]) := by
  obtain ⟨total, rfl⟩ : ∃ before, total = before + 1 := ⟨total - 1, by omega⟩
  have decided : ∀ rest,
      ((groupings rest).map fun sizes => (total + 1 - rest) :: sizes).find? good =
      if total + 1 - rest = count then (groupings rest).head?.map (count :: ·) else none := by
    intro rest
    have answer : (good ∘ fun sizes => (total + 1 - rest) :: sizes) =
        fun _ => total + 1 - rest == count := by
      funext sizes
      exact first _ sizes (Nat.sub_le ..)
    rw [List.find?_map, answer]
    by_cases same : total + 1 - rest = count
    · cases groupings rest <;> simp [same]
    · simp [same]
  obtain ⟨later, split⟩ : ∃ later, List.range (total + 1) =
      List.range (total + 1 - count) ++ (total + 1 - count) :: later := by
    have sum : total + 1 = (total + 1 - count) + (count - 1 + 1) := by omega
    have whole : List.range (total + 1) = List.range (total + 1 - count) ++
        (List.range (count - 1 + 1)).map (total + 1 - count + ·) := by
      rw [← List.range_add, ← sum]
    rw [whole, List.range_succ_eq_map, List.map_cons]
    exact ⟨_, rfl⟩
  rw [groupings_succ, List.find?_flatMap, List.findSome?_eq_some_iff]
  refine ⟨_, _, later, split, ?_, ?_⟩
  · rw [decided, if_pos (by omega), head?_groupings]
    rfl
  · intro rest earlier
    have below := List.mem_range.mp earlier
    rw [decided, if_neg (by omega)]

/-- The first group of parameters is what a nested signature takes. -/
theorem params_nest (params : List Param) (size : Nat) (sizes : List Nat) (ret : Ty) :
    (nest params (size :: sizes) ret).params = params.take size := by
  by_cases several : sizes = []
  · rw [several, nest_singleton]
  · rw [nest_cons params ret size several]

/-- Nesting the parameters of a plain signature gives plain signatures. -/
theorem isPlain_nest {function : Signature} (plain : function.IsPlain) (sizes : List Nat) :
    (nest function.params sizes function.ret).IsPlain := by
  obtain ⟨params, ret⟩ := function
  induction sizes generalizing params with
  | nil =>
    rw [nest_nil]
    exact plain
  | cons size sizes ih =>
    by_cases several : sizes = []
    · rw [several, nest_singleton]
      exact plain.fewer (fun _ => List.mem_of_mem_take) plain.ret
    · have rest := ih (params.drop size)
        (plain.fewer (fun _ => List.mem_of_mem_drop) plain.ret)
      rw [nest_cons params ret size several]
      exact plain.fewer (fun _ => List.mem_of_mem_take) rest.isGround

/-- The type of a curried function with several parameters. -/
def curriedType (function : Signature) : Ty :=
  .overloaded ((groupings function.params.length).map fun sizes =>
    nest function.params sizes function.ret)

section

variable {function : Signature} (plain : function.IsPlain)
  (positional : ∀ param ∈ function.params, param.kind = .positional)
  (callee : String) (location : Location)
include plain positional

/-- A first call with some of the arguments leaves an ordinary function of all the other
parameters. -/
theorem call_curriedType {count : Nat} (positive : 0 < count)
    (inside : count ≤ function.params.length) :
    ((curriedType function).call callee
        (Argument.plain ((function.params.map Param.ty).take count) []) location).toOption =
      some (if count = function.params.length then function.ret
        else .callable ⟨function.params.drop count, function.ret⟩) := by
  have items : ∀ item ∈ (groupings function.params.length).map fun sizes =>
      nest function.params sizes function.ret, item.IsPlain := by
    intro item member
    obtain ⟨sizes, _, rfl⟩ := List.mem_map.mp member
    exact isPlain_nest plain sizes
  have first : ∀ size sizes, size ≤ function.params.length →
      Param.accepts (nest function.params (size :: sizes) function.ret).params
        ((function.params.map Param.ty).take count) [] = (size == count) := by
    intro size sizes sizeInside
    rw [params_nest, ← List.map_take]
    exact Param.accepts_take positional plain.params sizeInside inside
  rw [curriedType, Ty.call_overloaded_plain items, List.find?_map,
    find?_groupings positive inside first]
  by_cases all : count = function.params.length
  · simp [all, nest_singleton]
  · have others : function.params.length - count ≠ 0 := by omega
    have whole : (function.params.drop count).take (function.params.length - count) =
        function.params.drop count := List.take_of_length_le (by simp)
    simp [all, others, nest_cons, nest_singleton, whole]

/-- What a first call leaves takes all the other arguments at once. -/
theorem call_rest {count size : Nat} (inside : size ≤ function.params.length - count) :
    ((Ty.callable ⟨function.params.drop count, function.ret⟩).call callee
        (Argument.plain (((function.params.map Param.ty).drop count).take size) [])
        location).toOption =
      if size = function.params.length - count then some function.ret else none := by
  have rest : Signature.IsPlain ⟨function.params.drop count, function.ret⟩ :=
    plain.fewer (fun _ => List.mem_of_mem_drop) plain.ret
  have accepted : Param.accepts (function.params.drop count)
      (((function.params.map Param.ty).drop count).take size) [] =
      (function.params.length - count == size) := by
    have length : (function.params.drop count).length = function.params.length - count :=
      List.length_drop
    have taken := Param.accepts_take
      (fun param member => positional param (List.mem_of_mem_drop member)) rest.params
      (Nat.le_of_eq length.symm) (length ▸ inside)
    rw [List.take_of_length_le (Nat.le_of_eq length)] at taken
    rw [← List.map_drop, ← List.map_take, taken]
  rw [Ty.call_callable_plain rest, accepted]
  by_cases all : size = function.params.length - count
  · simp [all]
  · simp [all, Ne.symm all]

end

/-- The type after calling something with one group of arguments after the other. -/
def callInGroups (ty : Ty) (callee : String) (groups : List (List Ty)) (location : Location) :
    Except Diagnostic Ty :=
  groups.foldlM (fun reached group => reached.call callee (Argument.plain group []) location) ty

/-- The calls with the groups behind the first go on with the type of the first call. -/
theorem callInGroups_cons (ty : Ty) (callee : String) (group : List Ty) (groups : List (List Ty))
    (location : Location) :
    (callInGroups ty callee (group :: groups) location).toOption =
      (ty.call callee (Argument.plain group []) location).toOption.bind fun reached =>
        (callInGroups reached callee groups location).toOption := by
  rw [callInGroups, List.foldlM_cons, toOption_bind]
  rfl

section

variable {function : Signature} (plain : function.IsPlain)
  (positional : ∀ param ∈ function.params, param.kind = .positional)
include plain positional

/-- A function with several parameters, all of them required, gets the curried type. -/
theorem analyze_eq_curriedType (several : 2 ≤ function.params.length)
    (few : function.params.length ≤ maxParams) {context : CallContext}
    (passed : context.arg? 0 = some (.callable function)) :
    analyze context = .ok (curriedType function) := by
  have noObstacle : obstacle? function = none := by
    rw [obstacle?, Option.map_eq_none_iff, List.find?_eq_none]
    intro param member
    simp [positional param member, ParamKind.isPositional]
  have notOne : ¬function.params.length ≤ 1 := by omega
  have notMany : ¬maxParams < function.params.length := by omega
  simp [analyze, passed, curried, Signature.isEllipsis_eq_false plain.unstarred, noObstacle,
    notOne, notMany, curriedType]

/-- All arguments in one group. -/
theorem callInGroups_one (someParam : 0 < function.params.length) (callee : String)
    (location : Location) :
    (callInGroups (curriedType function) callee
        ([function.params.length].splitLengths (function.params.map Param.ty))
        location).toOption = some function.ret := by
  have called := call_curriedType plain positional callee location someParam (Nat.le_refl _)
  rw [if_pos rfl] at called
  rw [List.splitLengths_cons, callInGroups_cons, called]
  rfl

/-- Arguments in several groups: the second group must have all that the first one leaves. -/
theorem callInGroups_several {first second : Nat} {sizes : List Nat} (firstPositive : 0 < first)
    (secondPositive : 0 < second) (total : first + second + sizes.sum = function.params.length)
    (callee : String) (location : Location) :
    (callInGroups (curriedType function) callee
        ((first :: second :: sizes).splitLengths (function.params.map Param.ty))
        location).toOption =
      if second = function.params.length - first then
        (callInGroups function.ret callee
          (sizes.splitLengths (((function.params.map Param.ty).drop first).drop second))
          location).toOption
      else none := by
  have called := call_curriedType plain positional callee location firstPositive (by omega)
  have calledAgain := call_rest plain positional callee location
    (show second ≤ function.params.length - first by omega)
  rw [if_neg (by omega)] at called
  rw [List.splitLengths_cons, List.splitLengths_cons, callInGroups_cons, called, Option.bind_some,
    callInGroups_cons, calledAgain]
  split <;> rfl

end

/-- A curried function that is given the types of its parameters in groups returns its result if
there are at most two groups, and otherwise one of the calls fails. -/
theorem curried_call_succeeds_iff_two_groups (function : Signature) (plain : function.IsPlain)
    (positional : ∀ param ∈ function.params, param.kind = .positional)
    (several : 2 ≤ function.params.length) (few : function.params.length ≤ maxParams)
    {context : CallContext} (passed : context.arg? 0 = some (.callable function))
    (sizes : List Nat) (positive : ∀ size ∈ sizes, 0 < size)
    (total : sizes.sum = function.params.length) (callee : String) (location : Location) :
    (analyze context >>= fun curried =>
        callInGroups curried callee (sizes.splitLengths (function.params.map Param.ty))
          location).toOption =
      if sizes.length ≤ 2 then some function.ret else none := by
  rw [analyze_eq_curriedType plain positional several few passed, toOption_bind]
  change (callInGroups (curriedType function) callee _ location).toOption = _
  match sizes with
  | [] =>
    rw [List.sum_nil] at total
    omega
  | [size] =>
    obtain rfl : size = function.params.length := by simpa using total
    exact callInGroups_one plain positional (by omega) callee location
  | first :: second :: sizes =>
    have sum : first + second + sizes.sum = function.params.length := by
      simpa [Nat.add_assoc] using total
    rw [callInGroups_several plain positional (positive first (by simp)) (positive second (by simp))
      sum]
    cases sizes with
    | nil =>
      have all : second = function.params.length - first := by
        rw [List.sum_nil] at sum
        omega
      rw [if_pos all]
      rfl
    | cons third sizes =>
      have thirdPositive := positive third (by simp)
      have notAll : second ≠ function.params.length - first := by
        rw [List.sum_cons] at sum
        omega
      rw [if_neg notAll]
      rfl

/-- For `@curry def f(a: int, b: str, c: float) -> bool`, the call `f(1)("", 0.5)` gives a
`bool`. -/
theorem curried_call_in_two_groups :
    (analyze (.positional "returns.curry.curry"
        [[.callable ⟨[⟨some "a", .positional, .int⟩, ⟨some "b", .positional, .str⟩,
          ⟨some "c", .positional, .float⟩], .bool⟩]] .any) >>= fun curried =>
      callInGroups curried "f" ([1, 2].splitLengths [.int, .str, .float]) .nowhere).toOption =
        some .bool :=
  curried_call_succeeds_iff_two_groups
    ⟨[⟨some "a", .positional, .int⟩, ⟨some "b", .positional, .str⟩,
      ⟨some "c", .positional, .float⟩], .bool⟩
    (by decide) (by decide) (by decide) (by decide) rfl [1, 2] (by decide) rfl "f" .nowhere

/-- For the same function, `f(1)("")(0.5)` fails: the second call finds an ordinary function of two
parameters. -/
theorem curried_call_in_three_groups :
    (analyze (.positional "returns.curry.curry"
        [[.callable ⟨[⟨some "a", .positional, .int⟩, ⟨some "b", .positional, .str⟩,
          ⟨some "c", .positional, .float⟩], .bool⟩]] .any) >>= fun curried =>
      callInGroups curried "f" [[.int], [.str], [.float]] .nowhere) =
      .error ⟨.tooFewArguments "f", .error, .nowhere, "", []⟩ := by
  cbv

end Curry

end Callwise
