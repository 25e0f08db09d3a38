import Callwise.Proofs.Call.Inheritance
import Callwise.Refine.Registry

/-!
# Strategies keep hereditary properties

A strategy that is given types with a hereditary property answers with such a type or with an error.
Each of the five puts its answer together from the types of the arguments, the declared signature
and the default type.
-/

namespace Callwise

variable {kept : Ty → Prop} {function : Signature}

/-- All types that a strategy is given have the property. -/
structure CallContext.All (kept : Ty → Prop) (context : CallContext) : Prop where
  arguments : ∀ group ∈ context.argTypes, ∀ ty ∈ group, kept ty
  callee : kept context.callee
  defaultType : kept context.defaultType

/-- Replacing the result of a signature. -/
theorem Signature.All.withRet (whole : function.All kept) {ret : Ty} (inside : kept ret) :
    (function.withRet ret).All kept :=
  ⟨inside, whole.2⟩

/-- Each of the answers for the items of a list is the answer for one of the items. -/
theorem exists_of_mem_mapM {α β : Type} {answer : α → Option β} {items : List α}
    {answers : List β} (answered : items.mapM answer = some answers) {result : β}
    (within : result ∈ answers) : ∃ item ∈ items, answer item = some result := by
  induction items generalizing answers with
  | nil =>
    obtain rfl : answers = [] := by simpa using answered
    cases within
  | cons first rest ih =>
    simp only [List.mapM_cons, Option.bind_eq_bind, Option.bind_eq_some_iff] at answered
    obtain ⟨firstAnswer, here, restAnswers, later, joined⟩ := answered
    obtain rfl : firstAnswer :: restAnswers = answers := by simpa using joined
    rcases List.mem_cons.mp within with rfl | behind
    · exact ⟨first, List.mem_cons_self, here⟩
    · obtain ⟨item, member, same⟩ := ih later behind
      exact ⟨item, List.mem_cons_of_mem first member, same⟩

namespace CallContext.All

variable {context : CallContext} (all : context.All kept)

include all

/-- The types that a parameter has received. -/
theorem args (formal : Nat) : ∀ ty ∈ context.args formal, kept ty := by
  unfold CallContext.args
  cases found : context.argTypes[formal]? with
  | none => simp
  | some group => exact all.arguments group (List.mem_of_getElem? found)

/-- The first type that a parameter has received. -/
theorem arg {formal : Nat} {ty : Ty} (found : context.arg? formal = some ty) : kept ty :=
  all.args formal ty (List.mem_of_mem_head? found)

/-- The declared signature. -/
theorem signature (hereditary : Ty.Hereditary kept) {declared : Signature}
    (found : context.signature? = some declared) : declared.All kept := by
  have inside := all.callee
  unfold CallContext.signature? Ty.signature? at found
  split at found
  · rename_i signature shape
    obtain rfl : signature = declared := by simpa using found
    rw [shape] at inside
    exact (hereditary.callable_iff signature).mp inside
  · cases found

/-- The arguments given in advance are arguments of the call. -/
theorem given {given : PartialCall.Given}
    (found : PartialCall.Given.ofContext? context = some given) :
    (∀ ty ∈ given.positional, kept ty) ∧ ∀ entry ∈ given.keywords, kept entry.2 := by
  obtain ⟨_, _, found⟩ := Option.bind_eq_some_iff.mp found
  obtain ⟨_, _, found⟩ := Option.bind_eq_some_iff.mp found
  obtain ⟨keywords, named, found⟩ := Option.bind_eq_some_iff.mp found
  obtain rfl : ⟨context.args 1, keywords⟩ = given := by simpa using found
  refine ⟨all.args 1, ?_⟩
  intro entry within
  obtain ⟨⟨ty, index⟩, listed, made⟩ := exists_of_mem_mapM named within
  obtain ⟨name, _, rfl⟩ := Option.map_eq_some_iff.mp made
  exact all.args 2 ty (List.fst_mem_of_mem_zipIdx listed)

end CallContext.All

namespace Ty.Hereditary

variable {context : CallContext}

variable (hereditary : Hereditary kept)

include hereditary

/-! ### Decorators -/

/-- The result that a decorator gives to one signature. -/
theorem decoratedRet (all : context.All kept) (whole : function.All kept) {ret : Ty}
    (found : Decorator.decoratedRet? context function = some ret) : kept ret := by
  simp only [Decorator.decoratedRet?, Option.bind_eq_bind, Option.bind_eq_some_iff] at found
  obtain ⟨declared, named, param, _, found⟩ := found
  have function : kept (.callable function) := (hereditary.callable_iff function).mpr whole
  have learned := Substitution.holds_empty.bind hereditary param function
  split at found
  · rename_i subst matched
    rw [matched] at learned
    have result := hereditary.instantiate learned declared (all.signature hereditary named).1
    split at found
    · rename_i signature shape
      obtain rfl : signature.ret = ret := by simpa using found
      rw [shape] at result
      exact ((hereditary.callable_iff signature).mp result).1
    · cases found
  · cases found

/-- Refining a call of a decorator. -/
theorem decorators (all : context.All kept) :
    Answers kept (Decorator.analyze context) := by
  have default := all.defaultType
  unfold Decorator.analyze
  split
  · rename_i wrapped function shape found
    rw [shape, hereditary.callable_iff] at default
    have whole := (hereditary.callable_iff function).mp (all.arg found)
    exact (hereditary.callable_iff _).mpr (whole.withRet default.1)
  · rename_i wrapped functions shape found
    rw [shape, hereditary.callable_iff] at default
    have each := (hereditary.overloaded_iff functions).mp (all.arg found)
    apply (hereditary.overloaded_iff _).mpr
    rw [List.forall_mem_map]
    intro function within
    apply (each function within).withRet
    cases decorated : Decorator.decoratedRet? context function with
    | none => exact default.1
    | some ret => exact hereditary.decoratedRet all (each function within) decorated
  · exact default

/-! ### Currying -/

/-- A signature that takes parameters group by group. -/
theorem nest : (params : List Param) → (sizes : List Nat) → {ret : Ty} →
    (∀ param ∈ params, kept param.ty) → kept ret → (Curry.nest params sizes ret).All kept
  | params, [], ret, each, inside => by
    rw [Curry.nest_nil]
    exact ⟨inside, each⟩
  | params, [size], ret, each, inside => by
    rw [Curry.nest_singleton]
    exact ⟨inside, fun param within => each param (List.mem_of_mem_take within)⟩
  | params, size :: next :: sizes, ret, each, inside => by
    have rest := nest (params.drop size) (next :: sizes)
      (fun param within => each param (List.mem_of_mem_drop within)) inside
    rw [Curry.nest_cons params ret size (List.cons_ne_nil next sizes)]
    exact ⟨(hereditary.callable_iff _).mpr rest,
      fun param within => each param (List.mem_of_mem_take within)⟩

/-- Refining a call of `curry`. -/
theorem curry (all : context.All kept) :
    Answers kept (Curry.analyze context) := by
  unfold Curry.analyze
  split
  · rename_i function found
    have inside : kept (.callable function) := all.arg found
    have whole := (hereditary.callable_iff function).mp inside
    unfold Curry.curried
    split
    · exact inside
    · split
      · rfl
      · simp only
        split
        · exact inside
        · split
          · exact all.defaultType
          · apply (hereditary.overloaded_iff _).mpr
            rw [List.forall_mem_map]
            intro sizes _
            exact hereditary.nest function.params sizes whole.2 whole.1
  · exact all.defaultType

/-! ### Pipelines -/

/-- The result of one function of a pipeline. -/
theorem applyOne (whole : function.All kept) {value result : Ty} (inside : kept value)
    (found : Flow.applyOne? function value = some result) : kept result := by
  obtain ⟨_, _, found⟩ := Option.bind_eq_some_iff.mp found
  obtain ⟨param, _, found⟩ := Option.bind_eq_some_iff.mp found
  have learned := Substitution.holds_empty.bind hereditary param inside
  split at found
  · rename_i subst matched
    rw [matched] at learned
    obtain rfl : subst.instantiate function function.ret = result := by simpa using found
    exact hereditary.instantiate learned function whole.1
  · cases found

/-- Passing a value through one function. -/
theorem step (context : CallContext) {value function : Ty} (inside : kept value)
    (functionInside : kept function) (index : Nat) :
    Answers kept (Flow.step context value function index) := by
  unfold Flow.step
  simp only
  split
  · exact hereditary.atom rfl
  · exact hereditary.atom rfl
  · rename_i signature
    have whole := (hereditary.callable_iff signature).mp functionInside
    cases applied : Flow.applyOne? signature value with
    | none => rfl
    | some result => exact hereditary.applyOne whole inside applied
  · rename_i signatures
    have each := (hereditary.overloaded_iff signatures).mp functionInside
    cases applied : signatures.findSome? fun item => Flow.applyOne? item value with
    | none => rfl
    | some result =>
      obtain ⟨signature, within, found⟩ := List.exists_of_findSome?_eq_some applied
      exact hereditary.applyOne (each signature within) inside found
  · rfl

/-- Passing a value through functions, one step after another. -/
theorem steps (context : CallContext) : (functions : List Ty) →
    (∀ function ∈ functions, kept function) → (value : Ty) → kept value → (index : Nat) →
    Answers kept (Flow.steps context value functions index)
  | [], _, value, inside, _ => inside
  | function :: rest, each, value, inside, index => by
    rw [List.forall_mem_cons] at each
    have first := hereditary.step context inside each.1 index
    simp only [Flow.steps]
    split
    · rename_i result passed
      rw [passed] at first
      exact steps context rest each.2 result first (index + 1)
    · rename_i diagnostic refused
      rw [refused] at first
      exact first

/-- Refining a call of `flow`. -/
theorem flow (all : context.All kept) :
    Answers kept (Flow.analyze context) := by
  unfold Flow.analyze
  split
  · exact all.defaultType
  · rename_i value found
    split
    · exact all.defaultType
    · split
      · rfl
      · exact hereditary.steps context _ (all.args 1) value (all.arg found) 2

/-! ### Functions over containers -/

/-- Refining a call of a function over containers. -/
theorem pointfree (all : context.All kept) :
    Answers kept (Pointfree.analyze context) := by
  unfold Pointfree.analyze
  simp only [Option.bind_eq_bind]
  -- The answer is the default type unless the declared signature matches the function.
  cases named : context.signature? with
  | none => exact all.defaultType
  | some declared =>
    cases given : context.arg? 0 with
    | none => exact all.defaultType
    | some function =>
      simp only [Option.bind_some]
      cases declared.firstPositional? with
      | none => exact all.defaultType
      | some param =>
        have learned := Substitution.holds_empty.bind hereditary param (all.arg given)
        simp only [Option.bind_some]
        split
        · rename_i subst matched
          rw [matched] at learned
          exact hereditary.apply learned declared.ret (all.signature hereditary named).1
        · exact all.defaultType

/-! ### Partial application -/

/-- Matching one argument. -/
theorem check (context : CallContext) {subst : Substitution} (holds : subst.Holds kept)
    (param : Param) {found : Ty} (inside : kept found) (index : Nat) :
    Answers (Substitution.Holds kept) (PartialCall.check context subst param found index) := by
  have learned := holds.bind hereditary param.ty inside
  unfold PartialCall.check
  split
  · rename_i extended matched
    rw [matched] at learned
    exact learned
  · rfl

/-- Matching all arguments with one parameter. -/
theorem checkAll (context : CallContext) (param : Param) : (found : List Ty) →
    (∀ ty ∈ found, kept ty) → (index : Nat) → (subst : Substitution) → subst.Holds kept →
    Answers (Substitution.Holds kept) (PartialCall.checkAll context param found index subst)
  | [], _, _, subst, holds => holds
  | first :: rest, each, index, subst, holds => by
    rw [List.forall_mem_cons] at each
    have checked := hereditary.check context holds param each.1 index
    simp only [PartialCall.checkAll]
    split
    · rename_i extended matched
      rw [matched] at checked
      exact checkAll context param rest each.2 (index + 1) extended checked
    · rename_i diagnostic refused
      rw [refused] at checked
      exact checked

/-- Filling parameters by position. -/
theorem fillPositions (context : CallContext) : (params : List Param) → (given : List Ty) →
    (∀ ty ∈ given, kept ty) → (index : Nat) → (subst : Substitution) → subst.Holds kept →
    Answers (fun filled => filled.2.Holds kept)
      (PartialCall.fillPositions context params given index subst)
  | params, [], _, _, subst, holds => by
    simp only [PartialCall.fillPositions]
    exact holds
  | [], _ :: _, _, _, _, _ => rfl
  | param :: params, found :: rest, each, index, subst, holds => by
    have both := each
    rw [List.forall_mem_cons] at both
    simp only [PartialCall.fillPositions]
    split
    · have checked := hereditary.check context holds param both.1 index
      split
      · rename_i diagnostic refused
        rw [refused] at checked
        exact checked
      · rename_i extended matched
        rw [matched] at checked
        exact (fillPositions context params rest both.2 (index + 1) extended checked).map
          fun _ filled => filled
    · split
      · exact (hereditary.checkAll context param (found :: rest) each index subst holds).map
          fun _ filled => filled
      · exact (fillPositions context params (found :: rest) each index subst holds).map
          fun _ filled => filled

/-- Filling one parameter by name. -/
theorem fillName (context : CallContext) (function : Signature) (name : String) {found : Ty}
    (inside : kept found) (index : Nat) (fillings : List PartialCall.Filling)
    {subst : Substitution} (holds : subst.Holds kept) :
    Answers (fun filled => filled.2.Holds kept)
      (PartialCall.fillName context function name found index fillings subst) := by
  unfold PartialCall.fillName
  simp only
  split
  · rename_i param _ _
    split
    · rfl
    · exact (hereditary.check context holds param inside index).map fun _ filled => filled
  · split
    · rename_i param _
      exact (hereditary.check context holds param inside index).map fun _ filled => filled
    · rfl

/-- Filling parameters by name, one after another. -/
theorem fillNames (context : CallContext) (function : Signature) :
    (given : List (String × Ty)) → (∀ entry ∈ given, kept entry.2) → (index : Nat) →
    (fillings : List PartialCall.Filling) → (subst : Substitution) → subst.Holds kept →
    Answers (fun filled => filled.2.Holds kept)
      (PartialCall.fillNames context function given index fillings subst)
  | [], _, _, _, subst, holds => holds
  | (name, found) :: rest, each, index, fillings, subst, holds => by
    rw [List.forall_mem_cons] at each
    have first := hereditary.fillName context function name each.1 index fillings holds
    simp only [PartialCall.fillNames]
    split
    · rename_i filled extended passed
      rw [passed] at first
      exact fillNames context function rest each.2 (index + 1) filled extended first
    · rename_i diagnostic refused
      rw [refused] at first
      exact first

/-- The parameters that are left. -/
theorem remaining {subst : Substitution} (holds : subst.Holds kept) :
    (entries : List (Param × PartialCall.Filling)) → (∀ entry ∈ entries, kept entry.1.ty) →
    (namesOnly : Bool) → ∀ param ∈ PartialCall.remaining subst entries namesOnly, kept param.ty
  | [], _, _ => by simp [PartialCall.remaining]
  | (param, filling) :: rest, each, namesOnly => by
    rw [List.forall_mem_cons] at each
    cases filling with
    | byPosition => exact remaining holds rest each.2 namesOnly
    | byName => exact remaining holds rest each.2 _
    | free =>
      simp only [PartialCall.remaining, List.forall_mem_cons]
      exact ⟨hereditary.apply holds param.ty each.1, remaining holds rest each.2 namesOnly⟩

/-- The signature that is left of a function. -/
theorem apply_given (context : CallContext) {given : PartialCall.Given}
    (positional : ∀ ty ∈ given.positional, kept ty)
    (keywords : ∀ entry ∈ given.keywords, kept entry.2) (whole : function.All kept) :
    Answers (fun left => left.All kept) (given.apply context function) := by
  unfold PartialCall.Given.apply
  split
  · exact whole
  · apply (hereditary.fillPositions context function.params given.positional positional 2 .empty
      Substitution.holds_empty).bind
    rintro ⟨positions, subst⟩ holds
    apply (hereditary.fillNames context function given.keywords keywords
      (given.positional.length + 2) positions subst holds).bind
    rintro ⟨fillings, solved⟩ learned
    refine ⟨hereditary.apply learned function.ret whole.1, ?_⟩
    apply hereditary.remaining learned
    rintro ⟨param, filling⟩ within
    exact whole.2 param (List.of_mem_zip within).1

/-- Refining a call of `partial`. -/
theorem partialCall (all : context.All kept) :
    Answers kept (PartialCall.analyze context) := by
  unfold PartialCall.analyze
  split
  · rename_i function given found named
    obtain ⟨positional, keywords⟩ := all.given named
    have whole := (hereditary.callable_iff function).mp (all.arg found)
    exact (hereditary.apply_given context positional keywords whole).map fun left holds =>
      (hereditary.callable_iff left).mpr holds
  · rename_i functions given found named
    obtain ⟨positional, keywords⟩ := all.given named
    have each := (hereditary.overloaded_iff functions).mp (all.arg found)
    have accepted : ∀ left ∈ functions.filterMap (fun function =>
        (given.apply context function).toOption), left.All kept := by
      intro left within
      obtain ⟨function, member, applied⟩ := List.mem_filterMap.mp within
      have answers := hereditary.apply_given context positional keywords (each function member)
      exact answers.ofToOption applied
    split
    · rfl
    · rename_i single shape
      rw [shape] at accepted
      exact (hereditary.callable_iff single).mpr (accepted single (List.mem_singleton_self single))
    · exact (hereditary.overloaded_iff _).mpr accepted
  · exact all.defaultType

/-! ### All strategies -/

/-- Whatever strategy is asked, its answer has the property or is an error. -/
theorem analyze (strategy : Strategy) (all : context.All kept) :
    Answers kept (strategy.analyze context) := by
  cases strategy with
  | partialCall => exact hereditary.partialCall all
  | curry => exact hereditary.curry all
  | flow => exact hereditary.flow all
  | pointfree => exact hereditary.pointfree all
  | decorators => exact hereditary.decorators all

end Ty.Hereditary

end Callwise
