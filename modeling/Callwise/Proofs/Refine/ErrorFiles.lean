import Callwise.Refine.Registry

/-!
# Errors of strategies are in the file of the call

A strategy is told in which file a call stands, and it uses this for its errors only. In a context
that differs in nothing but the file it gives the same type or the same error in the other file.
-/

namespace Callwise

/-- The same diagnostic in another file. -/
def Diagnostic.inFile (file : String) (diagnostic : Diagnostic) : Diagnostic :=
  { diagnostic with file }

/-- The same call in another file. -/
def CallContext.inFile (file : String) (context : CallContext) : CallContext :=
  { context with file }

/-- The same answer, with an error in another file. -/
def inFile {α : Type} (file : String) (answer : Except Diagnostic α) : Except Diagnostic α :=
  answer.mapError (Diagnostic.inFile file)

section Answers

variable {α β : Type} (file : String)

/-- An answer that is no error. -/
@[simp] theorem inFile_ok (result : α) : inFile file (.ok result) = .ok result := rfl

/-- An answer whose result is changed. -/
theorem map_inFile (change : α → β) (answer : Except Diagnostic α) :
    (inFile file answer).map change = inFile file (answer.map change) := by
  cases answer <;> rfl

/-- Whether there is a result does not depend on the file of errors. -/
theorem toOption_inFile (answer : Except Diagnostic α) :
    (inFile file answer).toOption = answer.toOption := by
  cases answer <;> rfl

end Answers

variable (file : String) (context : CallContext)

/-- The arguments are the same in another file. -/
theorem CallContext.args_inFile (formal : Nat) :
    (context.inFile file).args formal = context.args formal := rfl

/-- The first argument of a parameter is the same in another file. -/
theorem CallContext.arg_inFile (formal : Nat) :
    (context.inFile file).arg? formal = context.arg? formal := rfl

/-! ### Pipelines -/

/-- Passing a value through one function. -/
theorem Flow.step_inFile (value function : Ty) (index : Nat) :
    step (context.inFile file) value function index =
      inFile file (step context value function index) := by
  unfold step
  simp only
  split
  · rfl
  · rfl
  · rename_i signature
    cases applyOne? signature value <;> rfl
  · rename_i signatures
    cases signatures.findSome? fun item => applyOne? item value <;> rfl
  · rfl

/-- Passing a value through functions, one step after another. -/
theorem Flow.steps_inFile (value : Ty) (functions : List Ty) (index : Nat) :
    steps (context.inFile file) value functions index =
      inFile file (steps context value functions index) := by
  induction functions generalizing value index with
  | nil => rfl
  | cons function rest ih =>
    simp only [steps, step_inFile]
    cases step context value function index with
    | ok result => exact ih result (index + 1)
    | error diagnostic => rfl

/-- Refining a call of `flow`. -/
theorem Flow.analyze_inFile : analyze (context.inFile file) = inFile file (analyze context) := by
  unfold analyze
  rw [context.arg_inFile]
  cases context.arg? 0 with
  | none => rfl
  | some value =>
    simp only [context.args_inFile, steps_inFile]
    show (if (context.argKinds[1]?.getD []).contains .star then _ else _) = _
    split
    · rfl
    · cases context.args 1 <;> rfl

/-! ### Currying -/

/-- Refining a call of `curry`. -/
theorem Curry.analyze_inFile : analyze (context.inFile file) = inFile file (analyze context) := by
  unfold analyze
  rw [context.arg_inFile]
  split
  · rename_i function _
    unfold curried
    split
    · rfl
    · cases obstacle? function with
      | some reason => rfl
      | none =>
        simp only
        split
        · rfl
        · split <;> rfl
  · rfl

/-! ### Partial application -/

namespace PartialCall

/-- Matching one argument. -/
theorem check_inFile (subst : Substitution) (param : Param) (found : Ty) (index : Nat) :
    check (context.inFile file) subst param found index =
      inFile file (check context subst param found index) := by
  unfold check
  split <;> rfl

/-- Matching all arguments with one parameter. -/
theorem checkAll_inFile (param : Param) (items : List Ty) (index : Nat) (subst : Substitution) :
    checkAll (context.inFile file) param items index subst =
      inFile file (checkAll context param items index subst) := by
  induction items generalizing index subst with
  | nil => rfl
  | cons found rest ih =>
    simp only [checkAll, check_inFile]
    cases check context subst param found index with
    | ok extended => exact ih (index + 1) extended
    | error diagnostic => rfl

/-- Filling parameters by position. -/
theorem fillPositions_inFile (params : List Param) (items : List Ty) (index : Nat)
    (subst : Substitution) :
    fillPositions (context.inFile file) params items index subst =
      inFile file (fillPositions context params items index subst) := by
  induction params generalizing items index subst with
  | nil => cases items <;> rfl
  | cons param params ih =>
    cases items with
    | nil => rfl
    | cons found rest =>
      simp only [fillPositions, check_inFile, checkAll_inFile, ih, map_inFile]
      split
      · cases check context subst param found index <;> rfl
      · split <;> rfl

/-- Filling a parameter by name. -/
theorem fillName_inFile (function : Signature) (name : String) (found : Ty) (index : Nat)
    (fillings : List Filling) (subst : Substitution) :
    fillName (context.inFile file) function name found index fillings subst =
      inFile file (fillName context function name found index fillings subst) := by
  unfold fillName
  simp only [check_inFile, map_inFile]
  split
  · split <;> rfl
  · split <;> rfl

/-- Filling parameters by name, one after another. -/
theorem fillNames_inFile (function : Signature) (items : List (String × Ty)) (index : Nat)
    (fillings : List Filling) (subst : Substitution) :
    fillNames (context.inFile file) function items index fillings subst =
      inFile file (fillNames context function items index fillings subst) := by
  induction items generalizing index fillings subst with
  | nil => rfl
  | cons item rest ih =>
    simp only [fillNames, fillName_inFile]
    cases fillName context function item.1 item.2 index fillings subst with
    | ok filled => exact ih (index + 1) filled.1 filled.2
    | error diagnostic => rfl

/-- What is left of a signature. -/
theorem Given.apply_inFile (given : Given) (function : Signature) :
    given.apply (context.inFile file) function = inFile file (given.apply context function) := by
  unfold apply
  split
  · rfl
  · simp only [fillPositions_inFile, fillNames_inFile]
    cases fillPositions context function.params given.positional 2 .empty with
    | error diagnostic => rfl
    | ok filled =>
      simp only [inFile_ok, bind, Except.bind]
      cases fillNames context function given.keywords (given.positional.length + 2) filled.1
        filled.2 <;> rfl

/-- Refining a call of `partial`. -/
theorem analyze_inFile : analyze (context.inFile file) = inFile file (analyze context) := by
  unfold analyze
  have given : Given.ofContext? (context.inFile file) = Given.ofContext? context := rfl
  simp only [context.arg_inFile, given, Given.apply_inFile, map_inFile, toOption_inFile]
  split
  · rfl
  · split <;> rfl
  · rfl

end PartialCall

/-! ### Decorators -/

/-- Refining a call of a decorator, which never fails. -/
theorem Decorator.analyze_inFile :
    analyze (context.inFile file) = inFile file (analyze context) := by
  have default : (context.inFile file).defaultType = context.defaultType := rfl
  unfold analyze
  rw [context.arg_inFile, default]
  split <;> rfl

/-! ### All strategies -/

/-- A call in another file is refined to the same type, or refused with the same error in that
file. -/
theorem Strategy.analyze_inFile (strategy : Strategy) :
    strategy.analyze (context.inFile file) = inFile file (strategy.analyze context) := by
  cases strategy with
  | partialCall => exact PartialCall.analyze_inFile file context
  | curry => exact Curry.analyze_inFile file context
  | flow => exact Flow.analyze_inFile file context
  | pointfree => rfl
  | decorators => exact Decorator.analyze_inFile file context

end Callwise
