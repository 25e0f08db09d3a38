import Callwise.Refine.Context

/-!
# Pipelines

`flow(instance, *functions)` passes a value through functions from left to right. The refined type
is the result of the last one.
-/

namespace Callwise.Flow

/-- The result of calling the function with one positional argument, if it can be called so. -/
def applyOne? (function : Signature) (value : Ty) : Option Ty := do
  guard function.acceptsOne
  let param ← function.firstPositional?
  match Substitution.empty.bind param value with
  | (true, subst) => some (subst.instantiate function function.ret)
  | _ => none

/-- Pass a value through a function, which is argument number `index` of the call. -/
def step (context : CallContext) (value function : Ty) (index : Nat) : Except Diagnostic Ty :=
  let applied : Option Ty → Except Diagnostic Ty
    | some result => .ok result
    | none =>
      let expected := Ty.callable (Signature.ofTypes [value] .any)
      .error (context.invalidArgument index expected function)
  match function with
  | .any | .placeholder _ => .ok .any
  | .callable signature => applied (applyOne? signature value)
  | .overloaded signatures => applied (signatures.findSome? fun item => applyOne? item value)
  | other => .error (context.fail (.notCallable other.render))

/-- Pass a value through functions, of which the first is argument number `index`. -/
def steps (context : CallContext) (value : Ty) : List Ty → (index : Nat) → Except Diagnostic Ty
  | [], _ => .ok value
  | function :: rest, index =>
    match step context value function index with
    | .ok result => steps context result rest (index + 1)
    | .error diagnostic => .error diagnostic

/-- Refine a call of `flow`. The value is the first argument; unpacked functions cannot be
followed. -/
def analyze (context : CallContext) : Except Diagnostic Ty :=
  match context.arg? 0 with
  | none => .ok context.defaultType
  | some value =>
    if (context.argKinds[1]?.getD []).contains .star then .ok context.defaultType
    else
      match context.args 1 with
      | [] => .error (context.fail (.tooFewArguments context.shortName))
      | functions => steps context value functions 2

end Callwise.Flow
