import Callwise.Call.Arguments
import Callwise.Substitution

/-!
# Calls

Calling a signature gives each parameter its arguments, matches their types with the parameter's
type from left to right, and instantiates the result with what has been learned. An overloaded
callee takes its first signature that accepts the call. A callee about which nothing is known
accepts every call and gives `Any`.
-/

namespace Callwise

/-- Match the arguments of one parameter. -/
def Substitution.bindGroup (callee : String) (arguments : List Argument) (location : Location)
    (expected : Ty) : List Nat → Substitution → Except Diagnostic Substitution
  | [], subst => .ok subst
  | index :: rest, subst =>
    let found := (arguments[index]?.map Argument.valueType).getD .any
    match subst.bind expected found with
    | (true, extended) => extended.bindGroup callee arguments location expected rest
    | (false, reached) =>
      .error (Diagnostic.invalidArgument (index + 1) callee (reached.apply expected) found location)

/-- Match the arguments of all parameters. -/
def Substitution.bindGroups (callee : String) (arguments : List Argument) (location : Location) :
    List (Param × List Nat) → Substitution → Except Diagnostic Substitution
  | [], subst => .ok subst
  | (param, group) :: rest, subst =>
    match subst.bindGroup callee arguments location param.ty group with
    | .ok extended => extended.bindGroups callee arguments location rest
    | .error diagnostic => .error diagnostic

/-- Which arguments each parameter of the signature receives, and the type of the call. Nothing is
matched with `Callable[..., ret]`. -/
def Signature.bindCall (signature : Signature) (callee : String) (arguments : List Argument)
    (location : Location) : Except Diagnostic (List (List Nat) × Ty) :=
  match Argument.assign arguments signature.params with
  | .error error => .error (error.toDiagnostic callee signature.params location)
  | .ok groups =>
    if signature.isEllipsis then .ok (groups, signature.ret.eraseUnsolved)
    else
      match Substitution.bindGroups callee arguments location
        (signature.params.zip groups) .empty with
      | .ok subst => .ok (groups, subst.instantiate signature signature.ret)
      | .error diagnostic => .error diagnostic

/-- A call that a signature has accepted. -/
structure AcceptedCall where
  signature : Signature
  groups : List (List Nat)
  ret : Ty

/-- The call of a signature. -/
def Signature.accept (signature : Signature) (callee : String) (arguments : List Argument)
    (location : Location) : Except Diagnostic AcceptedCall :=
  (signature.bindCall callee arguments location).map fun (groups, ret) => ⟨signature, groups, ret⟩

/-- The signature that accepts a call of something of this type. There is none to find if nothing
is known about the callee. -/
def Ty.acceptCall (ty : Ty) (callee : String) (arguments : List Argument) (location : Location) :
    Except Diagnostic (Option AcceptedCall) :=
  match ty with
  | .any | .placeholder _ => .ok .none
  | .callable signature => (signature.accept callee arguments location).map some
  | .overloaded signatures =>
    let accepted := signatures.findSome? fun signature =>
      (signature.accept callee arguments location).toOption
    match accepted with
    | some call => .ok (some call)
    | .none => .error ⟨.noMatchingOverload callee, .error, location, "", []⟩
  | other => .error ⟨.notCallable other.render, .error, location, "", []⟩

/-- The type of a call of something of this type. -/
def Ty.call (ty : Ty) (callee : String) (arguments : List Argument) (location : Location) :
    Except Diagnostic Ty :=
  (ty.acceptCall callee arguments location).map fun
    | some call => call.ret
    | .none => .any

end Callwise
