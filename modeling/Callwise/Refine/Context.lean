import Callwise.Diagnostic
import Callwise.Substitution

/-!
# A call to be refined

Everything that is known about a call when a strategy is asked for a more precise type. Types, kinds
and names of the arguments are listed parameter by parameter: a star parameter may have received
several, an optional one none.
-/

namespace Callwise

/-- The context of one call. -/
structure CallContext where
  /-- The callee's name with its module. -/
  fullName : String
  argTypes : List (List Ty)
  argKinds : List (List ParamKind)
  argNames : List (List (Option String))
  paramNames : List (Option String)
  /-- The callee's declared type. -/
  callee : Ty
  /-- The type of the call without refinement. -/
  defaultType : Ty
  file : String
  location : Location
  deriving Inhabited

namespace CallContext

/-- A context in which each parameter has received the listed types by position. -/
def positional (fullName : String) (argTypes : List (List Ty)) (defaultType : Ty) :
    CallContext where
  fullName
  argTypes
  argKinds := argTypes.map fun group => group.map fun _ => .positional
  argNames := argTypes.map fun group => group.map fun _ => none
  paramNames := argTypes.map fun _ => none
  callee := .any
  defaultType
  file := ""
  location := .nowhere

/-- The same context with a declared callee, whose parameters give the names. -/
def withCallee (context : CallContext) (callee : Ty) : CallContext :=
  match callee with
  | .callable signature =>
    { context with callee, paramNames := signature.params.map Param.name }
  | _ => { context with callee }

/-- The name used in diagnostics: the last part of the full name without leading underscores. -/
def shortName (context : CallContext) : String :=
  let afterDot := (context.fullName.toList.reverse.takeWhile (· != '.')).reverse
  String.ofList (afterDot.dropWhile (· == '_'))

/-- The types that a parameter has received. -/
def args (context : CallContext) (formal : Nat) : List Ty := context.argTypes[formal]?.getD []

/-- The first type that a parameter has received. -/
def arg? (context : CallContext) (formal : Nat) : Option Ty := (context.args formal).head?

/-- The name of an argument. -/
def argName? (context : CallContext) (formal index : Nat) : Option String :=
  (context.argNames[formal]?.bind fun names => names[index]?).join

/-- The callee's declared signature, if it has one. -/
def signature? (context : CallContext) : Option Signature := context.callee.signature?

/-- A diagnostic at the call. -/
def fail (context : CallContext) (cause : Cause) : Diagnostic :=
  ⟨cause, .error, context.location, context.file, []⟩

/-- A diagnostic about an argument of the wrong type. -/
def invalidArgument (context : CallContext) (index : Nat) (expected found : Ty) : Diagnostic :=
  { Diagnostic.invalidArgument index context.shortName expected found context.location with
    file := context.file }

end CallContext

end Callwise
