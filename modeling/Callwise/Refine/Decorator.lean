import Callwise.Refine.Context

/-!
# Decorators that wrap a result

Such a decorator is declared to turn `Callable[..., R]` into a function with another result. The
refined type is the decorated signature with only its result replaced. Each signature of an
overloaded function gets a result of its own.
-/

namespace Callwise.Decorator

/-- The result that the declared decorator gives to a function with this signature. -/
def decoratedRet? (context : CallContext) (function : Signature) : Option Ty := do
  let declared ← context.signature?
  let param ← declared.firstPositional?
  match Substitution.empty.bind param (.callable function) with
  | (true, subst) =>
    match subst.instantiate declared declared.ret with
    | .callable result => some result.ret
    | _ => none
  | _ => none

/-- Refine a call of a decorator. -/
def analyze (context : CallContext) : Except Diagnostic Ty :=
  match context.defaultType, context.arg? 0 with
  | .callable wrapped, some (.callable function) => .ok (.callable (function.withRet wrapped.ret))
  | .callable wrapped, some (.overloaded functions) =>
    .ok (.overloaded (functions.map fun function =>
      function.withRet ((decoratedRet? context function).getD wrapped.ret)))
  | other, _ => .ok other

end Callwise.Decorator
