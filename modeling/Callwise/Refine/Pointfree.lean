import Callwise.Refine.Context

/-!
# Functions over containers

`map_(f)` gives a function over containers of any kind. The refined type keeps the type variables
that `f` leaves open, so that the result can be applied to each kind of container.
-/

namespace Callwise.Pointfree

/-- Refine a call of a function over containers. -/
def analyze (context : CallContext) : Except Diagnostic Ty :=
  let refined : Option Ty := do
    let declared ← context.signature?
    let function ← context.arg? 0
    let param ← declared.firstPositional?
    match Substitution.empty.bind param function with
    | (true, subst) => some (subst.apply declared.ret)
    | _ => none
  .ok (refined.getD context.defaultType)

end Callwise.Pointfree
