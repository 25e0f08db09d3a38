import Callwise.Proofs.Call.OneArgument
import Callwise.Refine.Decorator
import Mathlib.Data.List.Forall2

/-!
# Decorating an overloaded function

A decorator that wraps a result is called once, whatever it decorates. If that is a single function,
the host's type of the call gives the new result. If it is overloaded, the type of the call reflects
only the first signature that fits, so the new result of each signature is derived again from the
declaration of the decorator: with its own choice of the parameter that takes the function, its own
matching and its own instantiation. This module shows that every signature gets the result that it
would get if it were decorated alone.
-/

namespace Callwise.Decorator

/-- The derived result is that of a call of the decorator with the function alone. -/
theorem decoratedRet?_of_bindCall {decorator : Signature} (explicit : decorator.isEllipsis = false)
    {context : CallContext} (declared : context.callee = .callable decorator)
    {function : Signature} {callee : String} {location : Location} {groups : List (List Nat)}
    {result : Signature}
    (accepted : decorator.bindCall callee (Argument.plain [.callable function] []) location =
      .ok (groups, .callable result)) :
    decoratedRet? context function = some result.ret := by
  obtain ⟨expected, subst, first, matched, instantiated⟩ :=
    Signature.exists_of_bindCall_one explicit accepted
  have known : context.signature? = some decorator := by
    rw [CallContext.signature?, declared]
    rfl
  simp only [decoratedRet?, known, first, Option.bind_eq_bind, Option.bind_some, matched,
    ← instantiated]

/-- A single function keeps its parameters and gets the result of the call. -/
theorem analyze_callable {context : CallContext} {function wrapped : Signature}
    (decorated : context.defaultType = .callable wrapped)
    (passed : context.arg? 0 = some (.callable function)) :
    analyze context = .ok (.callable (function.withRet wrapped.ret)) := by
  simp only [analyze, decorated, passed]

/-- An overloaded function is decorated signature by signature. For a decorator that is declared
with parameters of its own, and a call of it that gives a callable, the refined type has a signature
for each of the function's, in their order. Each one is what a single function of that signature is
refined to, wherever a call of the decorator with it gives a callable. -/
theorem overloads_decorated_itemwise {decorator : Signature}
    (explicit : decorator.isEllipsis = false) {functions : List Signature} {context : CallContext}
    (declared : context.callee = .callable decorator) {wrapped : Signature}
    (decorated : context.defaultType = .callable wrapped)
    (passed : context.arg? 0 = some (.overloaded functions)) :
    ∃ items, analyze context = .ok (.overloaded items) ∧
      List.Forall₂ (fun function item => item.params = function.params ∧
        ∀ callee location groups result,
          decorator.bindCall callee (Argument.plain [.callable function] []) location =
            .ok (groups, .callable result) →
          ∀ alone : CallContext, alone.defaultType = .callable result →
            alone.arg? 0 = some (.callable function) →
            analyze alone = .ok (.callable item)) functions items := by
  refine ⟨functions.map fun function =>
    function.withRet ((decoratedRet? context function).getD wrapped.ret), ?_, ?_⟩
  · simp only [analyze, decorated, passed]
  · rw [List.forall₂_map_right_iff, List.forall₂_same]
    intro function _
    refine ⟨rfl, ?_⟩
    intro callee location groups result accepted alone decoratedAlone passedAlone
    rw [analyze_callable decoratedAlone passedAlone, decoratedRet?_of_bindCall explicit declared
      accepted, Option.getD_some]

/-- `safe(function: Callable[..., V]) -> Callable[..., Result[V, Exception]]`. -/
def safe : Signature where
  params := [⟨some "function", .positional, .callable (.ellipsis (.typeVar "V"))⟩]
  ret := .callable (.ellipsis (.generic "Result" [.typeVar "V", .named "Exception"]))

/-- A call of `safe` with a function that takes and returns an `int` or a `str`. The type of the
call comes from the first signature, but each signature is decorated as it is alone: the first to
return `Result[int, Exception]`, the second to return `Result[str, Exception]`. -/
theorem second_overload_decorated :
    let ofInt : Signature := ⟨[⟨some "x", .positional, .int⟩], .int⟩
    let ofText : Signature := ⟨[⟨some "x", .positional, .str⟩], .str⟩
    let intResult : Ty := .generic "Result" [.int, .named "Exception"]
    let textResult : Ty := .generic "Result" [.str, .named "Exception"]
    let context := (CallContext.positional "returns.result.safe" [[.overloaded [ofInt, ofText]]]
      (.callable (.ellipsis intResult))).withCallee (.callable safe)
    let alone := CallContext.positional "returns.result.safe" [[.callable ofText]]
      (.callable (.ellipsis textResult))
    safe.isEllipsis = false ∧
      analyze context = .ok (.overloaded [⟨[⟨some "x", .positional, .int⟩], intResult⟩,
        ⟨[⟨some "x", .positional, .str⟩], textResult⟩]) ∧
      analyze alone = .ok (.callable ⟨[⟨some "x", .positional, .str⟩], textResult⟩) := by
  intro ofInt ofText intResult textResult context alone
  let intAlone := CallContext.positional "returns.result.safe" [[.callable ofInt]]
    (.callable (.ellipsis intResult))
  have explicit : safe.isEllipsis = false := by decide +kernel
  have acceptsInt : safe.bindCall "safe" (Argument.plain [.callable ofInt] []) .nowhere =
      .ok ([[0]], .callable (.ellipsis intResult)) := toOption_eq_some_iff.mp (by decide +kernel)
  have acceptsText : safe.bindCall "safe" (Argument.plain [.callable ofText] []) .nowhere =
      .ok ([[0]], .callable (.ellipsis textResult)) := toOption_eq_some_iff.mp (by decide +kernel)
  obtain ⟨items, refined, itemwise⟩ := overloads_decorated_itemwise explicit
    (show context.callee = .callable safe from rfl)
    (show context.defaultType = .callable _ from rfl)
    (show context.arg? 0 = some (.overloaded [ofInt, ofText]) from rfl)
  cases itemwise with
  | cons first rest =>
    cases rest with
    | cons second none =>
      cases none
      have decoratedInt := first.2 _ _ _ _ acceptsInt intAlone rfl rfl
      have decoratedText := second.2 _ _ _ _ acceptsText alone rfl rfl
      rw [analyze_callable rfl rfl] at decoratedInt
      have textAlone := decoratedText
      rw [analyze_callable rfl rfl] at decoratedText
      cases decoratedInt
      cases decoratedText
      exact ⟨explicit, refined, textAlone⟩

end Callwise.Decorator
