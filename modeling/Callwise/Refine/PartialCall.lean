import Callwise.Refine.Context

/-!
# Partial application

`partial(function, *args, **kwargs)` fills parameters of a function in advance. The refined type is
the function's signature without the parameters that are filled, with the type variables solved that
the given arguments determine. A positional parameter that is filled by name can no longer be
passed over, so all positional parameters behind it can be reached by name only.
-/

namespace Callwise.PartialCall

/-- The arguments given in advance. -/
structure Given where
  positional : List Ty
  keywords : List (String × Ty)

/-- How a parameter has been filled. -/
inductive Filling where
  | free
  | byPosition
  | byName
  deriving DecidableEq, Repr, Inhabited

/-- The arguments behind the function. There are none to read off if `*xs` or `**kw` hides them. -/
def Given.ofContext? (context : CallContext) : Option Given := do
  guard ((context.argKinds[1]?.getD []).all (· == .positional))
  guard ((context.argKinds[2]?.getD []).all (· == .named))
  let keywords ← (context.args 2).zipIdx.mapM fun (ty, index) =>
    (context.argName? 2 index).map (·, ty)
  pure ⟨context.args 1, keywords⟩

/-- Match one argument, which has the given number in the call. -/
def check (context : CallContext) (subst : Substitution) (param : Param) (found : Ty)
    (index : Nat) : Except Diagnostic Substitution :=
  match subst.bind param.ty found with
  | (true, extended) => .ok extended
  | (false, reached) => .error (context.invalidArgument index (reached.apply param.ty) found)

/-- Match all arguments with one parameter. -/
def checkAll (context : CallContext) (param : Param) :
    List Ty → (index : Nat) → Substitution → Except Diagnostic Substitution
  | [], _, subst => .ok subst
  | found :: rest, index, subst =>
    match check context subst param found index with
    | .ok extended => checkAll context param rest (index + 1) extended
    | .error diagnostic => .error diagnostic

/-- Fill parameters by position, the first argument having the given number. Arguments that no
parameter takes are too many. -/
def fillPositions (context : CallContext) : List Param → List Ty → (index : Nat) → Substitution →
    Except Diagnostic (List Filling × Substitution)
  | params, [], _, subst => .ok (params.map fun _ => .free, subst)
  | [], _ :: _, _, _ => .error (context.fail (.tooManyArguments context.shortName))
  | param :: params, found :: rest, index, subst =>
    if param.kind.isPositional then
      match check context subst param found index with
      | .error diagnostic => .error diagnostic
      | .ok extended =>
        (fillPositions context params rest (index + 1) extended).map fun (fillings, subst) =>
          (.byPosition :: fillings, subst)
    else if param.kind == .star then
      (checkAll context param (found :: rest) index subst).map fun subst =>
        (.free :: params.map (fun _ => .free), subst)
    else
      (fillPositions context params (found :: rest) index subst).map fun (fillings, subst) =>
        (.free :: fillings, subst)

/-- Fill the parameter that a name reaches, or match with the double-star parameter. -/
def fillName (context : CallContext) (function : Signature) (name : String) (found : Ty)
    (index : Nat) (fillings : List Filling) (subst : Substitution) :
    Except Diagnostic (List Filling × Substitution) :=
  let reaches := fun (param : Param) => !param.kind.isVariadic && param.name == some name
  match function.params.findIdx? reaches, function.params.find? reaches with
  | some place, some param =>
    if (fillings[place]?.getD .free) != .free then
      let text := quoted context.shortName ++ " gets multiple values for keyword argument "
        ++ quoted name
      .error (context.fail (.other text))
    else
      (check context subst param found index).map fun extended =>
        (fillings.set place .byName, extended)
  | _, _ =>
    match function.doubleStar? with
    | some param => (check context subst param found index).map fun extended => (fillings, extended)
    | none =>
      let candidates := function.params.filterMap Param.name
      .error { Diagnostic.unexpectedKeyword context.shortName name context.location candidates with
        file := context.file }

/-- Fill parameters by name, the first argument having the given number. -/
def fillNames (context : CallContext) (function : Signature) :
    List (String × Ty) → (index : Nat) → List Filling → Substitution →
    Except Diagnostic (List Filling × Substitution)
  | [], _, fillings, subst => .ok (fillings, subst)
  | (name, found) :: rest, index, fillings, subst =>
    match fillName context function name found index fillings subst with
    | .ok (filled, extended) => fillNames context function rest (index + 1) filled extended
    | .error diagnostic => .error diagnostic

/-- The parameters that are left, with the solved variables replaced. -/
def remaining (subst : Substitution) : List (Param × Filling) → (namesOnly : Bool) → List Param
  | [], _ => []
  | (param, filling) :: rest, namesOnly =>
    match filling with
    | .byPosition => remaining subst rest namesOnly
    | .byName => remaining subst rest (namesOnly || param.kind.isPositional)
    | .free =>
      let kind := if namesOnly then param.kind.toNamed else param.kind
      ⟨param.name, kind, subst.apply param.ty⟩ :: remaining subst rest namesOnly

/-- The signature that is left after the given arguments. The function itself is argument number
one. -/
def Given.apply (given : Given) (context : CallContext) (function : Signature) :
    Except Diagnostic Signature :=
  if function.isEllipsis then .ok function
  else do
    let (positions, subst) ← fillPositions context function.params given.positional 2 .empty
    let (fillings, subst) ← fillNames context function given.keywords
      (given.positional.length + 2) positions subst
    .ok ⟨remaining subst (function.params.zip fillings) false, subst.apply function.ret⟩

/-- Refine a call of `partial`. Of an overloaded function those signatures stay that accept the
arguments. -/
def analyze (context : CallContext) : Except Diagnostic Ty :=
  match context.arg? 0, Given.ofContext? context with
  | some (.callable function), some given => (given.apply context function).map .callable
  | some (.overloaded functions), some given =>
    match functions.filterMap fun function => (given.apply context function).toOption with
    | [] => .error (context.fail (.noMatchingOverload context.shortName))
    | [single] => .ok (.callable single)
    | accepted => .ok (.overloaded accepted)
  | _, _ => .ok context.defaultType

end Callwise.PartialCall
