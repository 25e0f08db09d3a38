import Callwise.TypeHint
import Callwise.Call.Binding
import Callwise.Check.Scope
import Callwise.Diagnostic.Collector
import Callwise.Module.Index
import Callwise.Refine.Plugin

/-!
# The state of the checker

Checking walks through a module and keeps the names in scope, what has been imported, the declared
type variables, what the module defines, and the diagnostics. A function, a class body and a
`lambda` are walked through in a scope of their own: their bindings are forgotten afterwards.
-/

namespace Callwise

/-- What the checker consults and never changes. -/
structure Environment where
  plugins : List Plugin := []
  index : ModuleIndex := {}
  deriving Inhabited

/-- What the checker has learned so far. -/
structure Checker where
  file : String := ""
  scope : Scope := {}
  /-- The full names of imported names. -/
  imports : NameMap String := {}
  typeVars : List String := []
  /-- The names defined at the top level, in order. -/
  definitions : List String := []
  /-- The names imported at the top level with their full names. -/
  aliases : List (String × String) := []
  /-- The number of scopes around the present one. -/
  depth : Nat := 0
  collector : Collector := {}
  lines : LineIndex := .ofText ""
  showRevealed : Bool := true
  deriving Inhabited

/-- A step of checking. -/
abbrev Check (α : Type) := StateM Checker α

namespace Checker

/-! ### Names -/

/-- The type of a plain name: what is in scope, else what has been imported, else a built-in. -/
def typeOfName (checker : Checker) (env : Environment) (name : String) : Ty :=
  match checker.scope.find? name with
  | some ty => ty
  | none =>
    match checker.imports.find? name with
    | some fullName => (env.index.find? fullName).getD .any
    | none => (env.index.find? (qualified "builtins" name)).getD .any

/-- The full name of something imported that is written with dots. -/
def dottedName? (checker : Checker) : Expr → Option String
  | .name _ id => if checker.scope.contains id then none else checker.imports.find? id
  | .access _ value attr => (checker.dottedName? value).map fun head => qualified head attr
  | _ => none

/-- The full name under which a callee is defined. Something bound in the program itself has
none. -/
def calleeName? (checker : Checker) (env : Environment) : Expr → Option String
  | .name _ id =>
    if checker.scope.contains id then none
    else
      match checker.imports.find? id with
      | some fullName => some (env.index.canonical fullName)
      | none =>
        let builtin := qualified "builtins" id
        if env.index.contains builtin then some builtin else none
  | .access span value attr =>
    (checker.dottedName? (.access span value attr)).map env.index.canonical
  | _ => none

/-- The names under which type variables are declared. -/
def typeVarNames : List String := ["typing.TypeVar", "typing_extensions.TypeVar"]

/-- The expression declares a type variable. -/
def declaresTypeVar (checker : Checker) : Expr → Bool
  | .call _ callee _ _ => (checker.dottedName? callee).any typeVarNames.contains
  | _ => false

/-! ### Changes of state -/

/-- Keep a diagnostic, in the checked file if it names none. -/
def report (checker : Checker) (diagnostic : Diagnostic) : Checker :=
  let placed := if diagnostic.file.isEmpty then { diagnostic with file := checker.file }
    else diagnostic
  { checker with collector := checker.collector.add placed }

/-- Bind a name. At the top level this is a definition of the module. -/
def define (checker : Checker) (name : String) (ty : Ty) : Checker :=
  let isNew := checker.depth == 0 && !checker.definitions.contains name
  { checker with
    scope := checker.scope.set name ty
    definitions := if isNew then checker.definitions ++ [name] else checker.definitions }

/-- Bind a name by an import. At the top level it replaces a definition of that name. -/
def addImport (checker : Checker) (name fullName : String) : Checker :=
  let bound := { checker with
    scope := checker.scope.erase name
    imports := checker.imports.insert name fullName }
  if checker.depth == 0 then
    { bound with
      definitions := checker.definitions.filter (· != name)
      aliases := checker.aliases.filter (fun entry => entry.1 != name) ++ [(name, fullName)] }
  else bound

/-- Declare a type variable. -/
def declareTypeVar (checker : Checker) (name : String) : Checker :=
  if checker.typeVars.contains name then checker
  else { checker with typeVars := checker.typeVars ++ [name] }

/-- What the checked module offers to others: a name defined last offers its type, a name imported
last the full name it stands for. -/
def exports (checker : Checker) : Exports where
  definitions := checker.definitions.filterMap fun name =>
    (checker.scope.find? name).map fun ty => (name, ty)
  aliases := checker.aliases.filter fun entry => !checker.scope.contains entry.1

/-- The signature of a function with these parameters. A parameter or result without an annotation
has the type `Any`, and an `async` function gives a coroutine. -/
def signatureOf (checker : Checker) (params : List (Parameter (Option Expr)))
    (returns : Option Expr) (isAsync : Bool) : Signature :=
  let annotated := fun (hint : Option Expr) =>
    (hint.map (TypeHint.read checker.typeVars)).getD .any
  let ret := annotated returns
  { params := params.map fun param => ⟨some param.name, param.kind, annotated param.hint⟩
    ret := if isAsync then .generic "Coroutine" [.any, .any, ret] else ret }

/-- The type that a parameter has inside its function. -/
def boundType (param : Param) : Ty :=
  match param.kind with
  | .star => .generic "tuple" [param.ty]
  | .doubleStar => .dict .str param.ty
  | _ => param.ty

/-- Bind names without defining them for the module. -/
def bindAll (checker : Checker) (bindings : List (String × Ty)) : Checker :=
  { checker with
    scope := bindings.foldl (fun scope (name, ty) => scope.set name ty) checker.scope }

end Checker

namespace Check

variable {α : Type}

/-- Take a step in a scope of its own. Names bound and imported by it are forgotten. -/
def inScope (step : Check α) : Check α := do
  let outer ← get
  set { outer with depth := outer.depth + 1 }
  let result ← step
  modify fun inner =>
    { inner with
      scope := { inner.scope with types := outer.scope.types }
      imports := outer.imports
      depth := inner.depth - 1 }
  pure result

/-- Keep a diagnostic. -/
def report (diagnostic : Diagnostic) : Check Unit := modify fun checker => checker.report diagnostic

/-- The location of a span in the checked text. -/
def locate (span : Span) : Check Location := do pure ((← get).lines.locate span)

/-- A placeholder that has not been used yet. -/
def fresh : Check Ty := do
  let checker ← get
  let (ty, scope) := checker.scope.fresh
  set { checker with scope }
  pure ty

/-- The common type of the items of a display; nothing is known of an empty one. -/
def join (types : List Ty) : Check Ty := if types.isEmpty then fresh else pure (Ty.unionOf types)

/-- What is called: its full name if a plugin may refine it, its name for diagnostics, and its
type. -/
structure Target where
  fullName : Option String
  name : String
  ty : Ty

/-- The context in which a plugin refines an accepted call. -/
def contextOf (fullName : String) (call : AcceptedCall) (arguments : List Argument)
    (file : String) (location : Location) : CallContext :=
  let groups := call.groups.map fun group => group.filterMap fun index => arguments[index]?
  { fullName
    argTypes := groups.map fun group => group.map Argument.ty
    argKinds := groups.map fun group => group.map Argument.kind
    argNames := groups.map fun group => group.map Argument.name
    paramNames := call.signature.params.map Param.name
    callee := .callable call.signature
    defaultType := call.ret
    file
    location }

/-- The type of a call. A plugin has the last word on a call that is accepted; a call or a
refinement that fails is reported and gives `Any`. -/
def call (env : Environment) (target : Target) (arguments : List Argument) (location : Location) :
    Check Ty := do
  match target.ty.acceptCall target.name arguments location with
  | .error diagnostic =>
    report diagnostic
    pure .any
  | .ok none => pure .any
  | .ok (some accepted) =>
    match target.fullName.bind fun fullName =>
        (Plugin.findHook? env.plugins fullName).map (fullName, ·) with
    | none => pure accepted.ret
    | some (fullName, strategy) =>
      let context := contextOf fullName accepted arguments (← get).file location
      match strategy.analyze context with
      | .ok ty => pure ty
      | .error diagnostic =>
        report diagnostic
        pure .any

end Check

end Callwise
