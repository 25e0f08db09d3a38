import Callwise.Check.Infer

/-!
# Checking statements

Statements are checked in order. All branches of a conditional, a loop and a `try` are walked
through one after the other in the same scope. Statements that the syntax tree marks as inert are
passed over.
-/

namespace Callwise.Check

/-! ### Assignment targets -/

/-- The types that a number of targets get from a value. -/
def elementTypes (ty : Ty) (count : Nat) : List Ty :=
  match ty with
  | .tuple items => if items.length == count then items else List.replicate count ty.element
  | other => List.replicate count other.element

mutual

/-- Bind a target to a type. A target that is no name is looked at like any expression. -/
def bindTarget (env : Environment) (target : Expr) (ty : Ty) : Check Unit :=
  match target with
  | .name _ id => modify fun checker => checker.define id ty
  | .tuple _ items => bindTargets env items (elementTypes ty items.length)
  | .list _ items => bindTargets env items (elementTypes ty items.length)
  | .starred _ value => bindTarget env value (.list .any)
  | other => do
    let _ ← infer env other
termination_by structural target

/-- Bind several targets. -/
def bindTargets (env : Environment) (targets : List Expr) (types : List Ty) : Check Unit :=
  match targets, types with
  | target :: targets, ty :: types => do
    bindTarget env target ty
    bindTargets env targets types
  | _, _ => pure ()
termination_by structural targets

end

/-! ### Simple statements -/

/-- The part of a dotted name before the first dot. -/
def headOf (name : String) : String := String.ofList (name.toList.takeWhile (· != '.'))

/-- `import a.b` binds `a`, and `import a.b as c` binds `c`. -/
def importModule (imported : ImportedName) : Check Unit :=
  modify fun checker =>
    match imported.alias? with
    | some name => checker.addImport name imported.name
    | none => checker.addImport (headOf imported.name) (headOf imported.name)

/-- Bind a name from a module. A star binds nothing. -/
def importName (module : String) (imported : ImportedName) : Check Unit :=
  if imported.name == "*" then pure ()
  else
    modify fun checker =>
      checker.addImport (imported.alias?.getD imported.name) (qualified module imported.name)

/-- Look at an expression if there is one. -/
def inferOptional (env : Environment) : Option Expr → Check Unit
  | some value => do
    let _ ← infer env value
  | none => pure ()

/-- Bind targets to a value. A value that declares a type variable declares the names among the
targets. -/
def assign (env : Environment) (targets : List Expr) (value : Expr) : Check Unit := do
  if (← get).declaresTypeVar value then
    targets.forM fun
      | .name _ id => modify fun checker => checker.declareTypeVar id
      | _ => pure ()
  else
    let ty ← infer env value
    targets.forM fun target => bindTarget env target ty

/-- `target: hint = value`. The value has to fit the annotation. -/
def annotate (env : Environment) (target hint : Expr) (value : Option Expr) : Check Unit := do
  let declared := TypeHint.read (← get).typeVars hint
  match value with
  | some value =>
    let found ← infer env value
    if !found.isSubtype declared then
      let cause := Cause.typeMismatch declared.render found.render
      report ⟨cause, .error, ← locate value.span, "", []⟩
  | none => pure ()
  match target with
  | .name _ id => modify fun checker => checker.define id declared
  | other =>
    let _ ← infer env other

/-- Apply decorators, the innermost first. -/
def decorate (env : Environment) : List Expr → Ty → Check Ty
  | [], ty => pure ty
  | decorator :: rest, ty => do
    let location ← locate decorator.span
    let target ← target env decorator
    let decorated ← call env target [⟨.positional, none, ty⟩] location
    decorate env rest decorated

/-- Look at context managers and bind their targets, of which nothing is known. -/
def enterContexts (env : Environment) : List (Expr × Option Expr) → Check Unit
  | [] => pure ()
  | (manager, target) :: rest => do
    let _ ← infer env manager
    match target with
    | some target => bindTarget env target .any
    | none => pure ()
    enterContexts env rest

/-- The type of what an `except` clause catches. -/
def caughtType (typeVars : List String) : Option Expr → Ty
  | some caught => TypeHint.read typeVars caught
  | none => .named "BaseException"

/-- The type of a class: it can be called with anything and gives an instance. -/
def classType (name : String) : Ty := .callable (.ellipsis (.named name))

/-! ### All statements -/

mutual

/-- Check a statement. -/
def checkStmt (env : Environment) : Stmt → Check Unit
  | .importModules names => names.forM importModule
  | .importFrom module isRelative names =>
    match module with
    | some module => if isRelative then pure () else names.forM (importName module)
    | none => pure ()
  | .function header body => do
    let signature := (← get).signatureOf header.params header.returns header.isAsync
    inScope do
      modify fun checker => checker.bindAll (signature.params.filterMap fun param =>
        param.name.map fun name => (name, Checker.boundType param))
      checkBody env body
    let ty ← decorate env header.decorators.reverse (.callable signature)
    modify fun checker => checker.define header.name ty
  | .classDef name decorators body => do
    let _ ← inferAll env decorators
    modify fun checker => checker.define name (classType name)
    inScope (checkBody env body)
  | .assign targets value => assign env targets value
  | .annotated target hint value => annotate env target hint value
  | .augmented target value => do
    let _ ← infer env target
    let _ ← infer env value
  | .expr value => do
    let _ ← infer env value
  | .ret value => inferOptional env value
  | .ifThen test body orElse => do
    let _ ← infer env test
    checkBody env body
    checkBody env orElse
  | .whileLoop test body orElse => do
    let _ ← infer env test
    checkBody env body
    checkBody env orElse
  | .forLoop target iterable body orElse => do
    let ty ← infer env iterable
    bindTarget env target ty.element
    checkBody env body
    checkBody env orElse
  | .withBlock items body => do
    enterContexts env items
    checkBody env body
  | .tryBlock body handlers orElse cleanup => do
    checkBody env body
    checkHandlers env handlers
    checkBody env orElse
    checkBody env cleanup
  | .raise value => inferOptional env value
  | .assert test => do
    let _ ← infer env test
  | .inert => pure ()

/-- Check statements in order. -/
def checkBody (env : Environment) : List Stmt → Check Unit
  | [] => pure ()
  | first :: rest => do
    checkStmt env first
    checkBody env rest

/-- Check an `except` clause. -/
def checkHandler (env : Environment) : Handler → Check Unit
  | ⟨caught, name, body⟩ => do
    match name with
    | some name =>
      modify fun checker => checker.define name (caughtType checker.typeVars caught)
    | none => pure ()
    checkBody env body

/-- Check `except` clauses in order. -/
def checkHandlers (env : Environment) : List Handler → Check Unit
  | [] => pure ()
  | first :: rest => do
    checkHandler env first
    checkHandlers env rest

end

end Callwise.Check

namespace Callwise.Checker

/-- Check a module. The diagnostics of a module checked before are dropped, everything else that was
learned from it stays. -/
def checkModule (checker : Checker) (env : Environment) (body : List Stmt) (text : String) :
    Checker :=
  let prepared := { checker with
    collector := checker.collector.clear
    lines := .ofText text }
  ((Check.checkBody env body).run prepared).2

/-- The diagnostics of the module checked last. -/
def diagnostics (checker : Checker) : List Diagnostic := checker.collector.kept

end Callwise.Checker
