import Callwise.Module.Stubs
import Callwise.Proofs.Check.StatementWalk

/-!
# What happens while modules are checked

Checking a statement consists of checking other statements, finding the types of expressions,
binding targets and making calls. `Activity.parts` says of which activities an activity consists,
and in which state each of them begins. The parts follow the run: an activity that changes nothing
by itself ends where its last part ends. What occurs while modules are checked are the statements of
their bodies, the parts of these, the parts of the parts, and so on.

The types that are held are those in scope whenever something begins or ends, those found for
expressions, those given to strategies and those that strategies give back. Together with the
definitions of the index these are all types that the checker ever has to do with. They have every
hereditary property that type variables have.
-/

namespace Callwise

/-! ### Activities and their parts -/

/-- Something that the checker does. -/
inductive Activity where
  /-- Finding the type of an expression. -/
  | infer (expr : Expr)
  /-- Calling something with arguments. -/
  | call (target : Check.Target) (arguments : List Argument) (location : Location)
  /-- Binding a target to a type. -/
  | bind (target : Expr) (ty : Ty)
  /-- Applying decorators to something of a type. -/
  | decorate (decorators : List Expr) (ty : Ty)
  /-- Checking a statement. -/
  | check (stmt : Stmt)
  /-- Checking an `except` clause. -/
  | handle (handler : Handler)

/-- The operands of a part of a dictionary, in the order in which they are looked at. -/
def DictEntry.operands : DictEntry → List Expr
  | .pair key value => [value, key]
  | .spread value => [value]

/-- The operands of an expression, in the order in which they are looked at. A call, an access and a
`lambda` are not among the expressions that only look at operands. -/
def Expr.operands : Expr → List Expr
  | .await _ value | .unary _ _ value | .starred _ value | .assignment _ _ value => [value]
  | .list _ items | .tuple _ items | .set _ items | .boolean _ items | .formatted _ items => items
  | .dict _ entries => entries.flatMap DictEntry.operands
  | .binary _ _ left right => [left, right]
  | .compare _ left others => left :: others
  | .conditional _ test body orElse => [test, body, orElse]
  | .subscript _ value index => [value, index]
  | _ => []

/-- What is known once the callee and the arguments of a call have been looked at. -/
def Check.prepareCall (env : Environment) (span : Span) (callee : Expr) (args : List Expr)
    (keywords : List Keyword) : Check (Check.Target × List Argument × Location) := do
  let target ← Check.target env callee
  let positional ← Check.inferArguments env args
  let named ← Check.inferKeywords env keywords
  pure (target, positional ++ named, ← Check.locate span)

namespace Activity

variable {checker : Checker}

/-- The step that carries out an activity. What it finds is not asked for. -/
def run (env : Environment) : Activity → Check Unit
  | infer expr => do
    let _ ← Check.infer env expr
  | call target arguments location => do
    let _ ← Check.call env target arguments location
  | bind target ty => Check.bindTarget env target ty
  | decorate decorators ty => do
    let _ ← Check.decorate env decorators ty
  | check stmt => Check.checkStmt env stmt
  | handle handler => Check.checkHandler env handler

/-- The state in which an activity ends. -/
def after (env : Environment) (activity : Activity) (checker : Checker) : Checker :=
  ((activity.run env).run checker).2

/-- Activities one after another, each with the state in which it begins. -/
def inOrder (env : Environment) : List Activity → Checker → List (Activity × Checker)
  | [], _ => []
  | first :: rest, checker => (first, checker) :: inOrder env rest (first.after env checker)

/-- What finding the type of an expression consists of. -/
def partsOfExpr (env : Environment) (checker : Checker) : Expr → List (Activity × Checker)
  | .access span value attr =>
    if (checker.dottedName? (.access span value attr)).isSome then [] else [(infer value, checker)]
  | .call span callee args keywords =>
    if Check.isReveal checker callee then inOrder env ((args.take 1).map infer) checker
    else
      let operands := callee :: args ++ keywords.map Keyword.value
      let prepared := (Check.prepareCall env span callee args keywords).run checker
      inOrder env (operands.map infer) checker ++
        [(call prepared.1.1 prepared.1.2.1 prepared.1.2.2, prepared.2)]
  | .lambda _ params body =>
    [(infer body, checker.enter.bindAll (params.map fun param => (param.name, .any)))]
  | expr => inOrder env (expr.operands.map infer) checker

/-- What binding a target consists of. -/
def partsOfTarget (env : Environment) (checker : Checker) (ty : Ty) :
    Expr → List (Activity × Checker)
  | .name .. => []
  | .tuple _ items | .list _ items =>
    let types := Check.elementTypes ty items.length
    inOrder env ((items.zip types).map fun entry => bind entry.1 entry.2) checker
  | .starred _ value => [(bind value (.list .any), checker)]
  | other => [(infer other, checker)]

/-- What applying decorators consists of: the first is looked at and called, and the others are
applied to what comes out. -/
def partsOfDecorators (env : Environment) (checker : Checker) (ty : Ty) :
    List Expr → List (Activity × Checker)
  | [] => []
  | decorator :: rest =>
    let arguments : List Argument := [⟨.positional, none, ty⟩]
    let location := checker.lines.locate decorator.span
    let found := (Check.target env decorator).run checker
    let decorated := (Check.call env found.1 arguments location).run found.2
    [(infer decorator, checker), (call found.1 arguments location, found.2),
      (decorate rest decorated.1, decorated.2)]

/-- The state after the value of an annotated target has been looked at. -/
def afterValue (env : Environment) (checker : Checker) (declared : Ty) : Option Expr → Checker
  | none => checker
  | some value =>
    let found := (Check.infer env value).run checker
    if found.1.isSubtype declared then found.2
    else
      found.2.report ⟨.typeMismatch declared.render found.1.render, .error,
        found.2.lines.locate value.span, "", []⟩

/-- What checking a statement consists of. -/
def partsOfStmt (env : Environment) (checker : Checker) : Stmt → List (Activity × Checker)
  | .importModules _ | .importFrom .. | .inert => []
  | .function header body =>
    let signature := checker.signatureOf header.params header.returns header.isAsync
    let inside := checker.enter.bindAll (signature.params.filterMap fun param =>
      param.name.map fun name => (name, Checker.boundType param))
    let outside := ((Check.checkBody env body).run inside).2.leave checker
    inOrder env (body.map check) inside ++
      [(decorate header.decorators.reverse (.callable signature), outside)]
  | .classDef name decorators body =>
    let decorated := ((Check.inferAll env decorators).run checker).2
    inOrder env (decorators.map infer) checker ++
      inOrder env (body.map check) (decorated.define name (Check.classType name)).enter
  | .assign targets value =>
    if checker.declaresTypeVar value then []
    else
      let found := (Check.infer env value).run checker
      (infer value, checker) :: inOrder env (targets.map fun target => bind target found.1) found.2
  | .annotated target hint value =>
    let valued := afterValue env checker (TypeHint.read checker.typeVars hint) value
    value.toList.map (fun value => (infer value, checker)) ++
      match target with
      | .name .. => []
      | other => [(infer other, valued)]
  | .augmented target value => inOrder env [infer target, infer value] checker
  | .expr value | .assert value => [(infer value, checker)]
  | .ret value | .raise value => value.toList.map fun value => (infer value, checker)
  | .ifThen test body orElse | .whileLoop test body orElse =>
    inOrder env (infer test :: body.map check ++ orElse.map check) checker
  | .forLoop target iterable body orElse =>
    let found := (Check.infer env iterable).run checker
    (infer iterable, checker) ::
      inOrder env (bind target found.1.element :: body.map check ++ orElse.map check) found.2
  | .withBlock items body =>
    let entered := items.flatMap fun (manager, target) =>
      infer manager :: target.toList.map fun target => bind target .any
    inOrder env (entered ++ body.map check) checker
  | .tryBlock body handlers orElse cleanup =>
    inOrder env (body.map check ++ handlers.map handle ++ orElse.map check ++ cleanup.map check)
      checker

/-- What checking an `except` clause consists of. -/
def partsOfHandler (env : Environment) (checker : Checker) (handler : Handler) :
    List (Activity × Checker) :=
  let named := match handler.name with
    | some name => checker.define name (Check.caughtType checker.typeVars handler.caught)
    | none => checker
  inOrder env (handler.body.map check) named

/-- The activities of which an activity that begins in the given state consists, each with the state
in which it begins itself. -/
def parts (env : Environment) (checker : Checker) : Activity → List (Activity × Checker)
  | infer expr => partsOfExpr env checker expr
  | call .. => []
  | bind target ty => partsOfTarget env checker ty target
  | decorate decorators ty => partsOfDecorators env checker ty decorators
  | check stmt => partsOfStmt env checker stmt
  | handle handler => partsOfHandler env checker handler

/-! ### Parts follow the run -/

/-- The state after activities one after another. -/
def afterAll (env : Environment) : List Activity → Checker → Checker
  | [], checker => checker
  | first :: rest, checker => afterAll env rest (first.after env checker)

/-- The state in which the last of the activities ends. -/
def ending (env : Environment) (points : List (Activity × Checker)) (start : Checker) : Checker :=
  (points.getLast?.map fun point => point.1.after env point.2).getD start

/-- Apart from what its parts do, the activity changes nothing. Declarations, definitions, new
scopes, placeholders and notes are changes of an activity's own, and so is a call. -/
def goesThrough (checker : Checker) : Activity → Bool
  | infer (.call _ callee _ _) => !Check.isReveal checker callee
  | infer (.list ..) | infer (.set ..) | infer (.dict ..) | infer (.lambda ..)
  | infer (.assignment ..) => false
  | infer _ | decorate .. => true
  | bind (.name ..) _ => false
  | bind .. => true
  | check (.assign _ value) => !checker.declaresTypeVar value
  | check (.importModules _) | check (.importFrom ..) | check (.function ..)
  | check (.classDef ..) | check (.annotated ..) => false
  | check _ => true
  | call .. | handle _ => false

variable {env : Environment}

/-- Activities one after another end with the last one. -/
theorem ending_inOrder (activities : List Activity) (checker : Checker) :
    ending env (inOrder env activities checker) checker = afterAll env activities checker := by
  induction activities generalizing checker with
  | nil => rfl
  | cons first rest ih =>
    rw [afterAll, ← ih]
    cases rest with
    | nil => rfl
    | cons second others => simp [inOrder, ending, List.getLast?_cons]

/-- Activities behind others. -/
theorem afterAll_append (first second : List Activity) (checker : Checker) :
    afterAll env (first ++ second) checker =
      afterAll env second (afterAll env first checker) := by
  induction first generalizing checker with
  | nil => rfl
  | cons activity rest ih => exact ih _

/-- Looking at several expressions. -/
theorem run_inferAll (exprs : List Expr) (checker : Checker) :
    ((Check.inferAll env exprs).run checker).2 = afterAll env (exprs.map infer) checker := by
  induction exprs generalizing checker with
  | nil => rfl
  | cons expr rest ih => exact ih _

/-- Binding targets to the types of elements. -/
theorem run_bindTargets (targets : List Expr) (types : List Ty) (checker : Checker) :
    ((Check.bindTargets env targets types).run checker).2 =
      afterAll env ((targets.zip types).map fun entry => bind entry.1 entry.2) checker := by
  induction targets generalizing types checker with
  | nil => rfl
  | cons target rest ih =>
    cases types with
    | nil => rfl
    | cons ty types => exact ih types _

/-- Binding targets to one type. -/
theorem run_forM_bindTarget (targets : List Expr) (ty : Ty) (checker : Checker) :
    ((targets.forM fun target => Check.bindTarget env target ty : Check Unit).run checker).2 =
      afterAll env (targets.map fun target => bind target ty) checker := by
  induction targets generalizing checker with
  | nil => rfl
  | cons target rest ih => exact ih _

/-- Looking at context managers. -/
theorem run_enterContexts (items : List (Expr × Option Expr)) (checker : Checker) :
    ((Check.enterContexts env items).run checker).2 =
      afterAll env (items.flatMap fun (manager, target) =>
        infer manager :: target.toList.map fun target => bind target .any) checker := by
  induction items generalizing checker with
  | nil => rfl
  | cons item rest ih =>
    obtain ⟨manager, target⟩ := item
    cases target with
    | none => exact ih _
    | some target => exact ih _

/-- Checking a body. -/
theorem run_checkBody (body : List Stmt) (checker : Checker) :
    ((Check.checkBody env body).run checker).2 = afterAll env (body.map check) checker := by
  induction body generalizing checker with
  | nil => rfl
  | cons stmt rest ih => exact ih _

/-- Checking `except` clauses. -/
theorem run_checkHandlers (handlers : List Handler) (checker : Checker) :
    ((Check.checkHandlers env handlers).run checker).2 =
      afterAll env (handlers.map handle) checker := by
  induction handlers generalizing checker with
  | nil => rfl
  | cons handler rest ih => exact ih _

/-- A call that reveals no type is prepared and then made. -/
theorem run_call {span : Span} {callee : Expr} {args : List Expr} {keywords : List Keyword}
    (ordinary : Check.isReveal checker callee = false) :
    (Check.infer env (.call span callee args keywords)).run checker =
      let prepared := (Check.prepareCall env span callee args keywords).run checker
      (Check.call env prepared.1.1 prepared.1.2.1 prepared.1.2.2).run prepared.2 := by
  simp only [Check.infer, StateT.run_bind, StateT.run_get, pure_bind, ordinary,
    Bool.false_eq_true, if_false]
  rfl

/-- Expressions that only go through their parts. -/
theorem after_infer {expr : Expr} (through : (infer expr).goesThrough checker = true) :
    (infer expr).after env checker = ending env (partsOfExpr env checker expr) checker := by
  cases expr with
  | list | set | dict | lambda | assignment => cases through
  | literal | name | slice | yield => rfl
  | comprehension span kind => cases kind <;> rfl
  | await | unary | starred => rfl
  | binary _ _ left right => exact (ending_inOrder [infer left, infer right] checker).symm
  | subscript _ value index => exact (ending_inOrder [infer value, infer index] checker).symm
  | conditional _ test body orElse =>
    exact (ending_inOrder [infer test, infer body, infer orElse] checker).symm
  | tuple _ items | boolean _ items | formatted _ items =>
    rw [partsOfExpr, ending_inOrder]
    · exact run_inferAll items checker
    all_goals simp
  | compare _ left others =>
    rw [partsOfExpr, ending_inOrder]
    · exact run_inferAll others ((infer left).after env checker)
    all_goals simp
  | access span value attr =>
    cases found : checker.dottedName? (.access span value attr) with
    | none =>
      simp only [partsOfExpr, found, Option.isSome_none, Bool.false_eq_true, if_false, after, run,
        Check.infer, StateT.run_bind, StateT.run_get, pure_bind]
      rfl
    | some fullName =>
      simp only [partsOfExpr, found, Option.isSome_some, if_true, after, run, Check.infer,
        StateT.run_bind, StateT.run_get, pure_bind]
      rfl
  | call span callee args keywords =>
    have ordinary : Check.isReveal checker callee = false := by
      simpa [goesThrough] using through
    simp only [partsOfExpr, ordinary, Bool.false_eq_true, if_false, ending, List.getLast?_concat,
      Option.map_some, Option.getD_some]
    simp only [after, run, StateT.run_bind, run_call ordinary]

/-- Binding a target that is no name only goes through its parts. -/
theorem after_bind {target : Expr} {ty : Ty}
    (through : (bind target ty).goesThrough checker = true) :
    (bind target ty).after env checker =
      ending env (partsOfTarget env checker ty target) checker := by
  cases target with
  | name => cases through
  | tuple _ items | list _ items =>
    rw [partsOfTarget, ending_inOrder]
    exact run_bindTargets items (Check.elementTypes ty items.length) checker
  | _ => rfl

/-- Applying decorators only goes through its parts. -/
theorem after_decorate (decorators : List Expr) (ty : Ty) (checker : Checker) :
    (decorate decorators ty).after env checker =
      ending env (partsOfDecorators env checker ty decorators) checker := by
  cases decorators with
  | nil => rfl
  | cons decorator rest => rfl

/-- Statements that only go through their parts. -/
theorem after_check {stmt : Stmt} (through : (check stmt).goesThrough checker = true) :
    (check stmt).after env checker = ending env (partsOfStmt env checker stmt) checker := by
  cases stmt with
  | importModules | importFrom | function | classDef | annotated => cases through
  | inert => rfl
  | expr | assert => rfl
  | ret value | raise value => cases value <;> rfl
  | augmented target value => exact (ending_inOrder [infer target, infer value] checker).symm
  | assign targets value =>
    have ordinary : checker.declaresTypeVar value = false := by
      simpa [goesThrough] using through
    have inParts : partsOfStmt env checker (.assign targets value) = inOrder env (infer value ::
        targets.map fun target => bind target ((Check.infer env value).run checker).1) checker := by
      simp only [partsOfStmt, ordinary, Bool.false_eq_true, if_false]
      rfl
    rw [inParts, ending_inOrder, afterAll, ← run_forM_bindTarget]
    simp only [after, run, Check.checkStmt, Check.assign, StateT.run_bind, StateT.run_get,
      pure_bind, ordinary, Bool.false_eq_true, if_false]
    rfl
  | ifThen test body orElse | whileLoop test body orElse =>
    rw [partsOfStmt, ending_inOrder, afterAll_append, afterAll, ← run_checkBody, ← run_checkBody]
    rfl
  | forLoop target iterable body orElse =>
    have inParts : partsOfStmt env checker (.forLoop target iterable body orElse) =
        inOrder env (infer iterable ::
          bind target ((Check.infer env iterable).run checker).1.element ::
          body.map check ++ orElse.map check) checker := rfl
    rw [inParts, ending_inOrder, afterAll_append, afterAll, afterAll, ← run_checkBody,
      ← run_checkBody]
    rfl
  | withBlock items body =>
    rw [partsOfStmt, ending_inOrder, afterAll_append, ← run_enterContexts, ← run_checkBody]
    rfl
  | tryBlock body handlers orElse cleanup =>
    rw [partsOfStmt, ending_inOrder, afterAll_append, afterAll_append, afterAll_append,
      ← run_checkBody, ← run_checkHandlers, ← run_checkBody, ← run_checkBody]
    rfl

/-- An activity that changes nothing by itself ends where the last of its parts ends. -/
theorem after_eq_ending {activity : Activity} (through : activity.goesThrough checker = true) :
    activity.after env checker = ending env (activity.parts env checker) checker := by
  cases activity with
  | infer expr => exact after_infer through
  | call | handle => cases through
  | bind target ty => exact after_bind through
  | decorate decorators ty => exact after_decorate decorators ty checker
  | check stmt => exact after_check through

end Activity

/-! ### Modules -/

/-- A module that is checked: its statements and its text. -/
structure CheckedModule where
  body : List Stmt
  text : String

namespace Checker

/-- The state in which the first statement of a module begins. -/
def prepare (checker : Checker) (text : String) : Checker :=
  { checker with collector := checker.collector.clear, lines := .ofText text }

/-- Checking a module checks its statements one after another. -/
theorem checkModule_eq_afterAll (checker : Checker) (env : Environment) (body : List Stmt)
    (text : String) :
    checker.checkModule env body text =
      Activity.afterAll env (body.map .check) (checker.prepare text) :=
  Activity.run_checkBody body (checker.prepare text)

/-- The state after modules have been checked one after another. -/
def checkModules (checker : Checker) (env : Environment) : List CheckedModule → Checker
  | [] => checker
  | module :: rest => (checker.checkModule env module.body module.text).checkModules env rest

/-- The statements of the modules, each with the state in which it begins. -/
def topLevel (checker : Checker) (env : Environment) :
    List CheckedModule → List (Activity × Checker)
  | [] => []
  | module :: rest =>
    Activity.inOrder env (module.body.map .check) (checker.prepare module.text) ++
      (checker.checkModule env module.body module.text).topLevel env rest

/-- The activity begins in the state while the modules are checked. -/
inductive Occurs (env : Environment) (start : Checker) (modules : List CheckedModule) :
    Activity → Checker → Prop where
  | statement {activity : Activity} {checker : Checker}
      (within : (activity, checker) ∈ start.topLevel env modules) :
      Occurs env start modules activity checker
  | part {whole activity : Activity} {begun checker : Checker}
      (occurs : Occurs env start modules whole begun)
      (within : (activity, checker) ∈ whole.parts env begun) :
      Occurs env start modules activity checker

end Checker

/-- All types that a strategy is given. -/
def CallContext.types (context : CallContext) : List Ty :=
  context.argTypes.flatten ++ [context.callee, context.defaultType]

/-- The checker has to do with the type while it checks the modules. -/
inductive Checker.Holds (env : Environment) (start : Checker) (modules : List CheckedModule) :
    Ty → Prop where
  /-- A definition of the index. -/
  | defined {fullName : String} {ty : Ty} (found : env.index.definitions.find? fullName = some ty) :
      Holds env start modules ty
  /-- The type of a name in scope when an activity begins. -/
  | scope {activity : Activity} {checker : Checker} {name : String} {ty : Ty}
      (occurs : start.Occurs env modules activity checker)
      (found : checker.scope.find? name = some ty) : Holds env start modules ty
  /-- The type of a name in scope when an activity ends. -/
  | scopeAfter {activity : Activity} {checker : Checker} {name : String} {ty : Ty}
      (occurs : start.Occurs env modules activity checker)
      (found : (activity.after env checker).scope.find? name = some ty) : Holds env start modules ty
  /-- The type of a name in scope in the end. -/
  | final {name : String} {ty : Ty}
      (found : (start.checkModules env modules).scope.find? name = some ty) :
      Holds env start modules ty
  /-- The type found for an expression. -/
  | inferred {expr : Expr} {checker : Checker}
      (occurs : start.Occurs env modules (.infer expr) checker) :
      Holds env start modules ((Check.infer env expr).run checker).1
  /-- A type given to the strategy for an accepted call. -/
  | given {target : Check.Target} {arguments : List Argument} {location : Location}
      {checker : Checker} {accepted : AcceptedCall} {fullName : String} {strategy : Strategy}
      {ty : Ty} (occurs : start.Occurs env modules (.call target arguments location) checker)
      (accepts : target.ty.acceptCall target.name arguments location = .ok (some accepted))
      (named : target.fullName = some fullName)
      (hook : Plugin.findHook? env.plugins fullName = some strategy)
      (within : ty ∈ (Check.contextOf fullName accepted arguments checker.file location).types) :
      Holds env start modules ty
  /-- The type that a strategy gives back. -/
  | refined {target : Check.Target} {arguments : List Argument} {location : Location}
      {checker : Checker} {accepted : AcceptedCall} {fullName : String} {strategy : Strategy}
      {ty : Ty} (occurs : start.Occurs env modules (.call target arguments location) checker)
      (accepts : target.ty.acceptCall target.name arguments location = .ok (some accepted))
      (named : target.fullName = some fullName)
      (hook : Plugin.findHook? env.plugins fullName = some strategy)
      (answer : strategy.analyze
        (Check.contextOf fullName accepted arguments checker.file location) = .ok ty) :
      Holds env start modules ty

/-! ### Scopes that keep a property -/

namespace Scope.Holds

variable {kept : Ty → Prop} {scope : Scope}

/-- Giving a name a type with the property. -/
theorem set (holds : scope.Holds kept) (name : String) {ty : Ty} (inside : kept ty) :
    (scope.set name ty).Holds kept := by
  intro other found same
  rw [Scope.find?, Scope.set, NameMap.find?_insert] at same
  split at same
  · cases same
    exact inside
  · exact holds other found same

/-- Giving names types with the property, one after another. -/
theorem setAll (holds : scope.Holds kept) {bindings : List (String × Ty)}
    (each : ∀ binding ∈ bindings, kept binding.2) :
    (bindings.foldl (fun scope (name, ty) => scope.set name ty) scope).Holds kept := by
  induction bindings generalizing scope with
  | nil => exact holds
  | cons first rest ih =>
    rw [List.forall_mem_cons] at each
    exact ih (holds.set first.1 each.1) each.2

/-- Taking the type of a name away. -/
theorem erase (holds : scope.Holds kept) (name : String) : (scope.erase name).Holds kept := by
  intro other found same
  rw [Scope.find?, Scope.erase, NameMap.find?_erase] at same
  split at same
  · cases same
  · exact holds other found same

end Scope.Holds

/-- The states are the same, and all types in scope have the property. -/
def Checker.Same (kept : Ty → Prop) (left right : Checker) : Prop :=
  left = right ∧ left.scope.Holds kept

/-- One walk: all types met on the way have the property. -/
theorem Check.walk_same {env : Environment} {kept : Ty → Prop} (hereditary : Ty.Hereditary kept)
    (variableKept : ∀ name, kept (.typeVar name)) (index : env.index.Holds kept) :
    Check.Walk env kept (Checker.Same kept) where
  hereditary
  variableKept
  index
  alike := by
    rintro checker _ ⟨rfl, _⟩
    exact ⟨rfl, rfl, rfl, rfl⟩
  scope _ _ same := same.2
  report := by
    rintro checker _ ⟨rfl, holds⟩ _ _
    exact ⟨rfl, holds⟩
  note := by
    rintro checker _ ⟨rfl, holds⟩ diagnostic _
    refine ⟨rfl, ?_⟩
    unfold Checker.note
    split
    · exact holds
    · exact holds
  define := by
    rintro checker _ ⟨rfl, holds⟩ name ty inside
    exact ⟨rfl, holds.set name inside⟩
  bindAll := by
    rintro checker _ ⟨rfl, holds⟩ bindings each
    exact ⟨rfl, holds.setAll each⟩
  addImport := by
    rintro checker _ ⟨rfl, holds⟩ name fullName
    refine ⟨rfl, ?_⟩
    unfold Checker.addImport
    split
    · exact holds.erase name
    · exact holds.erase name
  declareTypeVar := by
    rintro checker _ ⟨rfl, holds⟩ name
    refine ⟨rfl, ?_⟩
    unfold Checker.declareTypeVar
    split
    · exact holds
    · exact holds
  takePlaceholder := by
    rintro checker _ ⟨rfl, holds⟩
    exact ⟨rfl, holds⟩
  enter := by
    rintro checker _ ⟨rfl, holds⟩
    exact ⟨rfl, holds⟩
  leave := by
    rintro outer _ ⟨rfl, holds⟩ inner _ ⟨rfl, _⟩
    exact ⟨rfl, holds⟩

end Callwise
