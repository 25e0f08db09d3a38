import Callwise.Proofs.Check.Events
import Callwise.Proofs.Check.History

/-!
# What statements do to names

The events of statements, of bodies and of modules, and that these are all that checking them does
to names. All branches of a conditional, a loop and a `try` are gone through in order; of the body
of a function or a class only declarations of type variables get out.
-/

namespace Callwise

/-! ### Targets -/

mutual

/-- The events of binding a target to a type. -/
def Expr.targetEvents (env : Environment) (target : Expr) (ty : Ty) (checker : Checker) :
    List Event :=
  match target with
  | .name _ id => [.defines id ty]
  | .tuple _ items | .list _ items =>
    Expr.targetsEvents env items (Check.elementTypes ty items.length) checker
  | .starred _ value => value.targetEvents env (.list .any) checker
  | other => other.events env checker
termination_by structural target

/-- The events of binding several targets. -/
def Expr.targetsEvents (env : Environment) (targets : List Expr) (types : List Ty)
    (checker : Checker) : List Event :=
  match targets, types with
  | target :: targets, ty :: types =>
    target.targetEvents env ty checker ++
      Expr.targetsEvents env targets types (Check.after (Check.bindTarget env target ty) checker)
  | _, _ => []
termination_by structural targets

end

/-- The events of binding each of several targets to the same type. -/
def Expr.sharedEvents (env : Environment) (ty : Ty) : List Expr → Checker → List Event
  | [], _ => []
  | target :: targets, checker =>
    target.targetEvents env ty checker ++
      Expr.sharedEvents env ty targets (Check.after (Check.bindTarget env target ty) checker)

/-! ### Simple statements -/

/-- The event of importing a module. -/
def Event.ofModule (imported : ImportedName) : Event :=
  match imported.alias? with
  | some name => .imports name imported.name
  | none => .imports (Check.headOf imported.name) (Check.headOf imported.name)

/-- The event of importing a name from a module, if it is not a star. -/
def Event.ofName? (module : String) (imported : ImportedName) : Option Event :=
  if imported.name == "*" then none
  else some (.imports (imported.alias?.getD imported.name) (qualified module imported.name))

/-- The event of declaring a type variable with this target, if it is a name. -/
def Event.ofDeclared? : Expr → Option Event
  | .name _ id => some (.declares id)
  | _ => none

/-- The events of an expression if there is one. -/
def Expr.eventsOfOption (env : Environment) : Option Expr → Checker → List Event
  | some value, checker => value.events env checker
  | none, _ => []

/-- The events of an assignment. -/
def Expr.assignEvents (env : Environment) (targets : List Expr) (value : Expr)
    (checker : Checker) : List Event :=
  if checker.declaresTypeVar value then targets.filterMap Event.ofDeclared?
  else
    value.events env checker ++
      Expr.sharedEvents env ((Check.infer env value).run checker).1 targets
        (Check.after (Check.infer env value) checker)

/-- The events of an annotation. -/
def Expr.annotateEvents (env : Environment) (target hint : Expr) (value : Option Expr)
    (checker : Checker) : List Event :=
  let declared := TypeHint.read checker.typeVars hint
  Expr.eventsOfOption env value checker ++
    match target with
    | .name _ id => [.defines id declared]
    | other => other.events env (Activity.afterValue env checker declared value)

/-- The events of applying decorators to something of a type. -/
def Expr.decoratorEvents (env : Environment) : List Expr → Ty → Checker → List Event
  | [], _, _ => []
  | decorator :: rest, ty, checker =>
    let found := (Check.target env decorator).run checker
    let decorated := (Check.call env found.1 [⟨.positional, none, ty⟩]
      (checker.lines.locate decorator.span)).run found.2
    decorator.events env checker ++ Expr.decoratorEvents env rest decorated.1 decorated.2

/-- The events of context managers and their targets. -/
def Expr.contextEvents (env : Environment) : List (Expr × Option Expr) → Checker → List Event
  | [], _ => []
  | (manager, none) :: rest, checker =>
    manager.events env checker ++
      Expr.contextEvents env rest (Check.after (Check.infer env manager) checker)
  | (manager, some target) :: rest, checker =>
    let managed := Check.after (Check.infer env manager) checker
    manager.events env checker ++ (target.targetEvents env .any managed ++
      Expr.contextEvents env rest (Check.after (Check.bindTarget env target .any) managed))

/-! ### All statements -/

/-- The state in which the body of a function with this signature begins. -/
def Checker.enterFunction (checker : Checker) (signature : Signature) : Checker :=
  checker.enter.bindAll (signature.params.filterMap fun param =>
    param.name.map fun name => (name, Checker.boundType param))

mutual

/-- The events of a statement. -/
def Stmt.events (env : Environment) : Stmt → Checker → List Event
  | .importModules names, _ => names.map Event.ofModule
  | .importFrom module isRelative names, _ =>
    match module with
    | some module => if isRelative then [] else names.filterMap (Event.ofName? module)
    | none => []
  | .function header body, checker =>
    let signature := checker.signatureOf header.params header.returns header.isAsync
    let inside := checker.enterFunction signature
    let outside := (Check.after (Check.checkBody env body) inside).leave checker
    let decorated :=
      (Check.decorate env header.decorators.reverse (.callable signature)).run outside
    Event.outward (Stmt.eventsOfBody env body inside) ++
      (Expr.decoratorEvents env header.decorators.reverse (.callable signature) outside ++
        [.defines header.name decorated.1])
  | .classDef name decorators body, checker =>
    let decorated := Check.after (Check.inferAll env decorators) checker
    let inside := (decorated.define name (Check.classType name)).enter
    Expr.eventsOfAll env decorators checker ++
      .defines name (Check.classType name) :: Event.outward (Stmt.eventsOfBody env body inside)
  | .assign targets value, checker => Expr.assignEvents env targets value checker
  | .annotated target hint value, checker => Expr.annotateEvents env target hint value checker
  | .augmented target value, checker =>
    target.events env checker ++ value.events env (Check.after (Check.infer env target) checker)
  | .expr value, checker | .assert value, checker => value.events env checker
  | .ret value, checker | .raise value, checker => Expr.eventsOfOption env value checker
  | .ifThen test body orElse, checker | .whileLoop test body orElse, checker =>
    let tested := Check.after (Check.infer env test) checker
    test.events env checker ++ (Stmt.eventsOfBody env body tested ++
      Stmt.eventsOfBody env orElse (Check.after (Check.checkBody env body) tested))
  | .forLoop target iterable body orElse, checker =>
    let found := (Check.infer env iterable).run checker
    let bound := Check.after (Check.bindTarget env target found.1.element) found.2
    iterable.events env checker ++ (target.targetEvents env found.1.element found.2 ++
      (Stmt.eventsOfBody env body bound ++
        Stmt.eventsOfBody env orElse (Check.after (Check.checkBody env body) bound)))
  | .withBlock items body, checker =>
    Expr.contextEvents env items checker ++
      Stmt.eventsOfBody env body (Check.after (Check.enterContexts env items) checker)
  | .tryBlock body handlers orElse cleanup, checker =>
    let tried := Check.after (Check.checkBody env body) checker
    let handled := Check.after (Check.checkHandlers env handlers) tried
    let passed := Check.after (Check.checkBody env orElse) handled
    Stmt.eventsOfBody env body checker ++ (Handler.eventsOfAll env handlers tried ++
      (Stmt.eventsOfBody env orElse handled ++ Stmt.eventsOfBody env cleanup passed))
  | .inert, _ => []

/-- The events of statements in order. -/
def Stmt.eventsOfBody (env : Environment) : List Stmt → Checker → List Event
  | [], _ => []
  | first :: rest, checker =>
    first.events env checker ++
      Stmt.eventsOfBody env rest (Check.after (Check.checkStmt env first) checker)

/-- The events of an `except` clause. -/
def Handler.events (env : Environment) : Handler → Checker → List Event
  | ⟨_, none, body⟩, checker => Stmt.eventsOfBody env body checker
  | ⟨caught, some name, body⟩, checker =>
    let ty := Check.caughtType checker.typeVars caught
    .defines name ty :: Stmt.eventsOfBody env body (checker.define name ty)

/-- The events of `except` clauses in order. -/
def Handler.eventsOfAll (env : Environment) : List Handler → Checker → List Event
  | [], _ => []
  | first :: rest, checker =>
    first.events env checker ++
      Handler.eventsOfAll env rest (Check.after (Check.checkHandler env first) checker)

end

namespace Check.Enacts

variable {env : Environment}

/-- A change of the state that is an event. -/
theorem change {event : Event} {change : Checker → Checker} {checker : Checker}
    (happens : change checker = event.apply checker) :
    Enacts (modify change) checker [event] := by
  show (change checker).SameNames (event.apply checker)
  rw [happens]
  exact .refl _

/-- Looking at an expression for its faults only. -/
theorem looks (expr : Expr) (checker : Checker) :
    Enacts (do let _ ← Check.infer env expr) checker (expr.events env checker) :=
  .map (infer expr checker)

mutual

/-- Binding a target. -/
theorem bindTarget (target : Expr) (ty : Ty) (checker : Checker) :
    Enacts (Check.bindTarget env target ty) checker (target.targetEvents env ty checker) := by
  cases target
  case name _ id => exact .change rfl
  case tuple _ items | list _ items => exact bindTargets items _ checker
  case starred _ value => exact bindTarget value (.list .any) checker
  all_goals exact .looks _ checker
termination_by structural target

/-- Binding several targets. -/
theorem bindTargets : (targets : List Expr) → (types : List Ty) → (checker : Checker) →
    Enacts (Check.bindTargets env targets types) checker
      (Expr.targetsEvents env targets types checker)
  | [], _, checker => .pure _ checker
  | _ :: _, [], checker => .pure _ checker
  | target :: targets, ty :: types, checker => by
    simp only [Check.bindTargets, Expr.targetsEvents]
    exact .bind (bindTarget target ty checker) (bindTargets targets types _)

end

/-- Binding each of several targets to the same type. -/
theorem bindShared (ty : Ty) (targets : List Expr) (checker : Checker) :
    Enacts (targets.forM fun target => Check.bindTarget env target ty) checker
      (Expr.sharedEvents env ty targets checker) := by
  induction targets generalizing checker with
  | nil => exact .pure _ checker
  | cons target targets ih =>
    exact .bind (bindTarget target ty checker) (ih _)

/-- A step for every item of a list, each with at most one event. -/
theorem forM {γ : Type} {step : γ → Check PUnit} {event? : γ → Option Event}
    (each : ∀ item checker, Enacts (step item) checker (event? item).toList) (items : List γ)
    (checker : Checker) : Enacts (items.forM step) checker (items.filterMap event?) := by
  induction items generalizing checker with
  | nil => exact .pure _ checker
  | cons first rest ih =>
    have split : (first :: rest).filterMap event? =
        (event? first).toList ++ rest.filterMap event? := by
      cases found : event? first <;> simp [found]
    rw [split]
    exact .bind (each first checker) (ih _)

/-- Importing modules. -/
theorem importModules (names : List ImportedName) (checker : Checker) :
    Enacts (names.forM Check.importModule) checker (names.map Event.ofModule) := by
  rw [← List.filterMap_eq_map]
  refine .forM (fun imported checker => .change ?_) names checker
  cases named : imported.alias? <;> simp [Event.ofModule, named, Event.apply]

/-- Importing names from a module. -/
theorem importNames (module : String) (names : List ImportedName) (checker : Checker) :
    Enacts (names.forM (Check.importName module)) checker
      (names.filterMap (Event.ofName? module)) := by
  refine .forM (fun imported checker => ?_) names checker
  unfold Check.importName Event.ofName?
  split
  · exact .pure _ checker
  · exact .change rfl

/-- Looking at an expression if there is one. -/
theorem inferOptional (value : Option Expr) (checker : Checker) :
    Enacts (Check.inferOptional env value) checker (Expr.eventsOfOption env value checker) := by
  cases value with
  | none => exact .pure _ checker
  | some value => exact .looks value checker

/-- An assignment. -/
theorem assign (targets : List Expr) (value : Expr) (checker : Checker) :
    Enacts (Check.assign env targets value) checker
      (Expr.assignEvents env targets value checker) := by
  unfold Check.assign Expr.assignEvents
  refine .get_bind ?_
  split
  · refine .forM (fun target checker => ?_) targets checker
    cases target
    case name => exact .change rfl
    all_goals exact .pure _ checker
  · exact .bind (infer value checker) (bindShared _ targets _)

/-- An annotation with or without a value. A value that does not fit is reported. -/
theorem annotate (target hint : Expr) (value : Option Expr) (checker : Checker) :
    Enacts (Check.annotate env target hint value) checker
      (Expr.annotateEvents env target hint value checker) := by
  unfold Check.annotate Expr.annotateEvents
  refine .get_bind ?_
  cases value
  case' some value =>
    refine .bind (infer value checker) ?_
    unfold Activity.afterValue
    simp only
    cases ((Check.infer env value).run checker).1.isSubtype (TypeHint.read checker.typeVars hint)
    case' false => refine .then_of_nil (.refl _) (.then_of_nil (.report _ _) ?_)
  -- with another value, a fitting one or none, the target is left to be bound
  all_goals
    cases target
    case name => exact .change rfl
    all_goals exact .looks _ _

/-- What stands before parentheses or behind `@`. -/
theorem target (callee : Expr) (checker : Checker) :
    Enacts (Check.target env callee) checker (callee.events env checker) :=
  .of_nil_then (infer callee checker) (.refl _)

/-- Decorators, one after another. -/
theorem decorate : (decorators : List Expr) → (ty : Ty) → (checker : Checker) →
    Enacts (Check.decorate env decorators ty) checker
      (Expr.decoratorEvents env decorators ty checker)
  | [], _, checker => .pure _ checker
  | decorator :: rest, _, checker =>
    .then_of_nil (.refl _) (.bind (target decorator checker)
      (.then_of_nil (.call env _ _ _ _) (decorate rest _ _)))

/-- Context managers and their targets. -/
theorem enterContexts : (items : List (Expr × Option Expr)) → (checker : Checker) →
    Enacts (Check.enterContexts env items) checker (Expr.contextEvents env items checker)
  | [], checker => .pure _ checker
  | (manager, none) :: rest, checker =>
    .bind (infer manager checker) (enterContexts rest _)
  | (manager, some target) :: rest, checker =>
    .bind (infer manager checker) (.bind (bindTarget target .any _) (enterContexts rest _))

mutual

/-- Checking a statement does to names what the events of the statement say. -/
theorem checkStmt : (stmt : Stmt) → (checker : Checker) →
    Enacts (Check.checkStmt env stmt) checker (stmt.events env checker)
  | .importModules names, checker => by
    simp only [Check.checkStmt, Stmt.events]
    exact importModules names checker
  | .importFrom module isRelative names, checker => by
    simp only [Check.checkStmt, Stmt.events]
    split
    · split
      · exact .pure _ checker
      · exact importNames _ names checker
    · exact .pure _ checker
  | .function header body, checker => by
    simp only [Check.checkStmt, Stmt.events]
    refine .get_bind (.bind ?_ (.bind (decorate header.decorators.reverse _ _) (.change rfl)))
    exact Checker.SameNames.leave (checker.enter_bindAll_isWithin _) (checkBody body _)
  | .classDef name decorators body, checker => by
    simp only [Check.checkStmt, Stmt.events]
    let decorated := Check.after (Check.inferAll env decorators) checker
    have defined : Enacts (modify fun checker : Checker => checker.define name (classType name))
        decorated [.defines name (classType name)] := .change rfl
    refine .bind (inferAll decorators checker) (.bind defined ?_)
    exact Checker.SameNames.leave (Checker.enter_isWithin _) (checkBody body _)
  | .assign targets value, checker => by
    simp only [Check.checkStmt, Stmt.events]
    exact assign targets value checker
  | .annotated target hint value, checker => by
    simp only [Check.checkStmt, Stmt.events]
    exact annotate target hint value checker
  | .augmented target value, checker => by
    simp only [Check.checkStmt, Stmt.events]
    exact .bind (infer target checker) (.looks value _)
  | .expr value, checker | .assert value, checker => by
    simp only [Check.checkStmt, Stmt.events]
    exact .looks value checker
  | .ret value, checker | .raise value, checker => by
    simp only [Check.checkStmt, Stmt.events]
    exact inferOptional value checker
  | .ifThen test body orElse, checker | .whileLoop test body orElse, checker => by
    simp only [Check.checkStmt, Stmt.events]
    exact .bind (infer test checker) (.bind (checkBody body _) (checkBody orElse _))
  | .forLoop target iterable body orElse, checker => by
    simp only [Check.checkStmt, Stmt.events]
    refine .bind (infer iterable checker) (.bind (bindTarget target _ _) ?_)
    exact .bind (checkBody body _) (checkBody orElse _)
  | .withBlock items body, checker => by
    simp only [Check.checkStmt, Stmt.events]
    exact .bind (enterContexts items checker) (checkBody body _)
  | .tryBlock body handlers orElse cleanup, checker => by
    simp only [Check.checkStmt, Stmt.events]
    refine .bind (checkBody body checker) (.bind (checkHandlers handlers _) ?_)
    exact .bind (checkBody orElse _) (checkBody cleanup _)
  | .inert, checker => .pure _ checker

/-- Checking statements in order. -/
theorem checkBody : (body : List Stmt) → (checker : Checker) →
    Enacts (Check.checkBody env body) checker (Stmt.eventsOfBody env body checker)
  | [], checker => .pure _ checker
  | first :: rest, checker => by
    simp only [Check.checkBody, Stmt.eventsOfBody]
    exact .bind (checkStmt first checker) (checkBody rest _)

/-- An `except` clause. -/
theorem checkHandler : (handler : Handler) → (checker : Checker) →
    Enacts (Check.checkHandler env handler) checker (handler.events env checker)
  | ⟨_, none, body⟩, checker => by
    simp only [Check.checkHandler, Handler.events]
    exact checkBody body checker
  | ⟨caught, some name, body⟩, checker => by
    simp only [Check.checkHandler, Handler.events]
    have defined : Enacts (modify fun checker : Checker =>
        checker.define name (caughtType checker.typeVars caught)) checker
        [.defines name (caughtType checker.typeVars caught)] := .change rfl
    exact .bind defined (checkBody body _)

/-- `except` clauses in order. -/
theorem checkHandlers : (handlers : List Handler) → (checker : Checker) →
    Enacts (Check.checkHandlers env handlers) checker (Handler.eventsOfAll env handlers checker)
  | [], checker => .pure _ checker
  | first :: rest, checker => by
    simp only [Check.checkHandlers, Handler.eventsOfAll]
    exact .bind (checkHandler first checker) (checkHandlers rest _)

end

end Check.Enacts

/-! ### Modules -/

namespace Checker

/-- The events of modules that are checked one after another. -/
def eventsOfModules (env : Environment) : List CheckedModule → Checker → List Event
  | [], _ => []
  | module :: rest, checker =>
    Stmt.eventsOfBody env module.body (checker.prepare module.text) ++
      eventsOfModules env rest (checker.checkModule env module.body module.text)

/-- Checking a module does to names what the events of its statements say. -/
theorem sameNames_checkModule (checker : Checker) (env : Environment) (body : List Stmt)
    (text : String) :
    (checker.checkModule env body text).SameNames
      (Event.replay (Stmt.eventsOfBody env body (checker.prepare text)) checker) := by
  have prepared : (checker.prepare text).SameNames checker := ⟨rfl, rfl, rfl, rfl, rfl, rfl⟩
  have checked : Check.Enacts (Check.checkBody env body) (checker.prepare text) _ :=
    Check.Enacts.checkBody body _
  exact checked.trans (prepared.replay _)

/-- Checking modules one after another does to names what all their events say. -/
theorem sameNames_checkModules (env : Environment) (modules : List CheckedModule)
    (checker : Checker) :
    (checker.checkModules env modules).SameNames
      (Event.replay (eventsOfModules env modules checker) checker) := by
  induction modules generalizing checker with
  | nil => exact .refl _
  | cons module rest ih =>
    have first := checker.sameNames_checkModule env module.body module.text
    rw [eventsOfModules, Event.replay_append]
    exact (ih _).trans (first.replay _)

end Checker

end Callwise
