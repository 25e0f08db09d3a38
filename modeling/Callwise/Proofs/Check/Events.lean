import Callwise.Proofs.Check.Walk

/-!
# What expressions do to names

Checking changes what names stand for in three ways: a name is defined, a name is imported, and a
type variable is declared. `Expr.events` lists these events in the order in which they happen. What
happens in a scope of its own is forgotten behind it, except that declarations of type variables get
out.

The events are all that a step does to names: up to diagnostics and placeholders, the state behind a
step is the state before it with the events applied one after another. Every fact about what a step
leaves of names is a fact about lists of events.
-/

namespace Callwise

/-! ### Events -/

/-- A change of what a name stands for. -/
inductive Event where
  | defines (name : String) (ty : Ty)
  | imports (name fullName : String)
  /-- The declaration of a type variable. -/
  | declares (name : String)
  deriving DecidableEq

namespace Event

/-- The name that changes. -/
def name : Event → String
  | defines name _ | imports name _ | declares name => name

/-- The event is the declaration of a type variable. -/
def isDeclaration : Event → Bool
  | declares _ => true
  | defines .. | imports .. => false

/-- What is left of events outside the scope in which they happen. -/
def outward (events : List Event) : List Event := events.filter isDeclaration

/-- Let an event happen. -/
def apply (checker : Checker) : Event → Checker
  | defines name ty => checker.define name ty
  | imports name fullName => checker.addImport name fullName
  | declares name => checker.declareTypeVar name

/-- Let events happen one after another. -/
def replay (events : List Event) (checker : Checker) : Checker := events.foldl apply checker

theorem replay_append (first second : List Event) (checker : Checker) :
    replay (first ++ second) checker = replay second (replay first checker) :=
  List.foldl_append

end Event

/-! ### States with the same names -/

namespace Checker

section AddImport

variable (checker : Checker) (name fullName : String)

@[simp]
theorem addImport_scope : (checker.addImport name fullName).scope = checker.scope.erase name := by
  unfold addImport
  split <;> rfl

@[simp]
theorem addImport_imports :
    (checker.addImport name fullName).imports = checker.imports.insert name fullName := by
  unfold addImport
  split <;> rfl

@[simp]
theorem addImport_typeVars : (checker.addImport name fullName).typeVars = checker.typeVars := by
  unfold addImport
  split <;> rfl

@[simp]
theorem addImport_depth : (checker.addImport name fullName).depth = checker.depth := by
  unfold addImport
  split <;> rfl

@[simp]
theorem addImport_definitions :
    (checker.addImport name fullName).definitions =
      if checker.depth = 0 then checker.definitions.filter (· != name)
      else checker.definitions := by
  unfold addImport
  by_cases outermost : checker.depth = 0 <;> simp [outermost]

@[simp]
theorem addImport_aliases :
    (checker.addImport name fullName).aliases =
      if checker.depth = 0 then
        checker.aliases.filter (fun entry => entry.1 != name) ++ [(name, fullName)]
      else checker.aliases := by
  unfold addImport
  by_cases outermost : checker.depth = 0 <;> simp [outermost]

@[simp]
theorem addImport_collector : (checker.addImport name fullName).collector = checker.collector := by
  unfold addImport
  split <;> rfl

@[simp]
theorem addImport_lines : (checker.addImport name fullName).lines = checker.lines := by
  unfold addImport
  split <;> rfl

end AddImport

/-- Names stand for the same in both states. Diagnostics and placeholders may differ. -/
structure SameNames (left right : Checker) : Prop where
  types : left.scope.types = right.scope.types
  imports : left.imports = right.imports
  typeVars : left.typeVars = right.typeVars
  definitions : left.definitions = right.definitions
  aliases : left.aliases = right.aliases
  depth : left.depth = right.depth

namespace SameNames

variable {left middle right : Checker}

theorem refl (checker : Checker) : checker.SameNames checker :=
  ⟨rfl, rfl, rfl, rfl, rfl, rfl⟩

theorem trans (first : left.SameNames middle) (second : middle.SameNames right) :
    left.SameNames right where
  types := first.types.trans second.types
  imports := first.imports.trans second.imports
  typeVars := first.typeVars.trans second.typeVars
  definitions := first.definitions.trans second.definitions
  aliases := first.aliases.trans second.aliases
  depth := first.depth.trans second.depth

theorem define (same : left.SameNames right) (name : String) (ty : Ty) :
    (left.define name ty).SameNames (right.define name ty) where
  types := congrArg (·.insert name ty) same.types
  imports := same.imports
  typeVars := same.typeVars
  definitions := by simp only [Checker.define, same.depth, same.definitions]
  aliases := same.aliases
  depth := same.depth

theorem addImport (same : left.SameNames right) (name fullName : String) :
    (left.addImport name fullName).SameNames (right.addImport name fullName) where
  types := by simp [Scope.erase, same.types]
  imports := by simp [same.imports]
  typeVars := by simp [same.typeVars]
  definitions := by simp [same.depth, same.definitions]
  aliases := by simp [same.depth, same.aliases]
  depth := by simp [same.depth]

theorem declareTypeVar (same : left.SameNames right) (name : String) :
    (left.declareTypeVar name).SameNames (right.declareTypeVar name) := by
  unfold Checker.declareTypeVar
  rw [same.typeVars]
  split
  · exact same
  · exact ⟨same.types, same.imports, rfl, same.definitions, same.aliases, same.depth⟩

/-- Events find the same names and leave the same names. -/
theorem replay (same : left.SameNames right) (events : List Event) :
    (Event.replay events left).SameNames (Event.replay events right) := by
  induction events generalizing left right with
  | nil => exact same
  | cons event rest ih =>
    cases event with
    | defines name ty => exact ih (same.define name ty)
    | imports name fullName => exact ih (same.addImport name fullName)
    | declares name => exact ih (same.declareTypeVar name)

end SameNames

/-! ### Events in a scope of its own -/

/-- The state belongs to a scope inside another one: names may be bound in it already, but nothing
has been told to the outside. -/
structure IsWithin (inner outer : Checker) : Prop where
  typeVars : inner.typeVars = outer.typeVars
  definitions : inner.definitions = outer.definitions
  aliases : inner.aliases = outer.aliases
  depth : inner.depth = outer.depth + 1

theorem enter_isWithin (checker : Checker) : checker.enter.IsWithin checker :=
  ⟨rfl, rfl, rfl, rfl⟩

theorem enter_bindAll_isWithin (checker : Checker) (bindings : List (String × Ty)) :
    (checker.enter.bindAll bindings).IsWithin checker :=
  ⟨rfl, rfl, rfl, rfl⟩

namespace IsWithin

variable {inner outer : Checker}

/-- Inside a scope a definition is no definition of the module. -/
theorem define (within : inner.IsWithin outer) (name : String) (ty : Ty) :
    (inner.define name ty).IsWithin outer where
  typeVars := within.typeVars
  definitions := by simp [Checker.define, within.depth, within.definitions]
  aliases := within.aliases
  depth := within.depth

/-- Inside a scope an import is no import of the module. -/
theorem addImport (within : inner.IsWithin outer) (name fullName : String) :
    (inner.addImport name fullName).IsWithin outer where
  typeVars := by simp [within.typeVars]
  definitions := by simp [within.depth, within.definitions]
  aliases := by simp [within.depth, within.aliases]
  depth := by simp [within.depth]

/-- Type variables are declared inside and outside alike. -/
theorem declareTypeVar (within : inner.IsWithin outer) (name : String) :
    (inner.declareTypeVar name).IsWithin (outer.declareTypeVar name) := by
  unfold Checker.declareTypeVar
  rw [within.typeVars]
  split
  · exact within
  · exact ⟨rfl, within.definitions, within.aliases, within.depth⟩

/-- What happens inside a scope happens outside as far as it gets out. -/
theorem replay (within : inner.IsWithin outer) (events : List Event) :
    (Event.replay events inner).IsWithin (Event.replay (Event.outward events) outer) := by
  induction events generalizing inner outer with
  | nil => exact within
  | cons event rest ih =>
    cases event with
    | defines name ty => exact ih (within.define name ty)
    | imports name fullName => exact ih (within.addImport name fullName)
    | declares name => exact ih (within.declareTypeVar name)

end IsWithin

/-- Declaring a type variable leaves the rest of the names alone. -/
theorem declareTypeVar_frame (checker : Checker) (name : String) :
    (checker.declareTypeVar name).scope = checker.scope ∧
      (checker.declareTypeVar name).imports = checker.imports ∧
      (checker.declareTypeVar name).definitions = checker.definitions ∧
      (checker.declareTypeVar name).aliases = checker.aliases ∧
      (checker.declareTypeVar name).depth = checker.depth := by
  unfold declareTypeVar
  split
  · exact ⟨rfl, rfl, rfl, rfl, rfl⟩
  · exact ⟨rfl, rfl, rfl, rfl, rfl⟩

/-- What gets out of a scope changes neither the scope outside nor the imports, the definitions, the
aliases and the depth. -/
theorem replay_outward_frame (events : List Event) (checker : Checker) :
    (Event.replay (Event.outward events) checker).scope = checker.scope ∧
      (Event.replay (Event.outward events) checker).imports = checker.imports ∧
      (Event.replay (Event.outward events) checker).definitions = checker.definitions ∧
      (Event.replay (Event.outward events) checker).aliases = checker.aliases ∧
      (Event.replay (Event.outward events) checker).depth = checker.depth := by
  induction events generalizing checker with
  | nil => exact ⟨rfl, rfl, rfl, rfl, rfl⟩
  | cons event rest ih =>
    cases event with
    | defines name ty => exact ih checker
    | imports name fullName => exact ih checker
    | declares name =>
      have declared := checker.declareTypeVar_frame name
      rw [← declared.1, ← declared.2.1, ← declared.2.2.1, ← declared.2.2.2.1, ← declared.2.2.2.2]
      exact ih (checker.declareTypeVar name)

/-- Behind a scope only declarations of type variables are left of what happened in it. -/
theorem SameNames.leave {begun inner outer : Checker} {events : List Event}
    (within : begun.IsWithin outer) (same : inner.SameNames (Event.replay events begun)) :
    (inner.leave outer).SameNames (Event.replay (Event.outward events) outer) := by
  have inside := within.replay events
  obtain ⟨scope, imports, definitions, aliases, depth⟩ := replay_outward_frame events outer
  refine ⟨?_, imports.symm, same.typeVars.trans inside.typeVars,
    same.definitions.trans inside.definitions, same.aliases.trans inside.aliases, ?_⟩
  · rw [scope]
    rfl
  · have reached : inner.depth = (Event.replay (Event.outward events) outer).depth + 1 :=
      same.depth.trans inside.depth
    show inner.depth - 1 = _
    omega

end Checker

namespace Check

variable {α β : Type}

/-! ### Steps and their events -/

/-- The state behind a step. -/
def after (step : Check α) (checker : Checker) : Checker := (step.run checker).2

/-- From this state the step does to names what the events say. -/
def Enacts (step : Check α) (checker : Checker) (events : List Event) : Prop :=
  (after step checker).SameNames (Event.replay events checker)

namespace Enacts

variable {checker : Checker} {events first second : List Event}

/-- A result without a step. -/
theorem pure (result : α) (checker : Checker) : Enacts (Pure.pure result) checker [] := .refl _

/-- A step and what follows it. -/
theorem bind {step : Check α} {next : α → Check β} (firstStep : Enacts step checker first)
    (secondStep : Enacts (next (step.run checker).1) (after step checker) second) :
    Enacts (step >>= next) checker (first ++ second) := by
  unfold Enacts
  rw [Event.replay_append]
  exact secondStep.trans (firstStep.replay second)

/-- A step whose result is changed. -/
theorem map {step : Check α} {change : α → β} (enacts : Enacts step checker events) :
    Enacts (step >>= fun result => Pure.pure (change result)) checker events := enacts

/-- What follows may read the state. -/
theorem get_bind {next : Checker → Check β} (enacts : Enacts (next checker) checker events) :
    Enacts (get >>= next) checker events := enacts

/-- A step behind one that leaves names alone. -/
theorem then_of_nil {step : Check α} {next : α → Check β} (quiet : Enacts step checker [])
    (enacts : Enacts (next (step.run checker).1) (after step checker) events) :
    Enacts (step >>= next) checker events :=
  bind quiet enacts

/-- A step in front of one that leaves names alone. -/
theorem of_nil_then {step : Check α} {next : α → Check β} (enacts : Enacts step checker events)
    (quiet : Enacts (next (step.run checker).1) (after step checker) []) :
    Enacts (step >>= next) checker events := by
  have both := bind enacts quiet
  rwa [List.append_nil] at both

/-- Keeping a diagnostic. -/
theorem report (diagnostic : Diagnostic) (checker : Checker) :
    Enacts (Check.report diagnostic) checker [] :=
  ⟨rfl, rfl, rfl, rfl, rfl, rfl⟩

/-- Noting a type. -/
theorem reveal (span : Span) (ty : Ty) (checker : Checker) :
    Enacts (Check.reveal span ty) checker [] := by
  unfold Enacts after
  rw [run_reveal]
  unfold Checker.note
  split
  · exact ⟨rfl, rfl, rfl, rfl, rfl, rfl⟩
  · exact .refl _

/-- The common type of items. -/
theorem join (types : List Ty) (checker : Checker) : Enacts (Check.join types) checker [] := by
  unfold Check.join
  split
  · exact ⟨rfl, rfl, rfl, rfl, rfl, rfl⟩
  · exact .pure _ checker

/-- A call. -/
theorem call (env : Environment) (target : Target) (arguments : List Argument)
    (location : Location) (checker : Checker) :
    Enacts (Check.call env target arguments location) checker [] := by
  unfold Check.call
  split
  · rename_i diagnostic _
    exact .then_of_nil (.report diagnostic checker) (.pure _ _)
  · exact .pure _ checker
  · split
    · exact .pure _ checker
    · rename_i fullName strategy _
      refine .get_bind ?_
      simp only
      split
      · exact .pure _ checker
      · rename_i diagnostic _
        exact .then_of_nil (.report diagnostic checker) (.pure _ _)

end Enacts

end Check

/-! ### Expressions -/

mutual

/-- The events of an expression that is looked at in the given state. -/
def Expr.events (env : Environment) : Expr → Checker → List Event
  | .literal .., _ | .name .., _ | .comprehension .., _ | .slice _, _ | .yield _, _ => []
  | .access span value attr, checker =>
    match checker.dottedName? (.access span value attr) with
    | some _ => []
    | none => value.events env checker
  | .call _ callee args keywords, checker =>
    if Check.isReveal checker callee then Expr.eventsOfFirst env args checker
    else
      let called := Check.after (Check.infer env callee) checker
      let given := Check.after (Check.inferArguments env args) called
      callee.events env checker ++ (Expr.eventsOfAll env args called ++
        Keyword.eventsOfAll env keywords given)
  | .await _ value, checker | .unary _ _ value, checker | .starred _ value, checker =>
    value.events env checker
  | .list _ items, checker | .tuple _ items, checker | .set _ items, checker
  | .boolean _ items, checker | .formatted _ items, checker => Expr.eventsOfAll env items checker
  | .dict _ entries, checker => DictEntry.eventsOfAll env entries checker
  | .binary _ _ left right, checker | .subscript _ left right, checker =>
    left.events env checker ++ right.events env (Check.after (Check.infer env left) checker)
  | .compare _ left others, checker =>
    left.events env checker ++
      Expr.eventsOfAll env others (Check.after (Check.infer env left) checker)
  | .conditional _ test body orElse, checker =>
    let tested := Check.after (Check.infer env test) checker
    let done := Check.after (Check.infer env body) tested
    test.events env checker ++ (body.events env tested ++ orElse.events env done)
  | .lambda _ params body, checker =>
    Event.outward (body.events env
      (checker.enter.bindAll (params.map fun param => (param.name, .any))))
  | .assignment _ target value, checker =>
    value.events env checker ++ [.defines target ((Check.infer env value).run checker).1]

/-- The events of several expressions. -/
def Expr.eventsOfAll (env : Environment) : List Expr → Checker → List Event
  | [], _ => []
  | first :: rest, checker =>
    first.events env checker ++
      Expr.eventsOfAll env rest (Check.after (Check.infer env first) checker)

/-- The events of the first of several expressions. -/
def Expr.eventsOfFirst (env : Environment) : List Expr → Checker → List Event
  | [], _ => []
  | first :: _, checker => first.events env checker

/-- The events of an argument given by name. -/
def Keyword.events (env : Environment) : Keyword → Checker → List Event
  | ⟨_, value⟩, checker => value.events env checker

/-- The events of arguments given by name. -/
def Keyword.eventsOfAll (env : Environment) : List Keyword → Checker → List Event
  | [], _ => []
  | first :: rest, checker =>
    first.events env checker ++
      Keyword.eventsOfAll env rest (Check.after (Check.inferKeyword env first) checker)

/-- The events of a part of a dictionary; the value comes first. -/
def DictEntry.events (env : Environment) : DictEntry → Checker → List Event
  | .pair key value, checker =>
    value.events env checker ++ key.events env (Check.after (Check.infer env value) checker)
  | .spread value, checker => value.events env checker

/-- The events of the parts of a dictionary. -/
def DictEntry.eventsOfAll (env : Environment) : List DictEntry → Checker → List Event
  | [], _ => []
  | first :: rest, checker =>
    first.events env checker ++
      DictEntry.eventsOfAll env rest (Check.after (Check.inferEntry env first) checker)

end

namespace Check.Enacts

variable {env : Environment}

mutual

/-- Finding the type of an expression does to names what the events of the expression say. -/
theorem infer : (expr : Expr) → (checker : Checker) →
    Enacts (Check.infer env expr) checker (expr.events env checker)
  | .literal .., checker | .name .., checker | .slice _, checker | .yield _, checker =>
    .pure _ checker
  | .comprehension _ kind, checker => by
    cases kind <;> exact .pure _ checker
  | .access span value attr, checker => by
    simp only [Check.infer, Expr.events]
    refine .get_bind ?_
    cases checker.dottedName? (.access span value attr) with
    | some fullName => exact .pure _ checker
    | none => exact .map (infer value checker)
  | .call span callee args keywords, checker => by
    simp only [Check.infer, Expr.events]
    refine .get_bind ?_
    split
    · refine .of_nil_then (inferFirst args checker) ?_
      exact .then_of_nil (.reveal span _ _) (.pure _ _)
    · refine .bind (infer callee checker) (.then_of_nil (.refl _) ?_)
      refine .bind (inferArguments args _) (.of_nil_then (inferKeywords keywords _) ?_)
      exact .then_of_nil (.refl _) (.call env _ _ _ _)
  | .await _ value, checker => by
    simp only [Check.infer, Expr.events]
    exact .map (infer value checker)
  | .list _ items, checker | .set _ items, checker => by
    simp only [Check.infer, Expr.events]
    exact .of_nil_then (inferAll items checker) (.map (.join _ _))
  | .tuple _ items, checker | .boolean _ items, checker | .formatted _ items, checker => by
    simp only [Check.infer, Expr.events]
    exact .map (inferAll items checker)
  | .dict _ entries, checker => by
    simp only [Check.infer, Expr.events]
    refine .of_nil_then (inferEntries entries checker) ?_
    exact .then_of_nil (.join _ _) (.map (.join _ _))
  | .binary _ _ left right, checker | .subscript _ left right, checker => by
    simp only [Check.infer, Expr.events]
    exact .bind (infer left checker) (.map (infer right _))
  | .unary _ _ operand, checker => by
    simp only [Check.infer, Expr.events]
    exact .map (infer operand checker)
  | .compare _ left others, checker => by
    simp only [Check.infer, Expr.events]
    exact .bind (infer left checker) (.map (inferAll others _))
  | .conditional _ test body orElse, checker => by
    simp only [Check.infer, Expr.events]
    exact .bind (infer test checker) (.bind (infer body _) (.map (infer orElse _)))
  | .lambda _ params body, checker => by
    simp only [Check.infer, Expr.events]
    exact Checker.SameNames.leave (checker.enter_bindAll_isWithin _) (infer body _)
  | .starred _ value, checker => by
    simp only [Check.infer, Expr.events]
    exact infer value checker
  | .assignment _ target value, checker => by
    simp only [Check.infer, Expr.events]
    exact .bind (infer value checker) (.refl _)

/-- Finding the types of several expressions. -/
theorem inferAll : (exprs : List Expr) → (checker : Checker) →
    Enacts (Check.inferAll env exprs) checker (Expr.eventsOfAll env exprs checker)
  | [], checker => .pure _ checker
  | first :: rest, checker => by
    simp only [Check.inferAll, Expr.eventsOfAll]
    exact .bind (infer first checker) (.map (inferAll rest _))

/-- Finding the type of the first of several expressions. -/
theorem inferFirst : (exprs : List Expr) → (checker : Checker) →
    Enacts (Check.inferFirst env exprs) checker (Expr.eventsOfFirst env exprs checker)
  | [], checker => .pure _ checker
  | first :: _, checker => by
    simp only [Check.inferFirst, Expr.eventsOfFirst]
    exact infer first checker

/-- Positional arguments. -/
theorem inferArguments : (exprs : List Expr) → (checker : Checker) →
    Enacts (Check.inferArguments env exprs) checker (Expr.eventsOfAll env exprs checker)
  | [], checker => .pure _ checker
  | first :: rest, checker => by
    simp only [Check.inferArguments, Expr.eventsOfAll]
    exact .bind (infer first checker) (.map (inferArguments rest _))

/-- The argument of a keyword. -/
theorem inferKeyword : (keyword : Keyword) → (checker : Checker) →
    Enacts (Check.inferKeyword env keyword) checker (keyword.events env checker)
  | ⟨_, value⟩, checker => by
    simp only [Check.inferKeyword, Keyword.events]
    exact .map (infer value checker)

/-- Arguments given by name. -/
theorem inferKeywords : (keywords : List Keyword) → (checker : Checker) →
    Enacts (Check.inferKeywords env keywords) checker (Keyword.eventsOfAll env keywords checker)
  | [], checker => .pure _ checker
  | first :: rest, checker => by
    simp only [Check.inferKeywords, Keyword.eventsOfAll]
    exact .bind (inferKeyword first checker) (.map (inferKeywords rest _))

/-- A part of a dictionary. -/
theorem inferEntry : (entry : DictEntry) → (checker : Checker) →
    Enacts (Check.inferEntry env entry) checker (entry.events env checker)
  | .pair key value, checker => by
    simp only [Check.inferEntry, DictEntry.events]
    exact .bind (infer value checker) (.map (infer key _))
  | .spread value, checker => by
    simp only [Check.inferEntry, DictEntry.events]
    exact .map (infer value checker)

/-- The parts of a dictionary. -/
theorem inferEntries : (entries : List DictEntry) → (checker : Checker) →
    Enacts (Check.inferEntries env entries) checker (DictEntry.eventsOfAll env entries checker)
  | [], checker => .pure _ checker
  | first :: rest, checker => by
    simp only [Check.inferEntries, DictEntry.eventsOfAll]
    exact .bind (inferEntry first checker) (.map (inferEntries rest _))

end

end Check.Enacts

end Callwise
