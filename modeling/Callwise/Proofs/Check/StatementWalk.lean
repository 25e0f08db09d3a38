import Callwise.Proofs.Check.Walk

/-!
# Two walks through statements

Statements bind names, open scopes and look at expressions. Two related checkers stay related along
every statement, every sequence of statements, and every module.
-/

namespace Callwise.Check.Walk

variable {env : Environment} {kept : Ty → Prop} {related : Checker → Checker → Prop}

/-! ### Targets -/

section Targets

variable (walk : Walk env kept related)

include walk

/-- Binding a name to a type. -/
theorem defines (name : String) {ty : Ty} (inside : kept ty) :
    Tracks related (fun _ => True) (modify fun checker : Checker => checker.define name ty) :=
  .change fun left right start => walk.define left right start name ty inside

/-- Looking at an expression for its faults only. -/
theorem looks (expr : Expr) :
    Tracks related (fun _ => True) (do let _ ← Check.infer env expr) :=
  (walk.infer expr).bind fun _ _ => .pure True.intro

end Targets

mutual

/-- Binding a target. -/
theorem bindTarget (walk : Walk env kept related) (target : Expr) (ty : Ty) (inside : kept ty) :
    Tracks related (fun _ => True) (Check.bindTarget env target ty) := by
  cases target
  case name _ id => exact walk.defines id inside
  case tuple _ items | list _ items =>
    exact walk.bindTargets items _ (walk.hereditary.elementTypes inside items.length)
  case starred _ value =>
    exact walk.bindTarget value (.list .any) ((walk.hereditary.list_iff _).mpr walk.any)
  all_goals exact walk.looks _
termination_by structural target

/-- Binding several targets. -/
theorem bindTargets (walk : Walk env kept related) :
    (targets : List Expr) → (types : List Ty) → (∀ ty ∈ types, kept ty) →
      Tracks related (fun _ => True) (Check.bindTargets env targets types)
  | [], _, _ => .pure True.intro
  | _ :: _, [], _ => .pure True.intro
  | target :: targets, ty :: types, each => by
    rw [List.forall_mem_cons] at each
    simp only [Check.bindTargets]
    exact (walk.bindTarget target ty each.1).bind fun _ _ => walk.bindTargets targets types each.2

end

/-! ### Simple statements -/

section Simple

variable (walk : Walk env kept related)

include walk

/-- Importing a module. -/
theorem importModule (imported : ImportedName) :
    Tracks related (fun _ => True) (Check.importModule imported) := by
  apply Tracks.change
  intro left right start
  split
  · exact walk.addImport left right start _ _
  · exact walk.addImport left right start _ _

/-- Importing a name. -/
theorem importName (module : String) (imported : ImportedName) :
    Tracks related (fun _ => True) (Check.importName module imported) := by
  unfold Check.importName
  split
  · exact .pure True.intro
  · exact .change fun left right start => walk.addImport left right start _ _

/-- Looking at an expression if there is one. -/
theorem inferOptional (value : Option Expr) :
    Tracks related (fun _ => True) (Check.inferOptional env value) := by
  cases value with
  | none => exact .pure True.intro
  | some value => exact walk.looks value

/-- An assignment. -/
theorem assign (targets : List Expr) (value : Expr) :
    Tracks related (fun _ => True) (Check.assign env targets value) := by
  apply Tracks.get_bind
  · intro left right start
    rw [(walk.alike left right start).declaresTypeVar]
  · intro left right start
    split
    · apply Tracks.forM
      intro target _
      split
      · exact .change fun left right start => walk.declareTypeVar left right start _
      · exact .pure True.intro
    · refine (walk.infer value).bind fun ty inside => ?_
      exact .forM fun target _ => walk.bindTarget target ty inside

/-- An annotation with or without a value. -/
theorem annotate (target hint : Expr) (value : Option Expr) :
    Tracks related (fun _ => True) (Check.annotate env target hint value) := by
  apply Tracks.get_bind
  · intro left right start
    rw [(walk.alike left right start).typeVars]
  · intro left right start
    have declared := walk.hereditary.read walk.variableKept left.typeVars hint
    cases value
    case' some value =>
      refine (walk.infer value).bind fun found inside => ?_
      simp only
      split
      case' isTrue =>
        refine (walk.locate value.span).bind fun location _ => ?_
        refine (walk.reports rfl).bind fun _ _ => ?_
    -- with a fitting value, another value or none, the target is left to be bound
    all_goals
      split
      · exact walk.defines _ declared
      · exact walk.looks _

/-- What stands before parentheses or behind `@`. -/
theorem target (callee : Expr) :
    Tracks related (fun target => kept target.ty) (Check.target env callee) :=
  (walk.infer callee).bind fun _ inside => walk.targetOf callee inside

/-- Decorators, one after another. -/
theorem decorate : (decorators : List Expr) → (ty : Ty) → kept ty →
    Tracks related kept (Check.decorate env decorators ty)
  | [], ty, inside => .pure inside
  | decorator :: rest, ty, inside => by
    refine (walk.locate decorator.span).bind fun location _ => ?_
    refine (walk.target decorator).bind fun target targetInside => ?_
    have argument : Argument.All kept [⟨.positional, none, ty⟩] := by
      simpa [Argument.All] using inside
    refine (walk.call targetInside argument location).bind fun decorated decoratedInside => ?_
    exact decorate rest decorated decoratedInside

/-- Context managers and their targets. -/
theorem enterContexts : (items : List (Expr × Option Expr)) →
    Tracks related (fun _ => True) (Check.enterContexts env items)
  | [] => .pure True.intro
  | (manager, target) :: rest => by
    refine (walk.infer manager).bind fun _ _ => ?_
    cases target with
    | none => exact enterContexts rest
    | some target =>
      exact (walk.bindTarget target .any walk.any).bind fun _ _ => enterContexts rest

end Simple

/-! ### All statements -/

mutual

/-- Both walks stay related along a statement. -/
theorem checkStmt (walk : Walk env kept related) :
    (stmt : Stmt) → Tracks related (fun _ => True) (Check.checkStmt env stmt)
  | .importModules names => by
    simp only [Check.checkStmt]
    exact .forM fun imported _ => walk.importModule imported
  | .importFrom module isRelative names => by
    simp only [Check.checkStmt]
    split
    · split
      · exact .pure True.intro
      · exact .forM fun imported _ => walk.importName _ imported
    · exact .pure True.intro
  | .function header body => by
    simp only [Check.checkStmt]
    apply Tracks.get_bind
    · intro left right start
      rw [(walk.alike left right start).signatureOf]
    · intro left right start
      have whole := walk.hereditary.signatureOf walk.variableKept left header.params header.returns
        header.isAsync
      have bound : Tracks related (fun _ => True) (modify fun checker : Checker =>
          checker.bindAll ((left.signatureOf header.params header.returns
            header.isAsync).params.filterMap fun param =>
              param.name.map fun name => (name, Checker.boundType param))) := by
        apply Tracks.change
        intro left right start
        apply walk.bindAll left right start
        intro binding within
        obtain ⟨param, member, named⟩ := List.mem_filterMap.mp within
        obtain ⟨name, _, rfl⟩ := Option.map_eq_some_iff.mp named
        exact walk.hereditary.boundType (whole.2 param member)
      refine (walk.inScope (bound.bind fun _ _ => walk.checkBody body)).bind fun _ _ => ?_
      have function := (walk.hereditary.callable_iff _).mpr whole
      refine (walk.decorate header.decorators.reverse _ function).bind fun ty inside => ?_
      exact walk.defines header.name inside
  | .classDef name decorators body => by
    simp only [Check.checkStmt]
    refine (walk.inferAll decorators).bind fun _ _ => ?_
    refine (walk.defines name (walk.hereditary.classType name)).bind fun _ _ => ?_
    exact walk.inScope (walk.checkBody body)
  | .assign targets value => by
    simp only [Check.checkStmt]
    exact walk.assign targets value
  | .annotated target hint value => by
    simp only [Check.checkStmt]
    exact walk.annotate target hint value
  | .augmented target value => by
    simp only [Check.checkStmt]
    exact (walk.infer target).bind fun _ _ => walk.looks value
  | .expr value => by
    simp only [Check.checkStmt]
    exact walk.looks value
  | .ret value => by
    simp only [Check.checkStmt]
    exact walk.inferOptional value
  | .ifThen test body orElse => by
    simp only [Check.checkStmt]
    refine (walk.infer test).bind fun _ _ => ?_
    exact (walk.checkBody body).bind fun _ _ => walk.checkBody orElse
  | .whileLoop test body orElse => by
    simp only [Check.checkStmt]
    refine (walk.infer test).bind fun _ _ => ?_
    exact (walk.checkBody body).bind fun _ _ => walk.checkBody orElse
  | .forLoop target iterable body orElse => by
    simp only [Check.checkStmt]
    refine (walk.infer iterable).bind fun ty inside => ?_
    refine (walk.bindTarget target _ (walk.hereditary.element inside)).bind fun _ _ => ?_
    exact (walk.checkBody body).bind fun _ _ => walk.checkBody orElse
  | .withBlock items body => by
    simp only [Check.checkStmt]
    exact (walk.enterContexts items).bind fun _ _ => walk.checkBody body
  | .tryBlock body handlers orElse cleanup => by
    simp only [Check.checkStmt]
    refine (walk.checkBody body).bind fun _ _ => ?_
    refine (walk.checkHandlers handlers).bind fun _ _ => ?_
    exact (walk.checkBody orElse).bind fun _ _ => walk.checkBody cleanup
  | .raise value => by
    simp only [Check.checkStmt]
    exact walk.inferOptional value
  | .assert test => by
    simp only [Check.checkStmt]
    exact walk.looks test
  | .inert => .pure True.intro

/-- Statements in order. -/
theorem checkBody (walk : Walk env kept related) :
    (body : List Stmt) → Tracks related (fun _ => True) (Check.checkBody env body)
  | [] => .pure True.intro
  | first :: rest => by
    simp only [Check.checkBody]
    exact (walk.checkStmt first).bind fun _ _ => walk.checkBody rest

/-- An `except` clause. -/
theorem checkHandler (walk : Walk env kept related) :
    (handler : Handler) → Tracks related (fun _ => True) (Check.checkHandler env handler)
  | ⟨caught, name, body⟩ => by
    simp only [Check.checkHandler]
    cases name with
    | none => exact walk.checkBody body
    | some name =>
      refine Tracks.bind (.change ?_) fun _ _ => walk.checkBody body
      intro left right start
      rw [← (walk.alike left right start).typeVars]
      exact walk.define left right start name _
        (walk.hereditary.caughtType walk.variableKept left.typeVars caught)

/-- `except` clauses in order. -/
theorem checkHandlers (walk : Walk env kept related) :
    (handlers : List Handler) → Tracks related (fun _ => True) (Check.checkHandlers env handlers)
  | [] => .pure True.intro
  | first :: rest => by
    simp only [Check.checkHandlers]
    exact (walk.checkHandler first).bind fun _ _ => walk.checkHandlers rest

end

end Callwise.Check.Walk
