import Callwise.Proofs.Check.StatementEvents
import Callwise.Proofs.Source.StatementNames

/-!
# The names of events

The events of an expression and of a target are definitions: a type variable is only declared by a
statement. Names that become defined or imported stand in the tree, so they are undotted if those in
the tree are, and in a program that has been parsed they are.
-/

namespace Callwise

namespace Event

/-- The events are definitions and imports, of undotted names under the condition. -/
def AllBind (condition : Prop) (events : List Event) : Prop :=
  ∀ event ∈ events, event.isDeclaration = false ∧ (condition → IsUndotted event.name)

/-- The events are about undotted names. -/
def AllUndotted (events : List Event) : Prop := ∀ event ∈ events, IsUndotted event.name

theorem AllUndotted.nil : AllUndotted [] := by
  simp [AllUndotted]

namespace AllBind

variable {condition weaker : Prop} {first second : List Event}

theorem nil : AllBind condition [] := by
  simp [AllBind]

theorem append (atFirst : AllBind condition first) (atSecond : AllBind condition second) :
    AllBind condition (first ++ second) := by
  intro event member
  rw [List.mem_append] at member
  exact member.elim (atFirst event) (atSecond event)

/-- The definition of one name. -/
theorem defines {name : String} (undotted : condition → IsUndotted name) (ty : Ty) :
    AllBind condition [.defines name ty] := by
  intro event member
  rw [List.mem_singleton.mp member]
  exact ⟨rfl, undotted⟩

/-- The condition on a tree implies that on a part of it. -/
theorem of_part (binds : AllBind condition first) (part : weaker → condition) :
    AllBind weaker first := by
  intro event member
  exact (binds event member).imp id fun undotted whole => undotted (part whole)

/-- Nothing of definitions gets out of a scope. -/
theorem outward_eq_nil (binds : AllBind condition first) : outward first = [] := by
  rw [outward, List.filter_eq_nil_iff]
  intro event member
  simp [(binds event member).1]

/-- The names are undotted if the condition holds. -/
theorem allUndotted (binds : AllBind condition first) (holds : condition) :
    AllUndotted first :=
  fun event member => (binds event member).2 holds

end AllBind

theorem AllUndotted.append {first second : List Event} (atFirst : AllUndotted first)
    (atSecond : AllUndotted second) : AllUndotted (first ++ second) :=
  List.forall_mem_append.mpr ⟨atFirst, atSecond⟩

theorem AllUndotted.cons {first : Event} {rest : List Event} (atFirst : IsUndotted first.name)
    (atRest : AllUndotted rest) : AllUndotted (first :: rest) :=
  List.forall_mem_cons.mpr ⟨atFirst, atRest⟩

/-- What gets out of a scope has happened in it. -/
theorem AllUndotted.outward {events : List Event} (undotted : AllUndotted events) :
    AllUndotted (outward events) :=
  fun event member => undotted event (List.mem_filter.mp member).1

end Event

open Event

/-! ### Expressions -/

section Expressions

variable {env : Environment}

mutual

/-- An expression defines the names before its `:=`. -/
theorem Expr.events_allBind : (expr : Expr) → (checker : Checker) →
    AllBind expr.IsUndotted (expr.events env checker)
  | .literal .., _ | .name .., _ | .comprehension .., _ | .slice _, _ | .yield _, _ => .nil
  | .access _ value _, checker => by
    simp only [Expr.events]
    split
    · exact .nil
    · exact (value.events_allBind checker).of_part (by rintro ⟨⟩; assumption)
  | .call _ callee args keywords, checker => by
    simp only [Expr.events]
    split
    · exact (Expr.eventsOfFirst_allBind args checker).of_part (by rintro ⟨⟩; assumption)
    · refine .append ?_ (.append ?_ ?_)
      · exact (callee.events_allBind checker).of_part (by rintro ⟨⟩; assumption)
      · exact (Expr.eventsOfAll_allBind args _).of_part (by rintro ⟨⟩; assumption)
      · exact (Keyword.eventsOfAll_allBind keywords _).of_part (by rintro ⟨⟩; assumption)
  | .await _ value, checker | .unary _ _ value, checker | .starred _ value, checker => by
    simp only [Expr.events]
    exact (value.events_allBind checker).of_part (by rintro ⟨⟩; assumption)
  | .list _ items, checker | .tuple _ items, checker | .set _ items, checker
  | .boolean _ items, checker | .formatted _ items, checker => by
    simp only [Expr.events]
    exact (Expr.eventsOfAll_allBind items checker).of_part (by rintro ⟨⟩; assumption)
  | .dict _ entries, checker => by
    simp only [Expr.events]
    exact (DictEntry.eventsOfAll_allBind entries checker).of_part (by rintro ⟨⟩; assumption)
  | .binary _ _ left right, checker | .subscript _ left right, checker => by
    simp only [Expr.events]
    refine .append ?_ ?_
    · exact (left.events_allBind checker).of_part (by rintro ⟨⟩; assumption)
    · exact (right.events_allBind _).of_part (by rintro ⟨⟩; assumption)
  | .compare _ left others, checker => by
    simp only [Expr.events]
    refine .append ?_ ?_
    · exact (left.events_allBind checker).of_part (by rintro ⟨⟩; assumption)
    · exact (Expr.eventsOfAll_allBind others _).of_part (by rintro ⟨⟩; assumption)
  | .conditional _ test body orElse, checker => by
    simp only [Expr.events]
    refine .append ?_ (.append ?_ ?_)
    · exact (test.events_allBind checker).of_part (by rintro ⟨⟩; assumption)
    · exact (body.events_allBind _).of_part (by rintro ⟨⟩; assumption)
    · exact (orElse.events_allBind _).of_part (by rintro ⟨⟩; assumption)
  | .lambda _ params body, checker => by
    simp only [Expr.events]
    rw [(body.events_allBind _).outward_eq_nil]
    exact .nil
  | .assignment _ target value, checker => by
    simp only [Expr.events]
    refine .append ?_ (.defines ?_ _)
    · exact (value.events_allBind checker).of_part (by rintro ⟨⟩; assumption)
    · rintro ⟨⟩
      assumption

/-- Several expressions. -/
theorem Expr.eventsOfAll_allBind : (exprs : List Expr) → (checker : Checker) →
    AllBind (∀ expr ∈ exprs, expr.IsUndotted) (Expr.eventsOfAll env exprs checker)
  | [], _ => .nil
  | first :: rest, checker => by
    simp only [Expr.eventsOfAll, List.forall_mem_cons]
    refine .append ((first.events_allBind checker).of_part And.left) ?_
    exact (Expr.eventsOfAll_allBind rest _).of_part And.right

/-- The first of several expressions. -/
theorem Expr.eventsOfFirst_allBind : (exprs : List Expr) → (checker : Checker) →
    AllBind (∀ expr ∈ exprs, expr.IsUndotted) (Expr.eventsOfFirst env exprs checker)
  | [], _ => .nil
  | first :: _, checker => by
    simp only [Expr.eventsOfFirst, List.forall_mem_cons]
    exact (first.events_allBind checker).of_part And.left

/-- An argument given by name. -/
theorem Keyword.events_allBind : (keyword : Keyword) → (checker : Checker) →
    AllBind keyword.value.IsUndotted (keyword.events env checker)
  | ⟨_, value⟩, checker => by
    simp only [Keyword.events]
    exact value.events_allBind checker

/-- Arguments given by name. -/
theorem Keyword.eventsOfAll_allBind : (keywords : List Keyword) → (checker : Checker) →
    AllBind (∀ keyword ∈ keywords, keyword.value.IsUndotted)
      (Keyword.eventsOfAll env keywords checker)
  | [], _ => .nil
  | first :: rest, checker => by
    simp only [Keyword.eventsOfAll, List.forall_mem_cons]
    refine .append ((first.events_allBind checker).of_part And.left) ?_
    exact (Keyword.eventsOfAll_allBind rest _).of_part And.right

/-- A part of a dictionary. -/
theorem DictEntry.events_allBind : (entry : DictEntry) → (checker : Checker) →
    AllBind (∀ part ∈ entry.parts, part.IsUndotted) (entry.events env checker)
  | .pair key value, checker => by
    simp only [DictEntry.events, DictEntry.parts]
    refine .append ?_ ?_
    · exact (value.events_allBind checker).of_part fun inParts => inParts value (by simp)
    · exact (key.events_allBind _).of_part fun inParts => inParts key (by simp)
  | .spread value, checker => by
    simp only [DictEntry.events, DictEntry.parts]
    exact (value.events_allBind checker).of_part fun inParts => inParts value (by simp)

/-- The parts of a dictionary. -/
theorem DictEntry.eventsOfAll_allBind : (entries : List DictEntry) → (checker : Checker) →
    AllBind (∀ entry ∈ entries, ∀ part ∈ entry.parts, part.IsUndotted)
      (DictEntry.eventsOfAll env entries checker)
  | [], _ => .nil
  | first :: rest, checker => by
    rw [List.forall_mem_cons]
    simp only [DictEntry.eventsOfAll]
    refine .append ((first.events_allBind checker).of_part And.left) ?_
    exact (DictEntry.eventsOfAll_allBind rest _).of_part And.right

end

/-! ### Targets -/

mutual

/-- A target defines its own names, and others as an expression does. -/
theorem Expr.targetEvents_allBind (target : Expr) (ty : Ty) (checker : Checker) :
    AllBind target.IsUndotted (target.targetEvents env ty checker) := by
  cases target
  case name _ id =>
    refine .defines ?_ ty
    rintro ⟨⟩
    assumption
  case tuple _ items | list _ items =>
    exact (Expr.targetsEvents_allBind items _ checker).of_part (by rintro ⟨⟩; assumption)
  case starred _ value =>
    exact (value.targetEvents_allBind (.list .any) checker).of_part (by rintro ⟨⟩; assumption)
  all_goals exact Expr.events_allBind _ checker
termination_by structural target

/-- Several targets. -/
theorem Expr.targetsEvents_allBind : (targets : List Expr) → (types : List Ty) →
    (checker : Checker) → AllBind (∀ target ∈ targets, target.IsUndotted)
      (Expr.targetsEvents env targets types checker)
  | [], _, _ => .nil
  | _ :: _, [], _ => .nil
  | target :: targets, ty :: types, checker => by
    simp only [Expr.targetsEvents, List.forall_mem_cons]
    refine .append ((target.targetEvents_allBind ty checker).of_part And.left) ?_
    exact (Expr.targetsEvents_allBind targets types _).of_part And.right

end

/-- Several targets of one value. -/
theorem Expr.sharedEvents_allBind (ty : Ty) : (targets : List Expr) → (checker : Checker) →
    AllBind (∀ target ∈ targets, target.IsUndotted) (Expr.sharedEvents env ty targets checker)
  | [], _ => .nil
  | target :: targets, checker => by
    simp only [Expr.sharedEvents, List.forall_mem_cons]
    refine .append ((target.targetEvents_allBind ty checker).of_part And.left) ?_
    exact (Expr.sharedEvents_allBind ty targets _).of_part And.right

/-- An expression if there is one. -/
theorem Expr.eventsOfOption_allBind (value : Option Expr) (checker : Checker) :
    AllBind (∀ given ∈ value, given.IsUndotted) (Expr.eventsOfOption env value checker) := by
  cases value with
  | none => exact .nil
  | some value => exact (value.events_allBind checker).of_part fun given => given value rfl

/-- Decorators. -/
theorem Expr.decoratorEvents_allBind : (decorators : List Expr) → (ty : Ty) →
    (checker : Checker) → AllBind (∀ decorator ∈ decorators, decorator.IsUndotted)
      (Expr.decoratorEvents env decorators ty checker)
  | [], _, _ => .nil
  | decorator :: rest, _, checker => by
    simp only [Expr.decoratorEvents, List.forall_mem_cons]
    refine .append ((decorator.events_allBind checker).of_part And.left) ?_
    exact (Expr.decoratorEvents_allBind rest _ _).of_part And.right

/-- Context managers and their targets. -/
theorem Expr.contextEvents_allUndotted : (items : List (Expr × Option Expr)) →
    (checker : Checker) → (∀ item ∈ items, item.1.IsUndotted) →
    (∀ item ∈ items, ∀ target ∈ item.2, target.IsUndotted) →
    AllUndotted (Expr.contextEvents env items checker)
  | [], _, _, _ => .nil
  | (manager, none) :: rest, checker, inManagers, inTargets => by
    rw [List.forall_mem_cons] at inManagers inTargets
    simp only [Expr.contextEvents]
    refine .append ((manager.events_allBind checker).allUndotted inManagers.1) ?_
    exact Expr.contextEvents_allUndotted rest _ inManagers.2 inTargets.2
  | (manager, some target) :: rest, checker, inManagers, inTargets => by
    rw [List.forall_mem_cons] at inManagers inTargets
    simp only [Expr.contextEvents]
    refine .append ((manager.events_allBind checker).allUndotted inManagers.1) (.append ?_ ?_)
    · exact (target.targetEvents_allBind .any _).allUndotted (inTargets.1 target rfl)
    · exact Expr.contextEvents_allUndotted rest _ inManagers.2 inTargets.2

end Expressions

/-! ### Statements -/

/-- The head of a full name ends before its first dot. -/
theorem isUndotted_headOf (name : String) : IsUndotted (Check.headOf name) := by
  intro dotted
  have inHead : '.' ∈ name.toList.takeWhile (· != '.') := by
    simpa [Check.headOf] using dotted
  have all : (name.toList.takeWhile (· != '.')).all (· != '.') = true := List.all_takeWhile
  simpa using List.all_eq_true.mp all '.' inHead

theorem Event.ofModule_isUndotted {imported : ImportedName}
    (aliased : ∀ name ∈ imported.alias?, IsUndotted name) :
    IsUndotted (Event.ofModule imported).name := by
  unfold Event.ofModule
  split
  · rename_i name named
    exact aliased name named
  · exact isUndotted_headOf imported.name

section Statements

variable {env : Environment}

/-- The names of an assignment. -/
theorem Expr.assignEvents_allUndotted {targets : List Expr} {value : Expr} (checker : Checker)
    (inTargets : ∀ target ∈ targets, target.IsUndotted) (inValue : value.IsUndotted) :
    AllUndotted (Expr.assignEvents env targets value checker) := by
  unfold Expr.assignEvents
  split
  · intro event member
    obtain ⟨target, inTarget, declared⟩ := List.mem_filterMap.mp member
    have undotted := inTargets target inTarget
    cases undotted with
    | name _ holds =>
      cases declared
      exact holds
    | _ => cases declared
  · refine .append ((value.events_allBind checker).allUndotted inValue) ?_
    exact (Expr.sharedEvents_allBind _ targets _).allUndotted inTargets

/-- The names of an annotation. -/
theorem Expr.annotateEvents_allUndotted {target : Expr} {value : Option Expr} (hint : Expr)
    (checker : Checker) (inTarget : target.IsUndotted)
    (inValue : ∀ given ∈ value, given.IsUndotted) :
    AllUndotted (Expr.annotateEvents env target hint value checker) := by
  refine .append ((Expr.eventsOfOption_allBind value checker).allUndotted inValue) ?_
  split
  · cases inTarget with
    | name _ holds => exact .cons holds .nil
  · exact (Expr.events_allBind _ _).allUndotted inTarget

mutual

/-- The names that become defined or imported by a statement are names in it. -/
theorem Stmt.events_allUndotted : (stmt : Stmt) → (checker : Checker) → stmt.IsUndotted →
    AllUndotted (stmt.events env checker)
  | .importModules names, _, undotted => by
    cases undotted with
    | importModules aliases =>
      simp only [Stmt.events]
      intro event member
      obtain ⟨imported, inNames, rfl⟩ := List.mem_map.mp member
      exact Event.ofModule_isUndotted (aliases imported inNames)
  | .importFrom module isRelative names, _, undotted => by
    cases undotted with
    | importFrom _ _ bound =>
      simp only [Stmt.events]
      split
      · split
        · exact .nil
        · intro event member
          obtain ⟨imported, inNames, named⟩ := List.mem_filterMap.mp member
          unfold Event.ofName? at named
          split at named
          · cases named
          · cases named
            exact bound imported inNames
      · exact .nil
  | .function header body, checker, undotted => by
    cases undotted with
    | function named inDecorators inBody =>
      simp only [Stmt.events]
      refine .append (Stmt.eventsOfBody_allUndotted body _ inBody).outward (.append ?_ ?_)
      · refine (Expr.decoratorEvents_allBind header.decorators.reverse _ _).allUndotted ?_
        intro decorator member
        exact inDecorators decorator (List.mem_reverse.mp member)
      · exact .cons named .nil
  | .classDef name decorators body, checker, undotted => by
    cases undotted with
    | classDef named inDecorators inBody =>
      simp only [Stmt.events]
      refine .append ((Expr.eventsOfAll_allBind decorators checker).allUndotted inDecorators) ?_
      exact .cons named (Stmt.eventsOfBody_allUndotted body _ inBody).outward
  | .assign targets value, checker, undotted => by
    cases undotted with
    | assign inTargets inValue =>
      simp only [Stmt.events]
      exact Expr.assignEvents_allUndotted checker inTargets inValue
  | .annotated target hint value, checker, undotted => by
    cases undotted with
    | annotated _ inTarget inValue =>
      simp only [Stmt.events]
      exact Expr.annotateEvents_allUndotted hint checker inTarget inValue
  | .augmented target value, checker, undotted => by
    cases undotted with
    | augmented inTarget inValue =>
      simp only [Stmt.events]
      refine .append ((target.events_allBind checker).allUndotted inTarget) ?_
      exact (value.events_allBind _).allUndotted inValue
  | .expr value, checker, undotted | .assert value, checker, undotted => by
    simp only [Stmt.events]
    refine (value.events_allBind checker).allUndotted ?_
    cases undotted
    assumption
  | .ret value, checker, undotted | .raise value, checker, undotted => by
    simp only [Stmt.events]
    refine (Expr.eventsOfOption_allBind value checker).allUndotted ?_
    cases undotted
    assumption
  | .ifThen test body orElse, checker, undotted
  | .whileLoop test body orElse, checker, undotted => by
    simp only [Stmt.events]
    cases undotted
    rename_i inTest inBody inElse
    refine .append ((test.events_allBind checker).allUndotted inTest) (.append ?_ ?_)
    · exact Stmt.eventsOfBody_allUndotted body _ inBody
    · exact Stmt.eventsOfBody_allUndotted orElse _ inElse
  | .forLoop target iterable body orElse, checker, undotted => by
    cases undotted with
    | forLoop inTarget inIterable inBody inElse =>
      simp only [Stmt.events]
      refine .append ((iterable.events_allBind checker).allUndotted inIterable) ?_
      refine .append ((target.targetEvents_allBind _ _).allUndotted inTarget) (.append ?_ ?_)
      · exact Stmt.eventsOfBody_allUndotted body _ inBody
      · exact Stmt.eventsOfBody_allUndotted orElse _ inElse
  | .withBlock items body, checker, undotted => by
    cases undotted with
    | withBlock inManagers inTargets inBody =>
      simp only [Stmt.events]
      refine .append (Expr.contextEvents_allUndotted items checker inManagers inTargets) ?_
      exact Stmt.eventsOfBody_allUndotted body _ inBody
  | .tryBlock body handlers orElse cleanup, checker, undotted => by
    cases undotted with
    | tryBlock inBody named inHandlers inElse inCleanup =>
      simp only [Stmt.events]
      refine .append (Stmt.eventsOfBody_allUndotted body _ inBody) (.append ?_ (.append ?_ ?_))
      · refine Handler.eventsOfAll_allUndotted handlers _ fun handler member => ?_
        exact ⟨named handler member, inHandlers handler member⟩
      · exact Stmt.eventsOfBody_allUndotted orElse _ inElse
      · exact Stmt.eventsOfBody_allUndotted cleanup _ inCleanup
  | .inert, _, _ => by
    simp only [Stmt.events]
    exact .nil

/-- Statements in order. -/
theorem Stmt.eventsOfBody_allUndotted : (body : List Stmt) → (checker : Checker) →
    Stmt.AllUndotted body → AllUndotted (Stmt.eventsOfBody env body checker)
  | [], _, _ => .nil
  | first :: rest, checker, undotted => by
    obtain ⟨inFirst, inRest⟩ := List.forall_mem_cons.mp undotted
    simp only [Stmt.eventsOfBody]
    exact .append (first.events_allUndotted checker inFirst)
      (Stmt.eventsOfBody_allUndotted rest _ inRest)

/-- An `except` clause. -/
theorem Handler.events_allUndotted : (handler : Handler) → (checker : Checker) →
    handler.IsUndotted → AllUndotted (handler.events env checker)
  | ⟨_, none, body⟩, checker, undotted => by
    simp only [Handler.events]
    exact Stmt.eventsOfBody_allUndotted body checker undotted.2
  | ⟨_, some name, body⟩, checker, undotted => by
    simp only [Handler.events]
    exact .cons (undotted.1 name rfl) (Stmt.eventsOfBody_allUndotted body _ undotted.2)

/-- `except` clauses in order. -/
theorem Handler.eventsOfAll_allUndotted : (handlers : List Handler) → (checker : Checker) →
    (∀ handler ∈ handlers, handler.IsUndotted) →
    AllUndotted (Handler.eventsOfAll env handlers checker)
  | [], _, _ => .nil
  | first :: rest, checker, undotted => by
    obtain ⟨inFirst, inRest⟩ := List.forall_mem_cons.mp undotted
    simp only [Handler.eventsOfAll]
    exact .append (first.events_allUndotted checker inFirst)
      (Handler.eventsOfAll_allUndotted rest _ inRest)

end

end Statements

end Callwise
