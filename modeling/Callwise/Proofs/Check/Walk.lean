import Callwise.Proofs.Check.Inheritance
import Callwise.Proofs.Refine.ErrorFiles

/-!
# Two walks through one program

Two checkers that agree on everything a step reads, and whose scopes hold types with a hereditary
property, go through a program in the same way: every step gives both the same result, results that
are types have the property, and the states stay related. Which relation the states stay in is left
open. It has to survive the changes that a step can make, and these are few; they are listed in
`Check.Walk`.

With the equality of states this says what all types have in common that are met on the way. With a
relation that lets the collected diagnostics differ it says that nothing depends on them.
-/

namespace Callwise

/-! ### What a step reads and writes -/

namespace Checker

/-- The checkers agree on all that a step reads to find types. The checked file is not among it: it
only gives errors their place. -/
structure Alike (left right : Checker) : Prop where
  scope : left.scope = right.scope
  imports : left.imports = right.imports
  typeVars : left.typeVars = right.typeVars
  lines : left.lines = right.lines

/-- The state at the start of a scope of its own. -/
def enter (outer : Checker) : Checker := { outer with depth := outer.depth + 1 }

/-- The state behind a scope of its own: what was bound in it is forgotten. -/
def leave (inner outer : Checker) : Checker :=
  { inner with
    scope := { inner.scope with types := outer.scope.types }
    imports := outer.imports
    depth := inner.depth - 1 }

/-- The state after a placeholder has been taken. -/
def takePlaceholder (checker : Checker) : Checker := { checker with scope := checker.scope.fresh.2 }

/-- The state after a note, which is kept if notes are wanted. -/
def note (checker : Checker) (diagnostic : Diagnostic) : Checker :=
  if checker.showRevealed then checker.report diagnostic else checker

namespace Alike

variable {left right : Checker} (alike : left.Alike right)

include alike

theorem typeOfName (env : Environment) (name : String) :
    left.typeOfName env name = right.typeOfName env name := by
  simp only [Checker.typeOfName, alike.scope, alike.imports]

theorem dottedName (expr : Expr) : left.dottedName? expr = right.dottedName? expr := by
  have each : ∀ expr, left.dottedName? expr = right.dottedName? expr := by
    intro expr
    fun_induction Checker.dottedName? left expr with
    | case1 span id bound =>
      rw [alike.scope] at bound
      simp [Checker.dottedName?, bound]
    | case2 span id unbound =>
      rw [alike.scope] at unbound
      simp [Checker.dottedName?, unbound, alike.imports]
    | case3 span value attr ih =>
      simp [Checker.dottedName?, ih]
    | case4 => simp [Checker.dottedName?]
  exact each expr

theorem calleeName (env : Environment) (callee : Expr) :
    left.calleeName? env callee = right.calleeName? env callee := by
  cases callee <;> simp only [Checker.calleeName?, alike.dottedName, alike.scope, alike.imports]

theorem declaresTypeVar (value : Expr) :
    left.declaresTypeVar value = right.declaresTypeVar value := by
  cases value <;> simp only [Checker.declaresTypeVar, alike.dottedName]

theorem isReveal (callee : Expr) : Check.isReveal left callee = Check.isReveal right callee := by
  cases callee <;> simp only [Check.isReveal, alike.scope]

theorem signatureOf (params : List (Parameter (Option Expr))) (returns : Option Expr)
    (isAsync : Bool) :
    left.signatureOf params returns isAsync = right.signatureOf params returns isAsync := by
  simp only [Checker.signatureOf, alike.typeVars]

end Alike

end Checker

/-- All definitions of the index have types with the property. -/
def ModuleIndex.Holds (kept : Ty → Prop) (index : ModuleIndex) : Prop :=
  ∀ fullName ty, index.definitions.find? fullName = some ty → kept ty

/-- All types in scope have the property. -/
def Scope.Holds (kept : Ty → Prop) (scope : Scope) : Prop :=
  ∀ name ty, scope.find? name = some ty → kept ty

namespace Check

variable {α β : Type} {related : Checker → Checker → Prop} {value : α → Prop} {other : β → Prop}

/-! ### Rules for steps -/

/-- A step and what follows it, from a state. -/
theorem run_bind (step : Check α) (next : α → Check β) (checker : Checker) :
    (step >>= next).run checker = (next (step.run checker).1).run (step.run checker).2 := rfl

/-- Reading the state. -/
theorem run_get (checker : Checker) : (get : Check Checker).run checker = (checker, checker) := rfl

/-- A step in a scope of its own, from a state. -/
theorem run_inScope (step : Check α) (checker : Checker) :
    (inScope step).run checker =
      ((step.run checker.enter).1, (step.run checker.enter).2.leave checker) := rfl

/-- Noting a type, from a state. -/
theorem run_reveal (span : Span) (ty : Ty) (checker : Checker) :
    (reveal span ty).run checker =
      ((), checker.note (.revealed ty (checker.lines.locate span))) := by
  unfold reveal Checker.note
  rw [run_bind, run_get]
  split
  · rfl
  · rfl

/-- An error in the checked file is reported like one that names no file. -/
theorem report_here (diagnostic : Diagnostic) (result : α) :
    (do let checker ← get; report (diagnostic.inFile checker.file); Pure.pure result : Check α) =
      (do report (diagnostic.inFile ""); Pure.pure result) := by
  funext checker
  show (result, checker.report (diagnostic.inFile checker.file)) =
    (result, checker.report (diagnostic.inFile ""))
  by_cases nameless : checker.file = ""
  · rw [nameless]
  · simp [Checker.report, Diagnostic.inFile, nameless]

/-- From related states the step gives the same result, which has the property, and leaves related
states. -/
def Tracks (related : Checker → Checker → Prop) (value : α → Prop) (step : Check α) : Prop :=
  ∀ left right, related left right →
    (step.run left).1 = (step.run right).1 ∧ value (step.run left).1 ∧
      related (step.run left).2 (step.run right).2

namespace Tracks

/-- A result without a step. -/
theorem pure {result : α} (holds : value result) :
    Tracks related value (Pure.pure result : Check α) :=
  fun _ _ start => ⟨rfl, holds, start⟩

/-- A step and what follows it. -/
theorem bind {step : Check α} {next : α → Check β} (first : Tracks related value step)
    (second : ∀ result, value result → Tracks related other (next result)) :
    Tracks related other (step >>= next) := by
  intro left right start
  obtain ⟨same, holds, reached⟩ := first left right start
  have continued := second _ holds _ _ reached
  rw [run_bind, run_bind, ← same]
  exact continued

/-- A step whose result is changed. -/
theorem map {step : Check α} {change : α → β} (first : Tracks related value step)
    (second : ∀ result, value result → other (change result)) :
    Tracks related other (step >>= fun result => Pure.pure (change result)) :=
  first.bind fun result holds => .pure (second result holds)

/-- What follows may read the state, as long as it reads the same on both sides. -/
theorem get_bind {next : Checker → Check β}
    (same : ∀ left right, related left right → next left = next right)
    (continued : ∀ left right, related left right → Tracks related other (next left)) :
    Tracks related other (get >>= next) := by
  intro left right start
  have after := continued left right start left right start
  have rightSide : (get >>= next).run right = (next left).run right := by
    rw [same left right start]
    rfl
  rw [rightSide]
  exact after

/-- A change of the state. -/
theorem change {change : Checker → Checker}
    (changed : ∀ left right, related left right → related (change left) (change right)) :
    Tracks related (fun _ => True) (modify change : Check PUnit) :=
  fun left right start => ⟨rfl, True.intro, changed left right start⟩

/-- The same step for every item of a list. -/
theorem forM {γ : Type} {step : γ → Check PUnit} {items : List γ}
    (each : ∀ item ∈ items, Tracks related (fun _ => True) (step item)) :
    Tracks related (fun _ => True) (items.forM step) := by
  induction items with
  | nil => exact .pure True.intro
  | cons first rest ih =>
    rw [List.forall_mem_cons] at each
    exact each.1.bind fun _ _ => ih each.2

end Tracks

/-! ### The walk -/

/-- The environment, the property and the relation that a walk needs: types have a hereditary
property, and the relation survives every change that a step makes. Diagnostics that are reported
are errors; a note is kept only if notes are wanted. -/
structure Walk (env : Environment) (kept : Ty → Prop) (related : Checker → Checker → Prop) :
    Prop where
  hereditary : Ty.Hereditary kept
  variableKept : ∀ name, kept (.typeVar name)
  index : env.index.Holds kept
  alike : ∀ left right, related left right → left.Alike right
  scope : ∀ left right, related left right → left.scope.Holds kept
  report : ∀ left right, related left right → ∀ diagnostic, diagnostic.isError = true →
    related (left.report diagnostic) (right.report diagnostic)
  note : ∀ left right, related left right → ∀ diagnostic, diagnostic.isError = false →
    related (left.note diagnostic) (right.note diagnostic)
  define : ∀ left right, related left right → ∀ name ty, kept ty →
    related (left.define name ty) (right.define name ty)
  bindAll : ∀ left right, related left right → ∀ bindings : List (String × Ty),
    (∀ binding ∈ bindings, kept binding.2) →
      related (left.bindAll bindings) (right.bindAll bindings)
  addImport : ∀ left right, related left right → ∀ name fullName,
    related (left.addImport name fullName) (right.addImport name fullName)
  declareTypeVar : ∀ left right, related left right → ∀ name,
    related (left.declareTypeVar name) (right.declareTypeVar name)
  takePlaceholder : ∀ left right, related left right →
    related left.takePlaceholder right.takePlaceholder
  enter : ∀ left right, related left right → related left.enter right.enter
  leave : ∀ left right, related left right → ∀ innerLeft innerRight,
    related innerLeft innerRight → related (innerLeft.leave left) (innerRight.leave right)

namespace Walk

variable {env : Environment} {kept : Ty → Prop}

section Steps

variable (walk : Walk env kept related)

include walk

/-- `Any` has the property. -/
theorem any : kept .any := walk.hereditary.atom rfl

/-- The type that the index gives to a full name, if it knows the name. -/
theorem typeOfFullName (fullName : String) : kept ((env.index.find? fullName).getD .any) := by
  cases found : env.index.find? fullName with
  | none => exact walk.any
  | some ty => exact walk.index _ ty found

/-- The type of a plain name. -/
theorem typeOfName {left right : Checker} (start : related left right) (name : String) :
    kept (left.typeOfName env name) := by
  unfold Checker.typeOfName
  split
  · rename_i ty bound
    exact walk.scope left right start name ty bound
  · split
    · exact walk.typeOfFullName _
    · exact walk.typeOfFullName _

/-- Reporting an error. -/
theorem reports {diagnostic : Diagnostic} (isError : diagnostic.isError = true) :
    Tracks related (fun _ => True) (Check.report diagnostic) :=
  .change fun left right start => walk.report left right start diagnostic isError

/-- Locating a span. -/
theorem locate (span : Span) : Tracks related (fun _ => True) (Check.locate span) := by
  apply Tracks.get_bind
  · intro left right start
    rw [(walk.alike left right start).lines]
  · intro left right start
    exact .pure True.intro

/-- Noting a type. -/
theorem reveal (span : Span) (ty : Ty) : Tracks related (fun _ => True) (Check.reveal span ty) := by
  intro left right start
  have noted := walk.note left right start (.revealed ty (left.lines.locate span)) rfl
  rw [run_reveal, run_reveal, ← (walk.alike left right start).lines]
  exact ⟨rfl, True.intro, noted⟩

/-- A placeholder. -/
theorem fresh : Tracks related kept Check.fresh := by
  intro left right start
  refine ⟨?_, walk.hereditary.atom rfl, walk.takePlaceholder left right start⟩
  have same : left.scope = right.scope := (walk.alike left right start).scope
  show Ty.placeholder left.scope.nextPlaceholder = Ty.placeholder right.scope.nextPlaceholder
  rw [same]

/-- The common type of items. -/
theorem join {types : List Ty} (each : ∀ ty ∈ types, kept ty) :
    Tracks related kept (Check.join types) := by
  unfold Check.join
  split
  · exact walk.fresh
  · exact .pure (walk.hereditary.unionOf each)

/-- A step in a scope of its own. -/
theorem inScope {step : Check α} (inner : Tracks related value step) :
    Tracks related value (Check.inScope step) := by
  intro left right start
  obtain ⟨same, holds, reached⟩ := inner _ _ (walk.enter left right start)
  rw [run_inScope, run_inScope]
  exact ⟨same, holds, walk.leave left right start _ _ reached⟩

/-- What a callee stands for. -/
theorem targetOf (callee : Expr) {ty : Ty} (inside : kept ty) :
    Tracks related (fun target => kept target.ty) (Check.targetOf env callee ty) := by
  apply Tracks.get_bind
  · intro left right start
    rw [(walk.alike left right start).calleeName]
  · intro left right start
    exact .pure inside

/-- A call. The strategy gets types with the property and gives such a type; a call or a refinement
that fails is reported as an error. Checkers of different files pass different contexts to the
strategy, but these differ in the file only, and a report is made in the checked file anyway. -/
theorem call {target : Target} (inside : kept target.ty) {arguments : List Argument}
    (all : Argument.All kept arguments) (location : Location) :
    Tracks related kept (Check.call env target arguments location) := by
  have accepted := walk.hereditary.acceptCall inside all target.name location
  unfold Check.call
  split
  · rename_i diagnostic refused
    rw [refused] at accepted
    exact (walk.reports accepted).bind fun _ _ => .pure walk.any
  · exact .pure walk.any
  · rename_i call found
    rw [found] at accepted
    have whole := accepted call rfl
    split
    · exact .pure whole.ret
    · rename_i fullName strategy _
      have context := walk.hereditary.contextOf whole all fullName "" location
      have answer := walk.hereditary.analyze strategy context
      have anywhere := fun file =>
        strategy.analyze_inFile file (contextOf fullName call arguments "" location)
      cases refined : strategy.analyze (contextOf fullName call arguments "" location) with
      | ok ty =>
        have same : ∀ file,
            strategy.analyze (contextOf fullName call arguments file location) = .ok ty := by
          rw [refined] at anywhere
          exact anywhere
        rw [refined] at answer
        simp only [same]
        exact .get_bind (fun _ _ _ => rfl) fun _ _ _ => .pure answer
      | error diagnostic =>
        have same : ∀ file, strategy.analyze (contextOf fullName call arguments file location) =
            .error (diagnostic.inFile file) := by
          rw [refined] at anywhere
          exact anywhere
        rw [refined] at answer
        have isError : (diagnostic.inFile "").isError = true := answer
        simp only [same]
        rw [report_here]
        exact (walk.reports isError).bind fun _ _ => .pure walk.any

end Steps

/-! ### Expressions -/

mutual

/-- Both walks find the same type for an expression, and it has the property. -/
theorem infer (walk : Walk env kept related) :
    (expr : Expr) → Tracks related kept (Check.infer env expr)
  | .literal _ value => by
    simp only [Check.infer]
    exact .pure (walk.hereditary.literal value)
  | .name _ id => by
    simp only [Check.infer]
    apply Tracks.get_bind
    · intro left right start
      rw [(walk.alike left right start).typeOfName]
    · intro left right start
      exact .pure (walk.typeOfName start id)
  | .access span value attr => by
    simp only [Check.infer]
    apply Tracks.get_bind
    · intro left right start
      rw [(walk.alike left right start).dottedName]
    · intro left right start
      split
      · exact .pure (walk.typeOfFullName _)
      · exact (walk.infer value).bind fun _ _ => .pure walk.any
  | .call span callee args keywords => by
    simp only [Check.infer]
    apply Tracks.get_bind
    · intro left right start
      rw [(walk.alike left right start).isReveal]
    · intro left right start
      split
      · refine (walk.inferFirst args).bind fun ty inside => ?_
        exact (walk.reveal span ty).bind fun _ _ => .pure inside
      · refine (walk.infer callee).bind fun ty inside => ?_
        refine (walk.targetOf callee inside).bind fun target targetInside => ?_
        refine (walk.inferArguments args).bind fun positional positionalInside => ?_
        refine (walk.inferKeywords keywords).bind fun named namedInside => ?_
        refine (walk.locate span).bind fun location _ => ?_
        exact walk.call targetInside (positionalInside.append namedInside) location
  | .await _ value => by
    simp only [Check.infer]
    exact (walk.infer value).map fun ty inside => walk.hereditary.awaited inside
  | .list _ items => by
    simp only [Check.infer]
    refine (walk.inferAll items).bind fun types each => ?_
    exact (walk.join each).map fun item inside => (walk.hereditary.list_iff item).mpr inside
  | .tuple _ items => by
    simp only [Check.infer]
    exact (walk.inferAll items).map fun types each => (walk.hereditary.tuple_iff types).mpr each
  | .set _ items => by
    simp only [Check.infer]
    refine (walk.inferAll items).bind fun types each => ?_
    exact (walk.join each).map fun item inside =>
      (walk.hereditary.generic_iff _ _).mpr (by simpa using inside)
  | .dict _ entries => by
    simp only [Check.infer]
    refine (walk.inferEntries entries).bind fun types each => ?_
    have keys : ∀ ty ∈ types.map Prod.fst, kept ty := by
      rw [List.forall_mem_map]
      exact fun entry within => (each entry within).1
    have values : ∀ ty ∈ types.map Prod.snd, kept ty := by
      rw [List.forall_mem_map]
      exact fun entry within => (each entry within).2
    refine (walk.join keys).bind fun key keyInside => ?_
    exact (walk.join values).map fun value valueInside =>
      (walk.hereditary.dict_iff key value).mpr ⟨keyInside, valueInside⟩
  | .binary _ op left right => by
    simp only [Check.infer]
    refine (walk.infer left).bind fun leftType leftInside => ?_
    exact (walk.infer right).map fun rightType rightInside =>
      walk.hereditary.binaryResult op leftInside rightInside
  | .unary _ op operand => by
    simp only [Check.infer]
    refine (walk.infer operand).map fun ty inside => ?_
    split
    · exact walk.hereditary.atom rfl
    · exact walk.hereditary.signed inside
  | .boolean _ operands => by
    simp only [Check.infer]
    exact (walk.inferAll operands).map fun types each => walk.hereditary.unionOf each
  | .compare _ left others => by
    simp only [Check.infer]
    refine (walk.infer left).bind fun _ _ => ?_
    exact (walk.inferAll others).map fun _ _ => walk.hereditary.atom rfl
  | .conditional _ test body orElse => by
    simp only [Check.infer]
    refine (walk.infer test).bind fun _ _ => ?_
    refine (walk.infer body).bind fun bodyType bodyInside => ?_
    exact (walk.infer orElse).map fun orElseType orElseInside =>
      walk.hereditary.unionOf (by simp [bodyInside, orElseInside])
  | .lambda _ params body => by
    simp only [Check.infer]
    have bound : Tracks related (fun _ => True) (modify fun checker : Checker =>
        checker.bindAll (params.map fun param => (param.name, Ty.any))) := by
      apply Tracks.change
      intro left right start
      apply walk.bindAll left right start
      simp [walk.any]
    refine (walk.inScope (bound.bind fun _ _ => walk.infer body)).map fun ret inside => ?_
    apply (walk.hereditary.callable_iff _).mpr
    refine ⟨inside, ?_⟩
    simp [Signature.withRet, walk.any]
  | .subscript _ value index => by
    simp only [Check.infer]
    refine (walk.infer value).bind fun valueType inside => ?_
    exact (walk.infer index).map fun _ _ => walk.hereditary.subscriptResult inside index
  | .formatted _ values => by
    simp only [Check.infer]
    exact (walk.inferAll values).map fun _ _ => walk.hereditary.atom rfl
  | .starred _ value => by
    simp only [Check.infer]
    exact walk.infer value
  | .assignment _ target value => by
    simp only [Check.infer]
    refine (walk.infer value).bind fun ty inside => ?_
    refine Tracks.bind (.change ?_) fun _ _ => .pure inside
    intro left right start
    exact walk.define left right start target ty inside
  | .comprehension _ kind => by
    cases kind with
    | list => exact .pure ((walk.hereditary.list_iff _).mpr walk.any)
    | set => exact .pure ((walk.hereditary.generic_iff _ _).mpr (by simp [walk.any]))
    | dict => exact .pure ((walk.hereditary.dict_iff _ _).mpr ⟨walk.any, walk.any⟩)
    | generator => exact .pure walk.any
  | .slice _ => .pure walk.any
  | .yield _ => .pure walk.any

/-- The types of several expressions. -/
theorem inferAll (walk : Walk env kept related) :
    (exprs : List Expr) → Tracks related (fun types => ∀ ty ∈ types, kept ty)
      (Check.inferAll env exprs)
  | [] => .pure (by simp)
  | first :: rest => by
    simp only [Check.inferAll]
    refine (walk.infer first).bind fun ty inside => ?_
    exact (walk.inferAll rest).map fun types each => by simpa using ⟨inside, each⟩

/-- The type of the first of several expressions. -/
theorem inferFirst (walk : Walk env kept related) :
    (exprs : List Expr) → Tracks related kept (Check.inferFirst env exprs)
  | [] => .pure walk.any
  | first :: _ => by
    simp only [Check.inferFirst]
    exact walk.infer first

/-- Positional arguments. -/
theorem inferArguments (walk : Walk env kept related) :
    (exprs : List Expr) → Tracks related (Argument.All kept) (Check.inferArguments env exprs)
  | [] => .pure (by simp [Argument.All])
  | first :: rest => by
    simp only [Check.inferArguments]
    refine (walk.infer first).bind fun ty inside => ?_
    exact (walk.inferArguments rest).map fun arguments each => by
      simpa [Argument.All] using ⟨inside, each⟩

/-- The argument of a keyword. -/
theorem inferKeyword (walk : Walk env kept related) :
    (keyword : Keyword) → Tracks related (fun argument => kept argument.ty)
      (Check.inferKeyword env keyword)
  | ⟨name, value⟩ => by
    simp only [Check.inferKeyword]
    exact (walk.infer value).map fun ty inside => inside

/-- Arguments given by name. -/
theorem inferKeywords (walk : Walk env kept related) :
    (keywords : List Keyword) → Tracks related (Argument.All kept)
      (Check.inferKeywords env keywords)
  | [] => .pure (by simp [Argument.All])
  | first :: rest => by
    simp only [Check.inferKeywords]
    refine (walk.inferKeyword first).bind fun argument inside => ?_
    exact (walk.inferKeywords rest).map fun arguments each => by
      simpa [Argument.All] using ⟨inside, each⟩

/-- A part of a dictionary. -/
theorem inferEntry (walk : Walk env kept related) :
    (entry : DictEntry) → Tracks related (fun types => kept types.1 ∧ kept types.2)
      (Check.inferEntry env entry)
  | .pair key value => by
    simp only [Check.inferEntry]
    refine (walk.infer value).bind fun valueType valueInside => ?_
    exact (walk.infer key).map fun keyType keyInside => ⟨keyInside, valueInside⟩
  | .spread value => by
    simp only [Check.inferEntry]
    exact (walk.infer value).map fun ty inside => walk.hereditary.spread inside

/-- The parts of a dictionary. -/
theorem inferEntries (walk : Walk env kept related) :
    (entries : List DictEntry) → Tracks related
      (fun types => ∀ entry ∈ types, kept entry.1 ∧ kept entry.2) (Check.inferEntries env entries)
  | [] => .pure (by simp)
  | first :: rest => by
    simp only [Check.inferEntries]
    refine (walk.inferEntry first).bind fun types inside => ?_
    exact (walk.inferEntries rest).map fun others each => by
      rw [List.forall_mem_cons]
      exact ⟨inside, each⟩

end

end Walk

end Check

end Callwise
