import Callwise.Proofs.Check.EventNames
import Callwise.Proofs.TypeHint.ForwardReferences

/-!
# What is left of a function outside its body

The body of a function is checked in a scope of its own. Behind a plain definition every name stands
for what it stood for before, except the function itself, whatever the body defines, imports or
nests.

Type variables are the exception. Those that a body declares are declared for the rest of the
program as well, so two bodies can be told apart from outside exactly when one declares a type
variable that is new and that the other does not declare, and annotations then differ.
-/

namespace Callwise

open Check

/-! ### Bindings -/

/-- The bindings behind a definition without decorators. The body leaves nothing behind. -/
theorem bindings_behind_function (env : Environment) (checker : Checker) (header : FunctionHeader)
    (body : List Stmt) (plain : header.decorators = []) :
    let signature := checker.signatureOf header.params header.returns header.isAsync
    let behind := after (checkStmt env (.function header body)) checker
    (∀ name, behind.scope.find? name =
      if name = header.name then some (.callable signature) else checker.scope.find? name) ∧
    behind.imports = checker.imports ∧
    behind.aliases = checker.aliases ∧
    behind.depth = checker.depth ∧
    behind.definitions =
      if checker.depth = 0 ∧ header.name ∉ checker.definitions then
        checker.definitions ++ [header.name]
      else checker.definitions := by
  intro signature behind
  let inside := checker.enterFunction signature
  let left := Event.replay (Event.outward (Stmt.eventsOfBody env body inside)) checker
  have same : behind.SameNames (left.define header.name (.callable signature)) := by
    have enacts : Enacts (checkStmt env (.function header body)) checker _ :=
      .checkStmt (.function header body) checker
    have events : Stmt.events env (.function header body) checker =
        Event.outward (Stmt.eventsOfBody env body inside) ++
          [.defines header.name (.callable signature)] := by
      simp only [Stmt.events, plain]
      rfl
    rw [events] at enacts
    unfold Enacts at enacts
    rwa [Event.replay_append] at enacts
  obtain ⟨scope, imports, definitions, aliases, depth⟩ :=
    Checker.replay_outward_frame (Stmt.eventsOfBody env body inside) checker
  refine ⟨fun name => ?_, same.imports.trans imports, same.aliases.trans aliases,
    same.depth.trans depth, same.definitions.trans ?_⟩
  · have found : behind.scope.find? name =
        (left.scope.types.insert header.name (.callable signature)).find? name := by
      rw [Scope.find?, same.types]
      rfl
    rw [found, NameMap.find?_insert, scope]
    simp only [beq_iff_eq]
    rfl
  · show (if _ then _ else _) = _
    rw [definitions, depth]
    simp only [Bool.and_eq_true, beq_iff_eq, Bool.not_eq_true', List.contains_eq_mem,
      decide_eq_false_iff_not]

/-- An asynchronous function that imports, assigns and defines in its body leaves none of these
behind. Calling it gives a coroutine. -/
theorem bindings_behind_busy_function :
    let span : Span := ⟨0, 0⟩
    let header : FunctionHeader := ⟨"f", [], none, [], true⟩
    let inner : FunctionHeader := ⟨"g", [], none, [], false⟩
    let body : List Stmt :=
      [.importModules [⟨"os.path", none⟩], .function inner [], .classDef "C" [] [],
        .expr (.assignment span "x" (.literal span (.int 1)))]
    let checker : Checker := Checker.define {} "x" .str
    let behind := after (checkStmt {} (.function header body)) checker
    header.decorators = [] ∧
      behind.scope.find? "f" =
        some (.callable ⟨[], .generic "Coroutine" [.any, .any, .any]⟩) ∧
      behind.scope.find? "x" = some .str ∧ behind.scope.find? "g" = none ∧
      behind.scope.find? "C" = none ∧ behind.imports.find? "os" = none ∧
      behind.definitions = ["x", "f"] := by
  intro span header inner body checker behind
  have frame := bindings_behind_function {} checker header body rfl
  refine ⟨rfl, frame.1 "f", frame.1 "x", frame.1 "g", frame.1 "C", ?_, frame.2.2.2.2⟩
  rw [frame.2.1]
  rfl

/-! ### Type variables -/

theorem Checker.mem_typeVars_declareTypeVar (checker : Checker) (name other : String) :
    other ∈ (checker.declareTypeVar name).typeVars ↔
      other ∈ checker.typeVars ∨ other = name := by
  by_cases known : name ∈ checker.typeVars
  · simp only [declareTypeVar, List.contains_eq_mem, known, decide_true, if_true]
    constructor
    · exact Or.inl
    · rintro (before | rfl)
      · exact before
      · exact known
  · simp [declareTypeVar, known]

/-- Events add the type variables that they declare. -/
theorem Event.mem_typeVars_replay (events : List Event) (checker : Checker) (name : String) :
    name ∈ (replay events checker).typeVars ↔
      name ∈ checker.typeVars ∨ .declares name ∈ events := by
  induction events generalizing checker with
  | nil => simp [replay]
  | cons event rest ih =>
    rw [show replay (event :: rest) checker = replay rest (event.apply checker) from rfl,
      ih, List.mem_cons]
    cases event with
    | defines other ty => simp [apply, Checker.define]
    | imports other fullName => simp [apply]
    | declares other => simp [apply, Checker.mem_typeVars_declareTypeVar, or_assoc]

/-- The state in which the body of a function begins. -/
def Checker.insideFunction (checker : Checker) (header : FunctionHeader) : Checker :=
  checker.enterFunction (checker.signatureOf header.params header.returns header.isAsync)

/-- A type variable is declared behind a function if it was declared before or if the body declares
it. Decorators declare nothing. -/
theorem mem_typeVars_behind_function (env : Environment) (checker : Checker)
    (header : FunctionHeader) (body : List Stmt) (name : String) :
    name ∈ (after (checkStmt env (.function header body)) checker).typeVars ↔
      name ∈ checker.typeVars ∨
        .declares name ∈ Stmt.eventsOfBody env body (checker.insideFunction header) := by
  have enacts : Enacts (checkStmt env (.function header body)) checker _ :=
    .checkStmt (.function header body) checker
  rw [enacts.typeVars, Event.mem_typeVars_replay]
  simp only [Stmt.events, List.mem_append, List.mem_singleton, reduceCtorEq, or_false]
  have inDecorators (decorators : List Expr) (ty : Ty) (state : Checker) :
      .declares name ∉ Expr.decoratorEvents env decorators ty state := by
    intro member
    have binding := (Expr.decoratorEvents_allBind decorators ty state _ member).1
    cases binding
  simp [inDecorators, Event.outward, Event.isDeclaration, Checker.insideFunction]

namespace TypeHint

variable {first second : List String}

/-- A name is read as a type variable exactly when it is declared as one. -/
theorem ofName_eq_typeVar_iff (typeVars : List String) (name : String) :
    ofName typeVars name = .typeVar name ↔ name ∈ typeVars := by
  unfold ofName
  split
  · simp_all
  · rename_i undeclared
    constructor
    · intro same
      split at same <;> cases same
    · intro declared
      simp [declared] at undeclared

theorem readDeep_congr (same : ∀ name, name ∈ first ↔ name ∈ second)
    (parse : String → Option Expr) (depth : Nat) (hint : Expr) :
    readDeep parse first depth hint = readDeep parse second depth hint := by
  induction depth generalizing hint with
  | zero => exact readWith_congr same hint fun _ _ => rfl
  | succ depth ih =>
    simp only [readDeep, ih]
    exact readWith_congr same hint fun _ _ => rfl

/-- Declared type variables are all that annotations tell of a state. -/
theorem read_eq_iff :
    (∀ hint, read first hint = read second hint) ↔ ∀ name, name ∈ first ↔ name ∈ second := by
  constructor
  · intro alike name
    have sameName : ofName first name = ofName second name := alike (.name ⟨0, 0⟩ name)
    rw [← ofName_eq_typeVar_iff, sameName, ofName_eq_typeVar_iff]
  · intro same hint
    exact readDeep_congr same _ _ hint

end TypeHint

/-- Outside a function, its body shows in the declared type variables and in how annotations are
read exactly as far as it declares type variables that had not been declared. -/
theorem bodies_alike_outside_iff (env : Environment) (checker : Checker) (header : FunctionHeader)
    (first second : List Stmt) :
    let inside := checker.insideFunction header
    let behind := fun body => after (checkStmt env (.function header body)) checker
    let declareAlike := ∀ name, name ∉ checker.typeVars →
      (.declares name ∈ Stmt.eventsOfBody env first inside ↔
        .declares name ∈ Stmt.eventsOfBody env second inside)
    ((∀ name, name ∈ (behind first).typeVars ↔ name ∈ (behind second).typeVars) ↔ declareAlike) ∧
    ((∀ hint, TypeHint.read (behind first).typeVars hint =
      TypeHint.read (behind second).typeVars hint) ↔ declareAlike) := by
  intro inside behind declareAlike
  have sameSet : (∀ name, name ∈ (behind first).typeVars ↔ name ∈ (behind second).typeVars) ↔
      declareAlike := by
    refine forall_congr' fun name => ?_
    rw [mem_typeVars_behind_function, mem_typeVars_behind_function]
    by_cases known : name ∈ checker.typeVars
    · simp [known]
    · simp [known, inside]
  exact ⟨sameSet, TypeHint.read_eq_iff.trans sameSet⟩

/-- A type variable that a body declares is declared behind the function, and an annotation with its
name then stands for it and not for a class of that name. -/
theorem declared_variable_shows_outside :
    let span : Span := ⟨0, 0⟩
    let declaration : Stmt := .assign [.name span "T"]
      (.call span (.name span "TypeVar") [.literal span (.str "T")] [])
    let checker : Checker := Checker.addImport {} "TypeVar" "typing.TypeVar"
    let behind := fun body =>
      after (checkStmt {} (.function ⟨"f", [], none, [], false⟩ body)) checker
    TypeHint.read (behind [declaration]).typeVars (.name span "T") = .typeVar "T" ∧
      TypeHint.read (behind []).typeVars (.name span "T") = .named "T" := by
  exact ⟨by rfl, by rfl⟩

end Callwise
