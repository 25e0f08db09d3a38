import Callwise.Proofs.Source.ExpressionNames
import Callwise.Source.StmtGrammar

/-!
# Names in statements

Statements define names by imports, definitions, targets and `except` clauses. Of a module's full
name only the first part is bound, so that what an import binds without a name of its own has no dot
either. The rules for statements make undotted names of undotted words, and so the names in a
program are undotted whatever its text is.
-/

namespace Callwise

/-- The names that the statement can define have no dots. -/
inductive Stmt.IsUndotted : Stmt → Prop where
  | importModules {names : List ImportedName}
    (aliases : ∀ imported ∈ names, ∀ name ∈ imported.alias?, Callwise.IsUndotted name) :
    IsUndotted (.importModules names)
  | importFrom {names : List ImportedName} (module : Option String) (isRelative : Bool)
    (bound : ∀ imported ∈ names, Callwise.IsUndotted (imported.alias?.getD imported.name)) :
    IsUndotted (.importFrom module isRelative names)
  | function {header : FunctionHeader} {body : List Stmt}
    (named : Callwise.IsUndotted header.name)
    (inDecorators : ∀ decorator ∈ header.decorators, decorator.IsUndotted)
    (inBody : ∀ stmt ∈ body, IsUndotted stmt) : IsUndotted (.function header body)
  | classDef {name : String} {decorators : List Expr} {body : List Stmt}
    (named : Callwise.IsUndotted name)
    (inDecorators : ∀ decorator ∈ decorators, decorator.IsUndotted)
    (inBody : ∀ stmt ∈ body, IsUndotted stmt) : IsUndotted (.classDef name decorators body)
  | assign {targets : List Expr} {value : Expr} (inTargets : ∀ target ∈ targets, target.IsUndotted)
    (inValue : value.IsUndotted) : IsUndotted (.assign targets value)
  | annotated {target : Expr} {value : Option Expr} (hint : Expr) (inTarget : target.IsUndotted)
    (inValue : ∀ given ∈ value, given.IsUndotted) : IsUndotted (.annotated target hint value)
  | augmented {target value : Expr} (inTarget : target.IsUndotted) (inValue : value.IsUndotted) :
    IsUndotted (.augmented target value)
  | expr {value : Expr} (inValue : value.IsUndotted) : IsUndotted (.expr value)
  | ret {value : Option Expr} (inValue : ∀ given ∈ value, given.IsUndotted) :
    IsUndotted (.ret value)
  | ifThen {test : Expr} {body orElse : List Stmt} (inTest : test.IsUndotted)
    (inBody : ∀ stmt ∈ body, IsUndotted stmt) (inElse : ∀ stmt ∈ orElse, IsUndotted stmt) :
    IsUndotted (.ifThen test body orElse)
  | whileLoop {test : Expr} {body orElse : List Stmt} (inTest : test.IsUndotted)
    (inBody : ∀ stmt ∈ body, IsUndotted stmt) (inElse : ∀ stmt ∈ orElse, IsUndotted stmt) :
    IsUndotted (.whileLoop test body orElse)
  | forLoop {target iterable : Expr} {body orElse : List Stmt} (inTarget : target.IsUndotted)
    (inIterable : iterable.IsUndotted) (inBody : ∀ stmt ∈ body, IsUndotted stmt)
    (inElse : ∀ stmt ∈ orElse, IsUndotted stmt) : IsUndotted (.forLoop target iterable body orElse)
  | withBlock {items : List (Expr × Option Expr)} {body : List Stmt}
    (inManagers : ∀ item ∈ items, item.1.IsUndotted)
    (inTargets : ∀ item ∈ items, ∀ target ∈ item.2, target.IsUndotted)
    (inBody : ∀ stmt ∈ body, IsUndotted stmt) : IsUndotted (.withBlock items body)
  | tryBlock {body : List Stmt} {handlers : List Handler} {orElse cleanup : List Stmt}
    (inBody : ∀ stmt ∈ body, IsUndotted stmt)
    (named : ∀ handler ∈ handlers, ∀ name ∈ handler.name, Callwise.IsUndotted name)
    (inHandlers : ∀ handler ∈ handlers, ∀ stmt ∈ handler.body, IsUndotted stmt)
    (inElse : ∀ stmt ∈ orElse, IsUndotted stmt) (inCleanup : ∀ stmt ∈ cleanup, IsUndotted stmt) :
    IsUndotted (.tryBlock body handlers orElse cleanup)
  | raise {value : Option Expr} (inValue : ∀ given ∈ value, given.IsUndotted) :
    IsUndotted (.raise value)
  | assert {test : Expr} (inTest : test.IsUndotted) : IsUndotted (.assert test)
  | inert : IsUndotted .inert

/-- The names that the statements can define have no dots. -/
def Stmt.AllUndotted (body : List Stmt) : Prop := ∀ stmt ∈ body, stmt.IsUndotted

/-- The names that the clause can define have no dots. -/
def Handler.IsUndotted (handler : Handler) : Prop :=
  (∀ name ∈ handler.name, Callwise.IsUndotted name) ∧ Stmt.AllUndotted handler.body

open Rule

/-! ### Patterns -/

namespace PatternGrammar

variable {rules : ExprRules} {inner : Rule Unit}

/-- A number without a sign. -/
theorem keeps_plainNumber : Keeps .undotted plainNumber := by
  refine .after Gives.take.keeps fun lexeme => ?_
  split
  · exact .pure trivial
  · exact .pure trivial
  · exact .pure trivial
  · exact .refuse

/-- A number, which may have a sign and an imaginary part. -/
theorem keeps_number : Keeps .undotted number := by
  refine .after (.accept _) fun _ => .after keeps_plainNumber fun _ => ?_
  refine .after (.accept _) fun _ => .ite keeps_plainNumber ?_
  exact .after (.accept _) fun _ => .ite keeps_plainNumber (.pure trivial)

/-- The patterns in parentheses behind the name of a class. -/
theorem keeps_classArguments (inside : Keeps .undotted inner) :
    Keeps .undotted (classArguments inner) := by
  have argument : Keeps .undotted (classArgument inner) := by
    refine .after Gives.peek.keeps fun _ => .after .peekSecond fun _ => ?_
    split
    · refine .after Gives.take.keeps fun _ => .after Gives.take.keeps fun _ => ?_
      exact .after inside fun _ => .pure trivial
    · exact .after inside fun _ => .pure trivial
  exact .after (argument.listUntil _).keeps fun _ => .ite .refuse (.pure trivial)

/-- A name, a class or a value with dots. -/
theorem keeps_named (inside : Keeps .undotted inner) : Keeps .undotted (named inner) := by
  refine .after Gives.name.keeps fun _ => .after Gives.attributes.keeps fun _ => ?_
  exact .after (.accept _) fun _ => .ite (keeps_classArguments inside) (.pure trivial)

section

variable (undotted : rules.AreUndotted)

include undotted

/-- A key in a pattern for dictionaries. -/
theorem keeps_mappingKey : Keeps .undotted (mappingKey rules) := by
  refine .after Gives.peek.keeps fun _ => ?_
  split
  · refine .after Gives.take.keeps fun _ => .after Gives.attributes.keeps fun _ => ?_
    exact .ite .refuse (.pure trivial)
  · exact .after Gives.take.keeps fun _ => .pure trivial
  · exact .after Gives.take.keeps fun _ => .pure trivial
  · exact .after Gives.take.keeps fun _ => .pure trivial
  · exact .after (ExprGrammar.gives_strings undotted).keeps fun _ => .pure trivial
  · exact keeps_number

/-- A pattern for dictionaries. -/
theorem keeps_mapping (inside : Keeps .undotted inner) : Keeps .undotted (mapping rules inner) := by
  have entry : Keeps .undotted (mappingEntry rules inner) := by
    refine .after (.accept _) fun _ => .ite (.after Gives.name.keeps fun _ => .pure trivial) ?_
    refine .after (keeps_mappingKey undotted) fun _ => .after (.symbol _) fun _ => ?_
    exact .after inside fun _ => .pure trivial
  refine .after (.symbol _) fun _ => .after (entry.listUntil _).keeps fun _ => ?_
  exact .ite .refuse (.pure trivial)

/-- A pattern that is no choice between patterns. -/
theorem keeps_closed (inside : Keeps .undotted inner) : Keeps .undotted (closed rules inner) := by
  refine .after Gives.peek.keeps fun _ => ?_
  split
  · exact keeps_named inside
  · exact .after Gives.take.keeps fun _ => .pure trivial
  · exact .after Gives.take.keeps fun _ => .pure trivial
  · exact .after Gives.take.keeps fun _ => .pure trivial
  · exact .after (ExprGrammar.gives_strings undotted).keeps fun _ => .pure trivial
  · exact .after Gives.take.keeps fun _ => .after Gives.name.keeps fun _ => .pure trivial
  · refine .after Gives.take.keeps fun _ => ?_
    exact .after (inside.listUntil _).keeps fun _ => .pure trivial
  · refine .after Gives.take.keeps fun _ => ?_
    exact .after (inside.listUntil _).keeps fun _ => .pure trivial
  · exact keeps_mapping undotted inside
  · exact keeps_number

/-- Patterns that are nested to the given depth. -/
theorem keeps_ofDepth (depth : Nat) : Keeps .undotted (ofDepth rules depth) := by
  induction depth with
  | zero => exact .refuse
  | succ depth inside =>
    have closed := keeps_closed undotted inside
    have other : Keeps .undotted (do
        symbol "|"
        PatternGrammar.closed rules (ofDepth rules depth)) :=
      .after (.symbol _) fun _ => closed
    refine .after closed fun _ => .after (other.repeatWhile _).keeps fun _ => ?_
    refine .after (.accept _) fun _ => .ite ?_ (.pure trivial)
    exact .after Gives.name.keeps fun _ => .ite .refuse (.pure trivial)

/-- The patterns of a `case` clause. -/
theorem keeps_patterns (depth : Nat) : Keeps .undotted (patterns rules depth) :=
  .after ((keeps_ofDepth undotted depth).commaList _).keeps fun _ => .pure trivial

end

end PatternGrammar

namespace StmtGrammar

open ExprGrammar

variable {rules : ExprRules} {block : Rule (List Stmt)}

/-! ### Imports -/

/-- The full name of a module. -/
theorem keeps_dottedName : Keeps .undotted dottedName :=
  .after Gives.name.keeps fun _ => .after Gives.attributes.keeps fun _ => .pure trivial

/-- A name that is brought in, and possibly the name it gets here. -/
theorem gives_importedName {source : Rule String} {value : String → Prop}
    (gives : Gives .undotted value source) :
    Gives .undotted
      (fun imported => value imported.name ∧ ∀ name ∈ imported.alias?, IsUndotted name)
      (importedName source) := by
  refine gives.bind fun id holds => ?_
  exact (Gives.optionally (.accept _) .undottedName).bind fun _ named => .pure ⟨holds, named⟩

/-- The names that are brought in from a module. -/
theorem gives_importedNames :
    Gives .undotted
      (fun names => ∀ imported ∈ names, IsUndotted (imported.alias?.getD imported.name))
      importedNames := by
  have each : Gives .undotted (fun imported => IsUndotted (imported.alias?.getD imported.name))
      (importedName name) := by
    refine (gives_importedName .undottedName).mono fun imported holds => ?_
    cases named : imported.alias? with
    | none => exact holds.1
    | some name => exact holds.2 name named
  refine .after (.accept _) fun _ => .ite (.pure ?_) (.after (.accept _) fun _ => .ite ?_ ?_)
  · simp [IsUndotted]
  · refine (each.commaList _).bind fun names holds => ?_
    exact .after (.symbol _) fun _ => .pure holds
  · exact each.oneOrMore

/-- An import of names from a module. -/
theorem gives_fromImport : Gives .undotted Stmt.IsUndotted fromImport := by
  refine .after (.keyword _) fun _ => .after (Gives.take.repeatWhile _).keeps fun dots => ?_
  refine .after (.isNext _) fun _ => ?_
  refine .either (.pure trivial) (keeps_dottedName.map fun _ _ => trivial) fun module => ?_
  refine .after (.keyword _) fun _ => gives_importedNames.bind fun names bound => ?_
  exact .pure (.importFrom module _ bound)

/-! ### Small statements -/

section Statements

variable (undotted : rules.AreUndotted)

include undotted

/-- What stands behind the first expression of a statement: it is assigned to, annotated, or all. -/
theorem gives_expressionRest {first : Expr} (inFirst : first.IsUndotted) (canBeAnnotated : Bool) :
    Gives .undotted Stmt.IsUndotted (expressionRest rules first canBeAnnotated) := by
  have value := gives_testListOrYield undotted
  have assigned : Gives .undotted Expr.IsUndotted (do symbol "="; testListOrYield rules) :=
    .after (.symbol _) fun _ => value
  refine .after Gives.peek.keeps fun _ => ?_
  split
  · refine (assigned.repeatWhile _).bind fun values inValues => ?_
    split
    · rename_i last found
      refine .pure (.assign ?_ (inValues last (List.mem_of_getLast? found)))
      refine List.forall_mem_cons.mpr ⟨inFirst, fun target member => ?_⟩
      exact inValues target (List.dropLast_subset values member)
    · exact .refuse
  · refine .ite (.after (.symbol _) fun _ => .after undotted.test.keeps fun hint => ?_) .refuse
    refine (Gives.optionally (.accept _) value).bind fun given inValue => ?_
    exact .pure (.annotated hint inFirst inValue)
  · refine .ite (.after Gives.take.keeps fun _ => ?_) (.pure (.expr inFirst))
    exact value.bind fun given inValue => .pure (.augmented inFirst inValue)
  · exact .pure (.expr inFirst)

/-- A statement that begins with an expression. -/
theorem gives_expressionStatement :
    Gives .undotted Stmt.IsUndotted (expressionStatement rules) := by
  refine .after .offset fun start => .after (.isNext _) fun isStar => ?_
  refine ((gives_starredTest undotted).commaList _).bind fun items inItems => ?_
  split
  · exact gives_expressionRest undotted (inItems _ (by simp)) _
  · refine .after (.spanFrom _) fun span => ?_
    exact gives_expressionRest undotted (.tuple span inItems) _

/-- The type parameters of a definition, in brackets. -/
theorem keeps_typeParameters : Keeps .undotted (typeParameters rules) := by
  have named : Keeps .undotted (do let _ ← name) := .after Gives.name.keeps fun _ => .pure trivial
  have item : Keeps .undotted (do
      if ← accept (.symbol "*") then
        let _ ← name
      else if ← accept (.symbol "**") then
        let _ ← name
      else
        let _ ← name
        if ← accept (.symbol ":") then
          let _ ← rules.test) := by
    refine .after (.accept _) fun _ => .ite named (.after (.accept _) fun _ => .ite named ?_)
    refine .after Gives.name.keeps fun _ => .after (.accept _) fun _ => .ite ?_ (.pure trivial)
    exact .after undotted.test.keeps fun _ => .pure trivial
  refine .after (.symbol _) fun _ => ?_
  exact .after (item.commaList _).keeps fun _ => Keeps.symbol _

theorem keeps_optionalTypeParameters : Keeps .undotted (optionalTypeParameters rules) :=
  .after (.isNext _) fun _ => .ite (keeps_typeParameters undotted) (.pure trivial)

/-- A statement that begins with a keyword and fits on a line. -/
theorem gives_keywordStatement (word : String) :
    Gives .undotted Stmt.IsUndotted (keywordStatement rules word) := by
  have inert {rule : Rule Unit} (keeps : Keeps .undotted rule) : Gives .undotted Stmt.IsUndotted (do
      rule
      pure .inert) := .after keeps fun _ => .pure .inert
  unfold keywordStatement
  -- One case for each keyword; only imports and expressions can define names.
  split
  · exact inert (.keyword _)
  · exact inert (.keyword _)
  · exact inert (.keyword _)
  · refine .after (.keyword _) fun _ => ?_
    exact .after ((gives_starredOperand undotted).commaList _).keeps fun _ => .pure .inert
  · refine .after (.keyword _) fun _ => .after Gives.peek.keeps fun _ => .ite ?_ ?_
    · exact (gives_testList undotted).bind fun value inside => .pure (.ret (by simpa using inside))
    · exact .pure (.ret (by simp))
  · exact (gives_yieldExpr undotted).bind fun value inside => .pure (.expr inside)
  · refine .after (.keyword _) fun _ => .after Gives.peek.keeps fun _ => .ite ?_ ?_
    · refine undotted.test.bind fun value inside => ?_
      refine .after (Gives.optionally (.accept _) undotted.test).keeps fun _ => ?_
      exact .pure (.raise (by simpa using inside))
    · exact .pure (.raise (by simp))
  · refine .after (.keyword _) fun _ => ?_
    refine (gives_importedName keeps_dottedName).oneOrMore.bind fun names holds => ?_
    exact .pure (.importModules fun imported member => (holds imported member).2)
  · exact gives_fromImport
  · refine .after (.keyword _) fun _ => ?_
    exact .after (Gives.name.oneOrMore).keeps fun _ => .pure .inert
  · refine .after (.keyword _) fun _ => ?_
    exact .after (Gives.name.oneOrMore).keeps fun _ => .pure .inert
  · refine .after (.keyword _) fun _ => undotted.test.bind fun condition inside => ?_
    refine .after (Gives.optionally (.accept _) undotted.test).keeps fun _ => ?_
    exact .pure (.assert inside)
  · refine .after (.keyword _) fun _ => .after Gives.name.keeps fun _ => ?_
    refine .after (keeps_optionalTypeParameters undotted) fun _ => .after (.symbol _) fun _ => ?_
    exact .after undotted.test.keeps fun _ => .pure .inert
  · exact gives_expressionStatement undotted

/-- A statement that fits on a line. -/
theorem gives_smallStatement : Gives .undotted Stmt.IsUndotted (smallStatement rules) := by
  refine .after Gives.peek.keeps fun _ => ?_
  split
  · exact gives_keywordStatement undotted _
  · exact gives_expressionStatement undotted

/-- The statements on a line. -/
theorem gives_line : Gives .undotted Stmt.AllUndotted (line rules) := by
  have next : Gives .undotted Stmt.IsUndotted (do symbol ";"; smallStatement rules) :=
    .after (.symbol _) fun _ => gives_smallStatement undotted
  refine (gives_smallStatement undotted).bind fun first inFirst => ?_
  refine (next.repeatWhile _).bind fun rest inRest => .after (.accept _) fun _ => ?_
  exact .after (.expect _) fun _ => .pure (List.forall_mem_cons.mpr ⟨inFirst, inRest⟩)

end Statements

/-! ### Compound statements -/

/-- The `elif` parts are nested, each in the `else` part of the one before it. -/
theorem allUndotted_nest {branches : List (Expr × List Stmt)} {last : List Stmt}
    (inBranches : ∀ branch ∈ branches, branch.1.IsUndotted ∧ Stmt.AllUndotted branch.2)
    (inLast : Stmt.AllUndotted last) :
    Stmt.AllUndotted
      (branches.foldr (fun branch rest => [.ifThen branch.1 branch.2 rest]) last) := by
  induction branches with
  | nil => exact inLast
  | cons branch rest ih =>
    obtain ⟨inBranch, inRest⟩ := List.forall_mem_cons.mp inBranches
    intro stmt member
    rw [List.mem_singleton.mp member]
    exact .ifThen inBranch.1 inBranch.2 (ih inRest)

theorem allUndotted_flatten {parts : List (List Stmt)}
    (inParts : ∀ part ∈ parts, Stmt.AllUndotted part) : Stmt.AllUndotted parts.flatten := by
  intro stmt member
  obtain ⟨part, inPart, member⟩ := List.mem_flatten.mp member
  exact inParts part inPart stmt member

section Suites

variable (undotted : rules.AreUndotted) (inside : Gives .undotted Stmt.AllUndotted block)

include inside

/-- A block behind its colon. -/
theorem gives_suite : Gives .undotted Stmt.AllUndotted (suite block) :=
  .after (.symbol _) fun _ => inside

/-- A block behind a keyword, if the keyword is there. -/
theorem gives_optionalSuite (word : String) :
    Gives .undotted Stmt.AllUndotted (optionalSuite word block) :=
  .after (.accept _) fun _ => .ite (gives_suite inside) (.pure (by simp [Stmt.AllUndotted]))

include undotted

/-- `if`, with its `elif` and `else` parts. -/
theorem gives_ifStatement : Gives .undotted Stmt.IsUndotted (ifStatement rules block) := by
  have branch : Gives .undotted (fun branch => branch.1.IsUndotted ∧ Stmt.AllUndotted branch.2) (do
      keyword "elif"
      let condition ← namedTest rules
      pure (condition, ← suite block)) := by
    refine .after (.keyword _) fun _ => ?_
    refine (gives_namedTest undotted).bind fun condition inCondition => ?_
    exact (gives_suite inside).bind fun body inBody => .pure ⟨inCondition, inBody⟩
  refine .after (.keyword _) fun _ => ?_
  refine (gives_namedTest undotted).bind fun condition inCondition => ?_
  refine (gives_suite inside).bind fun body inBody => ?_
  refine (branch.repeatWhile _).bind fun branches inBranches => ?_
  refine (gives_optionalSuite inside _).bind fun last inLast => ?_
  exact .pure (.ifThen inCondition inBody (allUndotted_nest inBranches inLast))

/-- `while`, with its `else` part. -/
theorem gives_whileStatement : Gives .undotted Stmt.IsUndotted (whileStatement rules block) := by
  refine .after (.keyword _) fun _ => ?_
  refine (gives_namedTest undotted).bind fun condition inCondition => ?_
  refine (gives_suite inside).bind fun body inBody => ?_
  exact (gives_optionalSuite inside _).bind fun last inLast =>
    .pure (.whileLoop inCondition inBody inLast)

/-- `for`, with its `else` part. -/
theorem gives_forStatement : Gives .undotted Stmt.IsUndotted (forStatement rules block) := by
  refine .after (.keyword _) fun _ => ?_
  refine (gives_targetList undotted).bind fun target inTarget => .after (.keyword _) fun _ => ?_
  refine (gives_testList undotted).bind fun iterable inIterable => ?_
  refine (gives_suite inside).bind fun body inBody => ?_
  exact (gives_optionalSuite inside _).bind fun last inLast =>
    .pure (.forLoop inTarget inIterable inBody inLast)

/-- An `except` clause. -/
theorem gives_handler (hasStar : Bool) :
    Gives .undotted Handler.IsUndotted (handler rules hasStar block) := by
  refine .after (.keyword _) fun _ => .perhaps (.symbol _) ?_
  refine .after (.isNext _) fun _ => .ite ?_ (.after undotted.test.keeps fun caught => ?_)
  · exact (gives_suite inside).bind fun body inBody => .pure ⟨by simp, inBody⟩
  · refine (Gives.optionally (.accept _) .undottedName).bind fun name named => ?_
    exact (gives_suite inside).bind fun body inBody => .pure ⟨named, inBody⟩

/-- `try`, with its clauses. -/
theorem gives_tryStatement : Gives .undotted Stmt.IsUndotted (tryStatement rules block) := by
  refine .after (.keyword _) fun _ => (gives_suite inside).bind fun body inBody => ?_
  refine .after (.accept _) fun _ => .ite ?_ ?_
  · refine (gives_suite inside).bind fun cleanup inCleanup => ?_
    exact .pure (.tryBlock inBody (by simp) (by simp) (by simp) inCleanup)
  refine .after .peekSecond fun _ => (gives_handler undotted inside _).bind fun first inFirst => ?_
  refine ((gives_handler undotted inside _).repeatWhile _).bind fun rest inRest => ?_
  refine (gives_optionalSuite inside _).bind fun orElse inElse => ?_
  refine (gives_optionalSuite inside _).bind fun cleanup inCleanup => ?_
  have inHandlers : ∀ handler ∈ first :: rest, handler.IsUndotted :=
    List.forall_mem_cons.mpr ⟨inFirst, inRest⟩
  exact .pure (.tryBlock inBody (fun handler member => (inHandlers handler member).1)
    (fun handler member => (inHandlers handler member).2) inElse inCleanup)

omit inside in
/-- What stands between `with` and the colon, with and without parentheses. -/
theorem gives_withItems :
    Gives .undotted
      (fun items => ∀ item ∈ items, item.1.IsUndotted ∧ ∀ target ∈ item.2, target.IsUndotted)
      (withItems rules) := by
  have item : Gives .undotted (fun item => item.1.IsUndotted ∧ ∀ target ∈ item.2, target.IsUndotted)
      (withItem rules) := by
    refine undotted.test.bind fun manager inManager => ?_
    refine (Gives.optionally (.accept _) undotted.operand).bind fun target inTarget => ?_
    exact .pure ⟨inManager, inTarget⟩
  have parenthesized : Gives .undotted (fun items => ∀ item ∈ items,
      item.1.IsUndotted ∧ ∀ target ∈ item.2, target.IsUndotted) (parenthesizedItems rules) := by
    refine .after (.symbol _) fun _ => (item.commaList _).bind fun items inItems => ?_
    refine .after (.symbol _) fun _ => .after (.isNext _) fun _ => ?_
    exact .perhaps .refuse (.pure inItems)
  -- Parentheses are tried first. If that fails, the items begin at the same token.
  intro cursor words
  unfold withItems
  split
  · rename_i result success
    exact .ok (parenthesized cursor words result success)
  · exact item.oneOrMore cursor words

theorem gives_withStatement : Gives .undotted Stmt.IsUndotted (withStatement rules block) := by
  refine .after (.keyword _) fun _ => (gives_withItems undotted).bind fun items inItems => ?_
  refine (gives_suite inside).bind fun body inBody => .pure ?_
  exact .withBlock (fun item member => (inItems item member).1)
    (fun item member => (inItems item member).2) inBody

/-- The definition of a function. -/
theorem gives_functionDef {decorators : List Expr}
    (inDecorators : ∀ decorator ∈ decorators, decorator.IsUndotted) (isAsync : Bool) :
    Gives .undotted Stmt.IsUndotted (functionDef rules block decorators isAsync) := by
  refine .after (.keyword _) fun _ => .bind .undottedName fun id named => ?_
  refine .after (keeps_optionalTypeParameters undotted) fun _ => .after (.symbol _) fun _ => ?_
  refine .after (keeps_parameters undotted _ _) fun params => ?_
  refine .after (Gives.optionally (.accept _) undotted.test).keeps fun returns => ?_
  exact (gives_suite inside).bind fun body inBody => .pure (.function named inDecorators inBody)

/-- The definition of a class. -/
theorem gives_classDef {decorators : List Expr}
    (inDecorators : ∀ decorator ∈ decorators, decorator.IsUndotted) :
    Gives .undotted Stmt.IsUndotted (classDef rules block decorators) := by
  refine .after (.keyword _) fun _ => .bind .undottedName fun id named => ?_
  refine .after (keeps_optionalTypeParameters undotted) fun _ => .after (.accept _) fun _ => ?_
  refine .perhaps (gives_arguments undotted).keeps ?_
  exact (gives_suite inside).bind fun body inBody => .pure (.classDef named inDecorators inBody)

/-- A definition behind its decorators. -/
theorem gives_decorated : Gives .undotted Stmt.IsUndotted (decorated rules block) := by
  have decorator : Gives .undotted Expr.IsUndotted (do
      symbol "@"
      let decorator ← namedTest rules
      expect .newline
      pure decorator) := by
    refine .after (.symbol _) fun _ => (gives_namedTest undotted).bind fun decorator holds => ?_
    exact .after (.expect _) fun _ => .pure holds
  refine (decorator.repeatWhile _).bind fun decorators inDecorators => ?_
  refine .after (.isNext _) fun _ => .ite (gives_classDef undotted inside inDecorators) ?_
  exact .after (.accept _) fun isAsync => gives_functionDef undotted inside inDecorators isAsync

/-- A statement behind `async`. -/
theorem gives_asyncStatement : Gives .undotted Stmt.IsUndotted (asyncStatement rules block) := by
  refine .after (.keyword _) fun _ => .after Gives.peek.keeps fun _ => ?_
  split
  · exact gives_forStatement undotted inside
  · exact gives_withStatement undotted inside
  · exact gives_functionDef undotted inside (by simp) true

/-- `match`, of which nothing is left. -/
theorem gives_matchStatement (depth : Nat) :
    Gives .undotted Stmt.IsUndotted (matchStatement rules depth block) := by
  have clause : Keeps .undotted (caseClause rules depth block) := by
    refine .after (.keyword _) fun _ => ?_
    refine .after (PatternGrammar.keeps_patterns undotted depth) fun _ => ?_
    refine .after (.accept _) fun _ => .perhaps (gives_namedTest undotted).keeps ?_
    exact .after (gives_suite inside).keeps fun _ => .pure trivial
  refine .after (.keyword _) fun _ => ?_
  refine .after ((gives_starredNamedTest undotted).commaList _).keeps fun _ => ?_
  refine .after (.symbol _) fun _ => .after (.expect _) fun _ => .after (.expect _) fun _ => ?_
  refine .after clause fun _ => .after (clause.repeatWhile _).keeps fun _ => ?_
  exact .after (.expect _) fun _ => .pure .inert

/-- A statement, or several on a line. -/
theorem gives_statement (depth : Nat) :
    Gives .undotted Stmt.AllUndotted (statement rules depth block) := by
  have compound {rule : Rule Stmt} (gives : Gives .undotted Stmt.IsUndotted rule) :
      Gives .undotted Stmt.AllUndotted (do pure [← rule]) :=
    gives.bind fun stmt holds => .pure (by simpa [Stmt.AllUndotted] using holds)
  refine .after Gives.peek.keeps fun _ => ?_
  split
  · exact compound (gives_ifStatement undotted inside)
  · exact compound (gives_whileStatement undotted inside)
  · exact compound (gives_forStatement undotted inside)
  · exact compound (gives_tryStatement undotted inside)
  · exact compound (gives_withStatement undotted inside)
  · exact compound (gives_functionDef undotted inside (by simp) false)
  · exact compound (gives_classDef undotted inside (by simp))
  · exact compound (gives_asyncStatement undotted inside)
  · exact compound (gives_matchStatement undotted inside depth)
  · exact compound (gives_decorated undotted inside)
  · exact gives_line undotted

end Suites

section Blocks

variable (undotted : rules.AreUndotted)

include undotted

/-- Blocks that are nested to the given depth. -/
theorem gives_blockOfDepth (depth bound : Nat) :
    Gives .undotted Stmt.AllUndotted (blockOfDepth rules depth bound) := by
  induction bound with
  | zero => exact .refuse
  | succ bound inside =>
    have statement := gives_statement undotted inside depth
    refine .after (.accept _) fun _ => .ite ?_ (gives_line undotted)
    refine .after (.expect _) fun _ => statement.bind fun first inFirst => ?_
    refine (statement.repeatWhile _).bind fun rest inRest => .after (.expect _) fun _ => .pure ?_
    exact List.forall_mem_append.mpr ⟨inFirst, allUndotted_flatten inRest⟩

/-- A whole program. -/
theorem gives_program (depth : Nat) :
    Gives .undotted Stmt.AllUndotted (program rules depth) := by
  have part : Gives .undotted Stmt.AllUndotted (do
      if ← accept .newline then pure []
      else statement rules depth (blockOfDepth rules depth depth)) := by
    refine .after (.accept _) fun _ => .ite (.pure (by simp [Stmt.AllUndotted])) ?_
    exact gives_statement undotted (gives_blockOfDepth undotted depth depth) depth
  exact (part.repeatWhile _).bind fun parts inParts => .pure (allUndotted_flatten inParts)

end Blocks

end StmtGrammar

/-- The names that a program defines are undotted. -/
theorem allUndotted_of_parseProgram {text : String} {body : List Stmt}
    (parsed : parseProgram text = .ok body) : Stmt.AllUndotted body := by
  have yields : Yields Stmt.AllUndotted (parseProgram text) := by
    refine (Lexeme.yields_undotted _ _ _).bind fun lexemes words => ?_
    exact (StmtGrammar.gives_program (ExprRules.areUndotted_ofDepth _) _).run words
  exact yields body parsed

end Callwise
