import Callwise.Source.PatternGrammar

/-!
# The grammar of statements

A line holds small statements with semicolons between them; a compound statement has blocks. Blocks
are nested by indentation, and like expressions they are read by rules that are built to a given
depth.
-/

namespace Callwise

open Rule

namespace StmtGrammar

open ExprGrammar

/-! ### Small statements -/

/-- The operators of augmented assignments. -/
def augmentedOperators : List String :=
  ["+=", "-=", "*=", "/=", "//=", "%=", "@=", "&=", "|=", "^=", "<<=", ">>=", "**="]

/-- The rest of a statement that begins with an expression: an assignment to it, an annotation if it
can have one, or nothing. -/
def expressionRest (rules : ExprRules) (first : Expr) (canBeAnnotated : Bool) : Rule Stmt := do
  match ← peek with
  | some (.symbol "=") =>
    let values ← repeatWhile (fun cursor => cursor.token? == some (.symbol "=")) do
      symbol "="
      testListOrYield rules
    match values.getLast? with
    | some value => pure (.assign (first :: values.dropLast) value)
    | none => refuse
  | some (.symbol ":") =>
    if canBeAnnotated then
      symbol ":"
      let hint ← rules.test
      let value ← optionally (accept (.symbol "=")) (testListOrYield rules)
      pure (.annotated first hint value)
    else refuse
  | some (.symbol text) =>
    if augmentedOperators.contains text then
      let _ ← take
      pure (.augmented first (← testListOrYield rules))
    else pure (.expr first)
  | _ => pure (.expr first)

/-- An expression, or an assignment to it. Only a single expression can be annotated. -/
def expressionStatement (rules : ExprRules) : Rule Stmt := do
  let start ← offset
  let isStar ← isNext (.symbol "*")
  match ← commaList startsStarredTest (starredTest rules) with
  | ([single], false) => expressionRest rules single (!isStar)
  | (items, _) => expressionRest rules (.tuple (← spanFrom start) items) false

/-- A name with dots. -/
def dottedName : Rule String := do
  let first ← name
  let rest ← attributes
  pure (".".intercalate (first :: rest))

/-- What an import brings in, possibly under another name. -/
def importedName (source : Rule String) : Rule ImportedName := do
  let id ← source
  let alias? ← optionally (accept (.keyword "as")) name
  pure ⟨id, alias?⟩

/-- The names behind `import` in a `from` import. -/
def importedNames : Rule (List ImportedName) := do
  if ← accept (.symbol "*") then pure [⟨"*", none⟩]
  else if ← accept (.symbol "(") then
    let isNameStart := fun (token : Token) =>
      match token with
      | .name _ => true
      | _ => false
    let (names, _) ← commaList isNameStart (importedName name)
    symbol ")"
    pure names
  else oneOrMore (importedName name)

/-- A dot of a relative import. -/
def isDotNext (cursor : Cursor) : Bool :=
  cursor.token? == some (.symbol ".") || cursor.token? == some (.symbol "...")

/-- `from module import names`; a relative import needs no module. -/
def fromImport : Rule Stmt := do
  keyword "from"
  let dots ← repeatWhile isDotNext take
  let isImportNext ← isNext (.keyword "import")
  let module ← if isImportNext && !dots.isEmpty then pure none else some <$> dottedName
  keyword "import"
  pure (.importFrom module (!dots.isEmpty) (← importedNames))

/-- The parameters of a generic definition. -/
def typeParameters (rules : ExprRules) : Rule Unit := do
  symbol "["
  let item : Rule Unit := do
    if ← accept (.symbol "*") then
      let _ ← name
    else if ← accept (.symbol "**") then
      let _ ← name
    else
      let _ ← name
      if ← accept (.symbol ":") then
        let _ ← rules.test
  let startsItem := fun (token : Token) =>
    match token with
    | .name _ | .symbol "*" | .symbol "**" => true
    | _ => false
  let _ ← commaList startsItem item
  symbol "]"

/-- The parameters of a generic definition, if it has any. -/
def optionalTypeParameters (rules : ExprRules) : Rule Unit := do
  if ← isNext (.symbol "[") then typeParameters rules

/-- A small statement that begins with this keyword. -/
def keywordStatement (rules : ExprRules) (word : String) : Rule Stmt := do
  match word with
  | "pass" | "break" | "continue" =>
    keyword word
    pure .inert
  | "del" =>
    keyword word
    let _ ← commaList startsStarredTest (starredOperand rules)
    pure .inert
  | "return" =>
    keyword word
    if (← peek).any startsStarredTest then pure (.ret (some (← testList rules)))
    else pure (.ret none)
  | "yield" => pure (.expr (← yieldExpr rules))
  | "raise" =>
    keyword word
    if (← peek).any startsTest then
      let value ← rules.test
      let _ ← optionally (accept (.keyword "from")) rules.test
      pure (.raise (some value))
    else pure (.raise none)
  | "import" =>
    keyword word
    pure (.importModules (← oneOrMore (importedName dottedName)))
  | "from" => fromImport
  | "global" | "nonlocal" =>
    keyword word
    let _ ← oneOrMore name
    pure .inert
  | "assert" =>
    keyword word
    let condition ← rules.test
    let _ ← optionally (accept (.symbol ",")) rules.test
    pure (.assert condition)
  | "type" =>
    keyword word
    let _ ← name
    optionalTypeParameters rules
    symbol "="
    let _ ← rules.test
    pure .inert
  | _ => expressionStatement rules

/-- A statement without a block. -/
def smallStatement (rules : ExprRules) : Rule Stmt := do
  match ← peek with
  | some (.keyword word) => keywordStatement rules word
  | _ => expressionStatement rules

/-- A line of small statements. -/
def line (rules : ExprRules) : Rule (List Stmt) := do
  let first ← smallStatement rules
  let goesOn := fun (cursor : Cursor) =>
    cursor.token? == some (.symbol ";") && cursor.second? != some .newline
  let rest ← repeatWhile goesOn do
    symbol ";"
    smallStatement rules
  let _ ← accept (.symbol ";")
  expect .newline
  pure (first :: rest)

/-! ### Compound statements -/

/-- A colon and a block. -/
def suite (block : Rule (List Stmt)) : Rule (List Stmt) := do
  symbol ":"
  block

/-- The block behind this keyword, or none. -/
def optionalSuite (word : String) (block : Rule (List Stmt)) : Rule (List Stmt) := do
  if ← accept (.keyword word) then suite block else pure []

/-- `if` with any number of `elif` parts and possibly `else`. -/
def ifStatement (rules : ExprRules) (block : Rule (List Stmt)) : Rule Stmt := do
  keyword "if"
  let condition ← namedTest rules
  let body ← suite block
  let branches ← repeatWhile (fun cursor => cursor.token? == some (.keyword "elif")) do
    keyword "elif"
    let condition ← namedTest rules
    pure (condition, ← suite block)
  let last ← optionalSuite "else" block
  let orElse := branches.foldr (fun (condition, body) rest => [.ifThen condition body rest]) last
  pure (.ifThen condition body orElse)

/-- `while` -/
def whileStatement (rules : ExprRules) (block : Rule (List Stmt)) : Rule Stmt := do
  keyword "while"
  let condition ← namedTest rules
  let body ← suite block
  pure (.whileLoop condition body (← optionalSuite "else" block))

/-- `for` -/
def forStatement (rules : ExprRules) (block : Rule (List Stmt)) : Rule Stmt := do
  keyword "for"
  let target ← targetList rules
  keyword "in"
  let iterable ← testList rules
  let body ← suite block
  pure (.forLoop target iterable body (← optionalSuite "else" block))

/-- An `except` clause; with a star it names what it catches. -/
def handler (rules : ExprRules) (hasStar : Bool) (block : Rule (List Stmt)) : Rule Handler := do
  keyword "except"
  if hasStar then symbol "*"
  if !hasStar && (← isNext (.symbol ":")) then pure ⟨none, none, ← suite block⟩
  else
    let caught ← rules.test
    let name ← optionally (accept (.keyword "as")) name
    pure ⟨some caught, name, ← suite block⟩

/-- `try` with handlers, all with a star or all without, or with `finally` alone. -/
def tryStatement (rules : ExprRules) (block : Rule (List Stmt)) : Rule Stmt := do
  keyword "try"
  let body ← suite block
  if ← accept (.keyword "finally") then pure (.tryBlock body [] [] (← suite block))
  else
    let hasStar := (← peekSecond) == some (.symbol "*")
    let first ← handler rules hasStar block
    let rest ← repeatWhile (fun cursor => cursor.token? == some (.keyword "except"))
      (handler rules hasStar block)
    let orElse ← optionalSuite "else" block
    pure (.tryBlock body (first :: rest) orElse (← optionalSuite "finally" block))

/-- A context manager with its target. -/
def withItem (rules : ExprRules) : Rule (Expr × Option Expr) := do
  let manager ← rules.test
  let target ← optionally (accept (.keyword "as")) rules.operand
  pure (manager, target)

/-- Context managers in parentheses, with the colon behind them. -/
def parenthesizedItems (rules : ExprRules) : Rule (List (Expr × Option Expr)) := do
  symbol "("
  let (items, _) ← commaList startsTest (withItem rules)
  symbol ")"
  if !(← isNext (.symbol ":")) then refuse
  pure items

/-- The context managers of a `with` statement. Parentheses around all of them are not part of an
expression. -/
def withItems (rules : ExprRules) : Rule (List (Expr × Option Expr)) := fun cursor =>
  match parenthesizedItems rules cursor with
  | .ok result => .ok result
  | .error _ => oneOrMore (withItem rules) cursor

/-- `with` -/
def withStatement (rules : ExprRules) (block : Rule (List Stmt)) : Rule Stmt := do
  keyword "with"
  let items ← withItems rules
  pure (.withBlock items (← suite block))

/-- `def` -/
def functionDef (rules : ExprRules) (block : Rule (List Stmt)) (decorators : List Expr)
    (isAsync : Bool) : Rule Stmt := do
  keyword "def"
  let id ← name
  optionalTypeParameters rules
  symbol "("
  let params ← parameters rules true (.symbol ")")
  let returns ← optionally (accept (.symbol "->")) rules.test
  pure (.function ⟨id, params, returns, decorators, isAsync⟩ (← suite block))

/-- `class` -/
def classDef (rules : ExprRules) (block : Rule (List Stmt)) (decorators : List Expr) :
    Rule Stmt := do
  keyword "class"
  let id ← name
  optionalTypeParameters rules
  if ← accept (.symbol "(") then
    let _ ← arguments rules
  pure (.classDef id decorators (← suite block))

/-- A definition with decorators, each on a line of its own. -/
def decorated (rules : ExprRules) (block : Rule (List Stmt)) : Rule Stmt := do
  let decorators ← repeatWhile (fun cursor => cursor.token? == some (.symbol "@")) do
    symbol "@"
    let decorator ← namedTest rules
    expect .newline
    pure decorator
  if ← isNext (.keyword "class") then classDef rules block decorators
  else
    let isAsync ← accept (.keyword "async")
    functionDef rules block decorators isAsync

/-- A statement that begins with `async`. -/
def asyncStatement (rules : ExprRules) (block : Rule (List Stmt)) : Rule Stmt := do
  keyword "async"
  match ← peek with
  | some (.keyword "for") => forStatement rules block
  | some (.keyword "with") => withStatement rules block
  | _ => functionDef rules block [] true

/-- One `case` of a `match` statement. -/
def caseClause (rules : ExprRules) (depth : Nat) (block : Rule (List Stmt)) : Rule Unit := do
  keyword "case"
  PatternGrammar.patterns rules depth
  if ← accept (.keyword "if") then
    let _ ← namedTest rules
  let _ ← suite block

/-- `match` -/
def matchStatement (rules : ExprRules) (depth : Nat) (block : Rule (List Stmt)) : Rule Stmt := do
  keyword "match"
  let _ ← commaList startsStarredTest (starredNamedTest rules)
  symbol ":"
  expect .newline
  expect .indent
  caseClause rules depth block
  let _ ← repeatWhile (fun cursor => cursor.token? != some .dedent) (caseClause rules depth block)
  expect .dedent
  pure .inert

/-- One compound statement, or a line of small ones. -/
def statement (rules : ExprRules) (depth : Nat) (block : Rule (List Stmt)) :
    Rule (List Stmt) := do
  let compound (rule : Rule Stmt) : Rule (List Stmt) := do pure [← rule]
  match ← peek with
  | some (.keyword "if") => compound (ifStatement rules block)
  | some (.keyword "while") => compound (whileStatement rules block)
  | some (.keyword "for") => compound (forStatement rules block)
  | some (.keyword "try") => compound (tryStatement rules block)
  | some (.keyword "with") => compound (withStatement rules block)
  | some (.keyword "def") => compound (functionDef rules block [] false)
  | some (.keyword "class") => compound (classDef rules block [])
  | some (.keyword "async") => compound (asyncStatement rules block)
  | some (.keyword "match") => compound (matchStatement rules depth block)
  | some (.symbol "@") => compound (decorated rules block)
  | _ => line rules

/-- An indented block, or small statements on the same line. -/
def block (rules : ExprRules) (depth : Nat) (inner : Rule (List Stmt)) : Rule (List Stmt) := do
  if ← accept .newline then
    expect .indent
    let first ← statement rules depth inner
    let rest ← repeatWhile (fun cursor => cursor.token? != some .dedent)
      (statement rules depth inner)
    expect .dedent
    pure (first ++ rest.flatten)
  else line rules

/-- The rule for blocks that are nested to the given depth. -/
def blockOfDepth (rules : ExprRules) (depth : Nat) : Nat → Rule (List Stmt)
  | 0 => refuse
  | bound + 1 => block rules depth (blockOfDepth rules depth bound)

/-- A whole program. -/
def program (rules : ExprRules) (depth : Nat) : Rule (List Stmt) := do
  let parts ← repeatWhile (fun cursor => !cursor.ahead.isEmpty) do
    if ← accept .newline then pure []
    else statement rules depth (blockOfDepth rules depth depth)
  pure parts.flatten

end StmtGrammar

/-- The depth to which a text can be nested at most. -/
def nestingBound (text : List Char) : Nat := text.length + 2

/-- The statements of a program text. -/
def parseProgram (text : String) : Except SyntaxFault (List Stmt) := do
  let chars := text.toList
  let lexemes ← Lexeme.ofText chars 0 true
  let depth := nestingBound chars
  (StmtGrammar.program (ExprRules.ofDepth depth) depth).run lexemes

/-- The expression that a text consists of. -/
def parseExpression (text : String) : Except SyntaxFault Expr := do
  let chars := text.toList
  let lexemes ← Lexeme.ofText chars 0 false
  (ExprGrammar.wholeText (ExprRules.ofDepth (nestingBound chars))).run lexemes

end Callwise
