import Callwise.Source.Rule
import Callwise.Source.StringLiteral
import Callwise.Source.Tree

/-!
# The grammar of expressions

Each level of precedence is a rule built from the rules for what may stand inside: `ExprRules`.
A rule uses those only behind a token that it has taken itself, so rules for texts with `n`
characters need rules inside rules at most `n` deep. `ExprRules.ofDepth` builds them.

The span of an expression goes from its first to its last token. Parentheses around an expression do
not belong to it, but they belong to the larger expression that it is a part of, unless this is an
assignment that ends with them.
-/

namespace Callwise

open Rule

/-- The rules that an expression needs for the expressions inside it. -/
structure ExprRules where
  /-- Any expression without commas, stars and `:=` outside brackets. -/
  test : Rule Expr
  /-- The same without a conditional or a `lambda` outside brackets. -/
  disjunction : Rule Expr
  /-- `not` and what binds more closely. -/
  negation : Rule Expr
  /-- The operators on bits and numbers, and what binds more closely. -/
  operand : Rule Expr
  /-- Signs and what binds more closely. -/
  factor : Rule Expr
  /-- An expression given by its own text, with the offset at which that begins. -/
  ofText : List Char → Nat → Except SyntaxFault Expr

/-- No expression at all. -/
def ExprRules.none : ExprRules :=
  ⟨refuse, refuse, refuse, refuse, refuse, fun _ offset => .error ⟨.unexpectedEnd, offset⟩⟩

namespace ExprGrammar

/-- An expression may begin with the token. -/
def startsTest : Token → Bool
  | .name _ | .int _ | .float | .imaginary | .string .. => true
  | .symbol text => ["(", "[", "\x7b", "-", "+", "~", "..."].contains text
  | .keyword text => ["not", "lambda", "await", "None", "True", "False"].contains text
  | _ => false

/-- An expression or a starred one may begin with the token. -/
def startsStarredTest (token : Token) : Bool := startsTest token || token == .symbol "*"

/-- A name and `:=` come next. -/
def isAssignmentNext (cursor : Cursor) : Bool :=
  match cursor.ahead with
  | ⟨.name _, _⟩ :: ⟨.symbol ":=", _⟩ :: _ => true
  | _ => false

/-- `name := value`; it ends where the value ends, parentheses around the value not counted. -/
def assignment (inner : ExprRules) : Rule Expr := do
  let start ← offset
  let target ← name
  symbol ":="
  let value ← inner.test
  pure (.assignment ⟨start, value.span.stop⟩ target value)

/-- An expression or `name := value`. -/
def namedTest (inner : ExprRules) : Rule Expr := do
  if isAssignmentNext (← get) then assignment inner else inner.test

/-- `*value` -/
def starred (inner : ExprRules) : Rule Expr := do
  let start ← offset
  symbol "*"
  let value ← inner.operand
  pure (.starred (← spanFrom start) value)

/-- An expression or `*value`. -/
def starredTest (inner : ExprRules) : Rule Expr := do
  if ← isNext (.symbol "*") then starred inner else inner.test

/-- An expression, `*value` or `name := value`. -/
def starredNamedTest (inner : ExprRules) : Rule Expr := do
  if ← isNext (.symbol "*") then starred inner else namedTest inner

/-- One item, or a tuple of items without parentheses. -/
def tupleOf (item : Rule Expr) : Rule Expr := do
  let start ← offset
  match ← commaList startsStarredTest item with
  | ([single], false) => pure single
  | (items, _) => pure (.tuple (← spanFrom start) items)

/-- Expressions with commas between them. -/
def testList (inner : ExprRules) : Rule Expr := tupleOf (starredTest inner)

/-- An operand or `*operand`, as a target of `for` or `del`. -/
def starredOperand (inner : ExprRules) : Rule Expr := do
  if ← isNext (.symbol "*") then starred inner else inner.operand

/-- Targets with commas between them. -/
def targetList (inner : ExprRules) : Rule Expr := tupleOf (starredOperand inner)

/-- `yield`, with or without values, or `yield from`. -/
def yieldExpr (inner : ExprRules) : Rule Expr := do
  let start ← offset
  keyword "yield"
  if ← accept (.keyword "from") then
    let _ ← inner.test
  else if (← peek).any startsStarredTest then
    let _ ← testList inner
  pure (.yield (← spanFrom start))

/-- Expressions with commas between them, or a `yield`. -/
def testListOrYield (inner : ExprRules) : Rule Expr := do
  if ← isNext (.keyword "yield") then yieldExpr inner else testList inner

/-! ### Comprehensions and calls -/

/-- A comprehension goes on here. -/
def isForNext (cursor : Cursor) : Bool :=
  cursor.token? == some (.keyword "for") || cursor.token? == some (.keyword "async")

/-- The `for` and `if` parts of a comprehension. -/
def comprehensionTail (inner : ExprRules) : Rule Unit := do
  let clause : Rule Unit := do
    let _ ← accept (.keyword "async")
    keyword "for"
    let _ ← targetList inner
    keyword "in"
    let _ ← inner.disjunction
    let _ ← repeatWhile (fun cursor => cursor.token? == some (.keyword "if")) do
      keyword "if"
      inner.disjunction
  clause
  let _ ← repeatWhile isForNext clause

/-- An argument in a call: its value, and a name where it is not positional. -/
inductive RawArgument where
  | positional (value : Expr)
  | keyword (keyword : Keyword)

/-- One argument of a call. -/
def argument (inner : ExprRules) : Rule RawArgument := do
  let start ← offset
  match ← peek, ← peekSecond with
  | some (.name id), some (.symbol "=") =>
    let _ ← take
    let _ ← take
    pure (.keyword ⟨some id, ← inner.test⟩)
  | some (.symbol "*"), _ =>
    let _ ← take
    let value ← inner.test
    pure (.positional (.starred (← spanFrom start) value))
  | some (.symbol "**"), _ =>
    let _ ← take
    pure (.keyword ⟨none, ← inner.test⟩)
  | _, _ =>
    let value ← namedTest inner
    if isForNext (← get) then
      comprehensionTail inner
      pure (.positional (.comprehension (← spanFrom start) .generator))
    else pure (.positional value)

/-- Separate positional arguments from named ones. A name is given once; a positional argument
comes before all names, except that `*values` may follow names, but not `**values`. -/
def separate : List RawArgument → (names : List String) → (hasKeyword hasSpread : Bool) →
    Except Fault (List Expr × List Keyword)
  | [], _, _, _ => .ok ([], [])
  | .positional value :: rest, names, hasKeyword, hasSpread =>
    if (hasKeyword && !value.isStarred) || hasSpread then .error .argumentOrder
    else (separate rest names hasKeyword hasSpread).map fun (args, keywords) =>
      (value :: args, keywords)
  | .keyword keyword :: rest, names, _, hasSpread =>
    match keyword.name with
    | some name =>
      if names.contains name then .error (.repeatedKeyword name)
      else (separate rest (name :: names) true hasSpread).map fun (args, keywords) =>
        (args, keyword :: keywords)
    | none => (separate rest names true true).map fun (args, keywords) =>
        (args, keyword :: keywords)

/-- The arguments of a call, behind the opening parenthesis and with the closing one. -/
def arguments (inner : ExprRules) : Rule (List Expr × List Keyword) := do
  let start ← offset
  let raw ← listUntil (.symbol ")") (argument inner)
  match separate raw [] false false with
  | .ok separated => pure separated
  | .error fault => refuseAt fault start

/-! ### Parameters -/

/-- A part of a parameter list as written. -/
inductive RawParameter where
  | plain (name : String) (hint : Option Expr) (hasDefault : Bool)
  | slash
  | star (named : Option (String × Option Expr))
  | doubleStar (named : Option (String × Option Expr))

/-- The part of the parameter list that has been reached. -/
inductive ParameterStage where
  | beforeSlash | afterSlash | afterStar | afterDoubleStar
  deriving DecidableEq

/-- The parameters of a list of parts. A slash follows at least one parameter; a star with or
without a name separates the parameters that only a name reaches; a double star, which needs no
name, comes last. A star without a name is not the last part. Among the parameters before the star
none without a default follows one with. -/
def arrange : List RawParameter → ParameterStage → (isFirst hasDefault : Bool) →
    Except Fault (List (Parameter (Option Expr)))
  | [], _, _, _ => .ok []
  | .plain name hint isDefault :: rest, stage, _, hasDefault =>
    match stage with
    | .afterDoubleStar => .error .unexpectedToken
    | .afterStar =>
      let kind := if isDefault then ParamKind.namedOptional else .named
      (arrange rest stage false hasDefault).map (⟨name, kind, hint⟩ :: ·)
    | _ =>
      if hasDefault && !isDefault then .error (.requiredAfterDefault name)
      else
        let kind := if isDefault then ParamKind.optional else .positional
        (arrange rest stage false isDefault).map (⟨name, kind, hint⟩ :: ·)
  | .slash :: rest, stage, isFirst, hasDefault =>
    if stage == .beforeSlash && !isFirst then arrange rest .afterSlash false hasDefault
    else .error .unexpectedToken
  | .star named :: rest, stage, _, hasDefault =>
    if stage == .afterStar || stage == .afterDoubleStar then .error .unexpectedToken
    else
      match named, rest with
      | some (name, hint), _ =>
        (arrange rest .afterStar false hasDefault).map (⟨name, .star, hint⟩ :: ·)
      | none, [] => .error .loneStar
      | none, _ => arrange rest .afterStar false hasDefault
  | .doubleStar named :: rest, stage, _, hasDefault =>
    if stage == .afterDoubleStar then .error .unexpectedToken
    else
      match named with
      | some (name, hint) =>
        (arrange rest .afterDoubleStar false hasDefault).map (⟨name, .doubleStar, hint⟩ :: ·)
      | none => arrange rest .afterDoubleStar false hasDefault

/-- The first name that two parameters have. -/
def repeatedName? : List (Parameter (Option Expr)) → Option String
  | [] => none
  | param :: rest =>
    if rest.any fun other => other.name == param.name then some param.name else repeatedName? rest

/-- A name with an annotation if annotations are allowed. -/
def annotatedName (isAnnotated : Bool) (hint : Rule Expr) : Rule (String × Option Expr) := do
  let id ← name
  if isAnnotated then
    if ← accept (.symbol ":") then pure (id, some (← hint)) else pure (id, none)
  else pure (id, none)

/-- The name behind a star, if there is one. -/
def starName (isAnnotated : Bool) (hint : Rule Expr) :
    Rule (Option (String × Option Expr)) := do
  match ← peek with
  | some (.name _) => pure (some (← annotatedName isAnnotated hint))
  | _ => pure none

/-- One part of a parameter list. -/
def rawParameter (inner : ExprRules) (isAnnotated : Bool) : Rule RawParameter := do
  if ← accept (.symbol "/") then pure .slash
  else if ← accept (.symbol "*") then pure (.star (← starName isAnnotated (starredTest inner)))
  else if ← accept (.symbol "**") then pure (.doubleStar (← starName isAnnotated inner.test))
  else
    let (id, hint) ← annotatedName isAnnotated inner.test
    if ← accept (.symbol "=") then
      let _ ← inner.test
      pure (.plain id hint true)
    else pure (.plain id hint false)

/-- The parameters up to the closing token, which is taken. No two have the same name. -/
def parameters (inner : ExprRules) (isAnnotated : Bool) (closing : Token) :
    Rule (List (Parameter (Option Expr))) := do
  let start ← offset
  let raw ← listUntil closing (rawParameter inner isAnnotated)
  match arrange raw .beforeSlash true false with
  | .error fault => refuseAt fault start
  | .ok params =>
    match repeatedName? params with
    | some name => refuseAt (.repeatedParameter name) start
    | none => pure params

/-! ### Atoms -/

/-- The expressions between the braces of formatted strings, among literals side by side. Those in
format specifications are read and then dropped. -/
def interpolated (inner : ExprRules) (style : StringStyle) (body : List Char) (bodyStart : Nat) :
    Except SyntaxFault (List Expr) := do
  let glyphs := Glyph.ofChars bodyStart body
  if style.isFormatted then
    let found ← StringLiteral.interpolations style.isRaw .text glyphs
    let read ← found.mapM fun interpolation => do
      let value ← inner.ofText interpolation.text interpolation.offset
      pure (value, interpolation.inSpecification)
    pure ((read.filter fun entry => !entry.2).map Prod.fst)
  else
    let _ ← StringLiteral.decode style glyphs
    pure []

/-- The value of a literal without interpolations. -/
def literalText (style : StringStyle) (body : List Char) (bodyStart : Nat) :
    Except SyntaxFault (List Char) :=
  if style.isFormatted then .ok [] else StringLiteral.decode style (Glyph.ofChars bodyStart body)

/-- A string token's parts. -/
def stringParts? : Token → Option (StringStyle × List Char × Nat)
  | .string style body bodyStart => some (style, body, bodyStart)
  | _ => none

/-- String literals side by side: one value, or one formatted string if one of them is formatted.
Bytes are joined with bytes only. -/
def strings (inner : ExprRules) : Rule Expr := do
  let start ← offset
  let lexemes ← repeatWhile (fun cursor => (cursor.token?.bind stringParts?).isSome) take
  let span ← spanFrom start
  let parts := lexemes.filterMap fun lexeme => stringParts? lexeme.token
  let isBytes := parts.any fun (style, _, _) => style.isBytes
  if isBytes && !parts.all fun (style, _, _) => style.isBytes then
    refuseAt .mixedBytes start
  else
    let values ← Rule.done (parts.mapM fun (style, body, bodyStart) =>
      interpolated inner style body bodyStart)
    let texts ← Rule.done (parts.mapM fun (style, body, bodyStart) =>
      literalText style body bodyStart)
    if parts.any fun (style, _, _) => style.isFormatted then
      pure (.formatted span values.flatten)
    else if isBytes then pure (.literal span .bytes)
    else pure (.literal span (.str (String.ofList texts.flatten)))

/-- What parentheses hold: nothing, a `yield`, a generator, one expression, or a tuple. -/
def parenthesized (inner : ExprRules) : Rule Expr := do
  let start ← offset
  symbol "("
  match ← peek with
  | some (.symbol ")") =>
    symbol ")"
    pure (.tuple (← spanFrom start) [])
  | some (.keyword "yield") =>
    let value ← yieldExpr inner
    symbol ")"
    pure value
  | _ =>
    let isStar ← isNext (.symbol "*")
    let (items, hasTrailing) ← commaList startsStarredTest (starredNamedTest inner)
    match items with
    | [single] =>
      if hasTrailing then
        symbol ")"
        pure (.tuple (← spanFrom start) [single])
      else if isStar then refuseAt .loneStar start
      else if isForNext (← get) then
        comprehensionTail inner
        symbol ")"
        pure (.comprehension (← spanFrom start) .generator)
      else
        symbol ")"
        pure single
    | _ =>
      symbol ")"
      pure (.tuple (← spanFrom start) items)

/-- What square brackets hold: a list or a comprehension. -/
def bracketed (inner : ExprRules) : Rule Expr := do
  let start ← offset
  symbol "["
  if ← accept (.symbol "]") then pure (.list (← spanFrom start) [])
  else
    let (items, hasTrailing) ← commaList startsStarredTest (starredNamedTest inner)
    if items.length == 1 && !hasTrailing && isForNext (← get) then
      comprehensionTail inner
      symbol "]"
      pure (.comprehension (← spanFrom start) .list)
    else
      symbol "]"
      pure (.list (← spanFrom start) items)

/-- A further part of a dictionary display. -/
def dictEntry (inner : ExprRules) : Rule DictEntry := do
  if ← accept (.symbol "**") then pure (.spread (← inner.operand))
  else
    let key ← inner.test
    symbol ":"
    pure (.pair key (← inner.test))

/-- The rest of a dictionary display behind its first part. -/
def dictRest (inner : ExprRules) (start : Nat) (first : DictEntry) : Rule Expr := do
  if !(← isNext (.symbol "\x7d")) then symbol ","
  let rest ← listUntil (.symbol "\x7d") (dictEntry inner)
  pure (.dict (← spanFrom start) (first :: rest))

/-- What braces hold: a dictionary, a set, or a comprehension of either kind. -/
def braced (inner : ExprRules) : Rule Expr := do
  let start ← offset
  symbol "\x7b"
  if ← accept (.symbol "\x7d") then pure (.dict (← spanFrom start) [])
  else if ← isNext (.symbol "**") then dictRest inner start (← dictEntry inner)
  else
    let isStar ← isNext (.symbol "*")
    let isNamed := isAssignmentNext (← get)
    let first ← starredNamedTest inner
    let isPair ← if isStar || isNamed then pure false else accept (.symbol ":")
    if isPair then
      let value ← inner.test
      if isForNext (← get) then
        comprehensionTail inner
        symbol "\x7d"
        pure (.comprehension (← spanFrom start) .dict)
      else dictRest inner start (.pair first value)
    else if !isStar && isForNext (← get) then
      comprehensionTail inner
      symbol "\x7d"
      pure (.comprehension (← spanFrom start) .set)
    else
      if !(← isNext (.symbol "\x7d")) then symbol ","
      let rest ← listUntil (.symbol "\x7d") (starredNamedTest inner)
      pure (.set (← spanFrom start) (first :: rest))

/-- A name, a literal, or something in brackets. -/
def atom (inner : ExprRules) : Rule Expr := do
  let start ← offset
  let literal (value : Literal) : Rule Expr := do
    let _ ← take
    pure (.literal (← spanFrom start) value)
  match ← peek with
  | some (.name id) =>
    let _ ← take
    pure (.name (← spanFrom start) id)
  | some (.int value) => literal (.int value)
  | some .float => literal .float
  | some .imaginary => literal .imaginary
  | some (.string ..) => strings inner
  | some (.keyword "None") => literal .none
  | some (.keyword "True") | some (.keyword "False") => literal .bool
  | some (.symbol "...") => literal .ellipsis
  | some (.symbol "(") => parenthesized inner
  | some (.symbol "[") => bracketed inner
  | some (.symbol "\x7b") => braced inner
  | _ => refuse

/-! ### Calls, subscripts and attributes -/

/-- A bound of a slice, if one is given. -/
def sliceBound (inner : ExprRules) : Rule Unit := do
  if (← peek).any startsTest then
    let _ ← inner.test

/-- The rest of a slice behind its first bound. -/
def sliceRest (inner : ExprRules) (start : Nat) : Rule Expr := do
  symbol ":"
  sliceBound inner
  if ← accept (.symbol ":") then sliceBound inner
  pure (.slice (← spanFrom start))

/-- One index in a subscript. -/
def subscriptItem (inner : ExprRules) : Rule Expr := do
  let start ← offset
  if ← isNext (.symbol ":") then sliceRest inner start
  else
    let isPlain := !(← isNext (.symbol "*")) && !isAssignmentNext (← get)
    let value ← starredNamedTest inner
    if isPlain && (← isNext (.symbol ":")) then sliceRest inner start else pure value

/-- The index of a subscript: one item, or a tuple of items. -/
def subscriptIndex (inner : ExprRules) : Rule Expr := do
  let start ← offset
  let startsItem := fun token => startsStarredTest token || token == .symbol ":"
  match ← commaList startsItem (subscriptItem inner) with
  | ([single], false) => pure single
  | (items, _) => pure (.tuple (← spanFrom start) items)

/-- One call, subscript or attribute behind an expression. -/
inductive Trailer where
  | call (args : List Expr) (keywords : List Keyword) (stop : Nat)
  | subscript (index : Expr) (stop : Nat)
  | access (attr : String) (stop : Nat)

/-- Read one trailer. -/
def trailer (inner : ExprRules) : Rule Trailer := do
  if ← accept (.symbol "(") then
    let (args, keywords) ← arguments inner
    pure (.call args keywords (← spanFrom 0).stop)
  else if ← accept (.symbol "[") then
    let index ← subscriptIndex inner
    symbol "]"
    pure (.subscript index (← spanFrom 0).stop)
  else
    symbol "."
    let attr ← name
    pure (.access attr (← spanFrom 0).stop)

/-- Put a trailer behind an expression that begins at the offset. -/
def Trailer.attach (start : Nat) (value : Expr) : Trailer → Expr
  | call args keywords stop => .call ⟨start, stop⟩ value args keywords
  | subscript index stop => .subscript ⟨start, stop⟩ value index
  | access attr stop => .access ⟨start, stop⟩ value attr

/-- A trailer comes next. -/
def isTrailerNext (cursor : Cursor) : Bool :=
  match cursor.token? with
  | some (.symbol "(") | some (.symbol "[") | some (.symbol ".") => true
  | _ => false

/-- An atom with its calls, subscripts and attributes. -/
def primary (inner : ExprRules) : Rule Expr := do
  let start ← offset
  let first ← atom inner
  let trailers ← repeatWhile isTrailerNext (trailer inner)
  pure (trailers.foldl (Trailer.attach start) first)

/-! ### Operators -/

/-- `await` and what binds more closely. -/
def awaited (inner : ExprRules) : Rule Expr := do
  let start ← offset
  if ← accept (.keyword "await") then
    let value ← primary inner
    pure (.await (← spanFrom start) value)
  else primary inner

/-- A power; it binds more closely than a sign before it and less closely than one behind. -/
def power (inner : ExprRules) : Rule Expr := do
  let start ← offset
  let base ← awaited inner
  if ← accept (.symbol "**") then
    let exponent ← inner.factor
    pure (.binary (← spanFrom start) .pow base exponent)
  else pure base

/-- A sign and its operand. -/
def factor (inner : ExprRules) : Rule Expr := do
  let start ← offset
  match ← peek with
  | some (.symbol "+") | some (.symbol "-") | some (.symbol "~") =>
    let _ ← take
    let operand ← inner.factor
    pure (.unary (← spanFrom start) .arithmetic operand)
  | _ => power inner

/-- The operator that a token stands for, among those of one level. -/
def operatorIn? (operators : List (String × BinaryOp)) : Option Token → Option BinaryOp
  | some (.symbol text) => operators.lookup text
  | _ => none

/-- Operands with operators of one level between them, grouped from the left. -/
def leftAssociative (operators : List (String × BinaryOp)) (operand : Rule Expr) : Rule Expr := do
  let start ← offset
  let first ← operand
  let rest ← repeatWhile (fun cursor => (operatorIn? operators cursor.token?).isSome) do
    let op := (operatorIn? operators (← peek)).getD .add
    let _ ← take
    let right ← operand
    pure (op, right, (← spanFrom start))
  pure (rest.foldl (fun left (op, right, span) => .binary span op left right) first)

/-- Multiplication and division. -/
def term (inner : ExprRules) : Rule Expr :=
  leftAssociative [("*", .mul), ("/", .div), ("//", .floorDiv), ("%", .mod), ("@", .matMul)]
    (factor inner)

/-- Addition and subtraction. -/
def sum (inner : ExprRules) : Rule Expr :=
  leftAssociative [("+", .add), ("-", .sub)] (term inner)

/-- Shifts. -/
def shift (inner : ExprRules) : Rule Expr :=
  leftAssociative [("<<", .shiftLeft), (">>", .shiftRight)] (sum inner)

/-- The operators on bits. -/
def operand (inner : ExprRules) : Rule Expr :=
  leftAssociative [("|", .bitOr)] (leftAssociative [("^", .bitXor)]
    (leftAssociative [("&", .bitAnd)] (shift inner)))

/-- A comparison comes next. -/
def isComparisonNext (cursor : Cursor) : Bool :=
  match cursor.token? with
  | some (.symbol text) => ["==", "!=", "<", "<=", ">", ">="].contains text
  | some (.keyword "in") | some (.keyword "is") => true
  | some (.keyword "not") => cursor.second? == some (.keyword "in")
  | _ => false

/-- The operator of a comparison, of one or two words. -/
def comparisonOperator : Rule Unit := do
  match (← take).token with
  | .keyword "not" => keyword "in"
  | .keyword "is" =>
    let _ ← accept (.keyword "not")
  | _ => pure ()

/-- A chain of comparisons. -/
def comparison (inner : ExprRules) : Rule Expr := do
  let start ← offset
  let first ← operand inner
  let others ← repeatWhile isComparisonNext do
    comparisonOperator
    operand inner
  if others.isEmpty then pure first else pure (.compare (← spanFrom start) first others)

/-- `not` and its operand. -/
def negation (inner : ExprRules) : Rule Expr := do
  let start ← offset
  if ← accept (.keyword "not") then
    let operand ← inner.negation
    pure (.unary (← spanFrom start) .not operand)
  else comparison inner

/-- Operands with one of the words `and`, `or` between them. -/
def joined (word : String) (operand : Rule Expr) : Rule Expr := do
  let start ← offset
  let first ← operand
  let others ← repeatWhile (fun cursor => cursor.token? == some (.keyword word)) do
    keyword word
    operand
  if others.isEmpty then pure first else pure (.boolean (← spanFrom start) (first :: others))

/-- Operands of `or`, which are operands of `and`. -/
def disjunction (inner : ExprRules) : Rule Expr := joined "or" (joined "and" (negation inner))

/-- `lambda params: body` -/
def lambda (inner : ExprRules) : Rule Expr := do
  let start ← offset
  keyword "lambda"
  let params ← parameters inner false (.symbol ":")
  let body ← inner.test
  let plain := params.map fun param => ⟨param.name, param.kind, ()⟩
  pure (.lambda (← spanFrom start) plain body)

/-- A `lambda`, or a disjunction that may be the first part of a conditional. -/
def test (inner : ExprRules) : Rule Expr := do
  if ← isNext (.keyword "lambda") then lambda inner
  else
    let start ← offset
    let body ← disjunction inner
    if ← accept (.keyword "if") then
      let condition ← inner.disjunction
      keyword "else"
      let orElse ← inner.test
      pure (.conditional (← spanFrom start) condition body orElse)
    else pure body

/-- A whole text that is an expression: line ends may follow. -/
def wholeText (inner : ExprRules) : Rule Expr := do
  let value ← testList inner
  let _ ← repeatWhile (fun cursor => cursor.token? == some .newline) take
  pure value

/-- The expression that a text in parentheses stands for. The text begins at the offset. -/
def ofParenthesized (inner : ExprRules) (text : List Char) (offset : Nat) :
    Except SyntaxFault Expr := do
  let lexemes ← Lexeme.ofText ('(' :: text ++ [')']) (offset - 1) false
  (wholeText inner).run lexemes

end ExprGrammar

/-- The rules for one more level of nesting. -/
def ExprRules.deeper (inner : ExprRules) : ExprRules where
  test := ExprGrammar.test inner
  disjunction := ExprGrammar.disjunction inner
  negation := ExprGrammar.negation inner
  operand := ExprGrammar.operand inner
  factor := ExprGrammar.factor inner
  ofText := ExprGrammar.ofParenthesized inner

/-- The rules for expressions that are nested to the given depth. -/
def ExprRules.ofDepth : Nat → ExprRules
  | 0 => ExprRules.none
  | depth + 1 => (ExprRules.ofDepth depth).deeper

end Callwise
