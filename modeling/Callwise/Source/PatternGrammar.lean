import Callwise.Source.ExprGrammar

/-!
# The grammar of patterns

The patterns of `case` clauses. The checker passes over `match` statements, so patterns are only
checked for their form and leave no tree.
-/

namespace Callwise.PatternGrammar

open Rule

/-- A pattern may begin with the token. -/
def startsPattern : Token → Bool
  | .name _ | .int _ | .float | .imaginary | .string .. => true
  | .symbol text => ["(", "[", "\x7b", "-", "*"].contains text
  | .keyword text => ["None", "True", "False"].contains text
  | _ => false

/-- A number without a sign. -/
def plainNumber : Rule Unit := do
  match (← take).token with
  | .int _ | .float | .imaginary => pure ()
  | _ => refuse

/-- A number with or without a minus sign, or a sum or difference of two. -/
def number : Rule Unit := do
  let _ ← accept (.symbol "-")
  plainNumber
  if ← accept (.symbol "+") then plainNumber
  else if ← accept (.symbol "-") then plainNumber

/-- One argument of a class pattern; the answer says whether it is given by name. -/
def classArgument (inner : Rule Unit) : Rule Bool := do
  match ← peek, ← peekSecond with
  | some (.name _), some (.symbol "=") =>
    let _ ← take
    let _ ← take
    inner
    pure true
  | _, _ =>
    inner
    pure false

/-- The arguments of a class pattern, behind the opening parenthesis; named ones come last. -/
def classArguments (inner : Rule Unit) : Rule Unit := do
  let named ← listUntil (.symbol ")") (classArgument inner)
  if (named.dropWhile (!·)).any (!·) then refuse

/-- A name: a capture, or a class or value if it goes on. -/
def named (inner : Rule Unit) : Rule Unit := do
  let _ ← name
  let _ ← attributes
  if ← accept (.symbol "(") then classArguments inner

/-- A key of a mapping pattern: a literal, or a name with at least one attribute. -/
def mappingKey (rules : ExprRules) : Rule Unit := do
  match ← peek with
  | some (.name _) =>
    let _ ← take
    if (← attributes).isEmpty then refuse
  | some (.keyword "None") | some (.keyword "True") | some (.keyword "False") =>
    let _ ← take
  | some (.string ..) =>
    let _ ← ExprGrammar.strings rules
  | _ => number

/-- One entry of a mapping pattern; the answer says whether it takes the rest. -/
def mappingEntry (rules : ExprRules) (inner : Rule Unit) : Rule Bool := do
  if ← accept (.symbol "**") then
    let _ ← name
    pure true
  else
    mappingKey rules
    symbol ":"
    inner
    pure false

/-- A mapping pattern; the entry that takes the rest comes last. -/
def mapping (rules : ExprRules) (inner : Rule Unit) : Rule Unit := do
  symbol "\x7b"
  let rests ← listUntil (.symbol "\x7d") (mappingEntry rules inner)
  if rests.dropLast.any id then refuse

/-- A pattern without alternatives. -/
def closed (rules : ExprRules) (inner : Rule Unit) : Rule Unit := do
  match ← peek with
  | some (.name _) => named inner
  | some (.keyword "None") | some (.keyword "True") | some (.keyword "False") =>
    let _ ← take
  | some (.string ..) =>
    let _ ← ExprGrammar.strings rules
  | some (.symbol "*") =>
    let _ ← take
    let _ ← name
  | some (.symbol "(") =>
    let _ ← take
    let _ ← listUntil (.symbol ")") inner
  | some (.symbol "[") =>
    let _ ← take
    let _ ← listUntil (.symbol "]") inner
  | some (.symbol "\x7b") => mapping rules inner
  | _ => number

/-- A pattern: alternatives, and possibly a name for what they match, which is not `_`. -/
def pattern (rules : ExprRules) (inner : Rule Unit) : Rule Unit := do
  closed rules inner
  let _ ← repeatWhile (fun cursor => cursor.token? == some (.symbol "|")) do
    symbol "|"
    closed rules inner
  if ← accept (.keyword "as") then
    if (← name) == "_" then refuse

/-- The rule for patterns that are nested to the given depth. -/
def ofDepth (rules : ExprRules) : Nat → Rule Unit
  | 0 => refuse
  | depth + 1 => pattern rules (ofDepth rules depth)

/-- The patterns of a `case` clause. -/
def patterns (rules : ExprRules) (depth : Nat) : Rule Unit := do
  let _ ← commaList startsPattern (ofDepth rules depth)

end Callwise.PatternGrammar
