import Callwise.Source.Token

/-!
# Rules of the grammar

A rule takes tokens from the front of those ahead and gives what they stand for, or refuses them.
Rules look at the next tokens to decide, so that nothing has to be tried twice.

Repetition is bounded by the number of tokens ahead. A repeated rule takes at least one token each
time, so the bound is never what ends it.
-/

namespace Callwise

/-- Where reading stands: the tokens ahead, and the offset behind the last token taken. -/
structure Cursor where
  ahead : List Lexeme
  behind : Nat
  deriving Inhabited

/-- The next token. -/
def Cursor.token? (cursor : Cursor) : Option Token := cursor.ahead.head?.map Lexeme.token

/-- The token after the next. -/
def Cursor.second? (cursor : Cursor) : Option Token := cursor.ahead[1]?.map Lexeme.token

/-- The offset at which the next token begins. -/
def Cursor.offset (cursor : Cursor) : Nat :=
  (cursor.ahead.head?.map fun lexeme => lexeme.span.start).getD cursor.behind

/-- A rule of the grammar. -/
abbrev Rule (α : Type) := StateT Cursor (Except SyntaxFault) α

namespace Rule

variable {α β : Type}

/-- Refuse with a fault at an offset. -/
def refuseAt (fault : Fault) (offset : Nat) : Rule α := fun _ => .error ⟨fault, offset⟩

/-- Refuse the next token. -/
def refuse : Rule α := fun cursor =>
  let fault := if cursor.ahead.isEmpty then Fault.unexpectedEnd else .unexpectedToken
  .error ⟨fault, cursor.offset⟩

/-- A result that takes no tokens. -/
def done (result : Except SyntaxFault α) : Rule α := fun cursor =>
  result.map (·, cursor)

/-- Look at the next token. -/
def peek : Rule (Option Token) := fun cursor => .ok (cursor.token?, cursor)

/-- Look at the token after the next. -/
def peekSecond : Rule (Option Token) := fun cursor => .ok (cursor.second?, cursor)

/-- The offset at which the next token begins. -/
def offset : Rule Nat := fun cursor => .ok (cursor.offset, cursor)

/-- The span from an offset to the end of the last token taken. -/
def spanFrom (start : Nat) : Rule Span := fun cursor => .ok (⟨start, cursor.behind⟩, cursor)

/-- Take the next token. -/
def take : Rule Lexeme := fun cursor =>
  match cursor.ahead with
  | [] => .error ⟨.unexpectedEnd, cursor.behind⟩
  | lexeme :: ahead => .ok (lexeme, ⟨ahead, lexeme.span.stop⟩)

/-- The next token is this one. -/
def isNext (token : Token) : Rule Bool := fun cursor => .ok (cursor.token? == some token, cursor)

/-- Take the next token if it is this one. -/
def accept (token : Token) : Rule Bool := fun cursor =>
  match cursor.ahead with
  | lexeme :: ahead =>
    if lexeme.token == token then .ok (true, ⟨ahead, lexeme.span.stop⟩) else .ok (false, cursor)
  | [] => .ok (false, cursor)

/-- Take this token. -/
def expect (token : Token) : Rule Unit := do
  if !(← accept token) then refuse

/-- Take this symbol. -/
def symbol (text : String) : Rule Unit := expect (.symbol text)

/-- Take this keyword. -/
def keyword (text : String) : Rule Unit := expect (.keyword text)

/-- Take a name. -/
def name : Rule String := do
  match ← peek with
  | some (.name text) =>
    let _ ← take
    pure text
  | _ => refuse

/-- Apply a rule as long as the condition holds, at most `bound` times. -/
def repeatBounded (condition : Cursor → Bool) (rule : Rule α) : (bound : Nat) → Rule (List α)
  | 0 => pure []
  | bound + 1 => do
    if condition (← get) then
      let first ← rule
      let rest ← repeatBounded condition rule bound
      pure (first :: rest)
    else pure []

/-- Apply a rule as long as the condition holds. -/
def repeatWhile (condition : Cursor → Bool) (rule : Rule α) : Rule (List α) := fun cursor =>
  if condition cursor then repeatBounded condition rule cursor.ahead.length cursor
  else .ok ([], cursor)

/-- Apply a rule if the next token is this one. -/
def optionally (condition : Rule Bool) (rule : Rule α) : Rule (Option α) := do
  if ← condition then
    let value ← rule
    pure (some value)
  else pure none

/-- One or more items with commas between them. -/
def oneOrMore (item : Rule α) : Rule (List α) := do
  let first ← item
  let rest ← repeatWhile (fun cursor => cursor.token? == some (.symbol ",")) do
    symbol ","
    item
  pure (first :: rest)

/-- One or more items with commas between them and possibly one at the end. The flag says whether
there is a comma at the end: behind a comma, a token with which no item starts ends the list. -/
def commaList (startsItem : Token → Bool) (item : Rule α) : Rule (List α × Bool) := do
  let first ← item
  let goesOn := fun (cursor : Cursor) =>
    cursor.token? == some (.symbol ",") && cursor.second?.any startsItem
  let rest ← repeatWhile goesOn do
    symbol ","
    item
  let hasTrailing ← accept (.symbol ",")
  pure (first :: rest, hasTrailing)

/-- Items with commas between them, possibly one at the end, up to the closing token, which is
taken. -/
def listUntil (closing : Token) (item : Rule α) : Rule (List α) := do
  let items ← repeatWhile (fun cursor => cursor.token? != some closing) do
    let value ← item
    if !(← isNext closing) then symbol ","
    pure value
  expect closing
  pure items

/-- The names behind a dotted name's first part, each with a dot before it. -/
def attributes : Rule (List String) :=
  repeatWhile (fun cursor => cursor.token? == some (.symbol ".")) do
    symbol "."
    name

/-- Apply the rule to these tokens, all of which it has to take. -/
def run (rule : Rule α) (lexemes : List Lexeme) : Except SyntaxFault α :=
  match rule ⟨lexemes, 0⟩ with
  | .error failure => .error failure
  | .ok (value, cursor) =>
    match cursor.ahead with
    | [] => .ok value
    | lexeme :: _ => .error ⟨.unexpectedToken, lexeme.span.start⟩

end Rule

end Callwise
