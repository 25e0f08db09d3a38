import Callwise.Location
import Callwise.Source.SyntaxFault

/-!
# Tokens

The words of a source text. Line ends and changes of indentation are tokens of their own.
`match`, `case` and `type` are keywords only where a statement can begin and the rest of the line
has the right shape; everywhere else they are names. `Lexeme.resolveKeywords` settles which.
-/

namespace Callwise

/-- The letters before a string literal say how its text is read. -/
structure StringStyle where
  /-- Backslashes stand for themselves. -/
  isRaw : Bool := false
  /-- The value is a sequence of bytes. -/
  isBytes : Bool := false
  /-- Expressions between braces are part of the text. -/
  isFormatted : Bool := false
  deriving DecidableEq, Repr, Inhabited

/-- The style that one letter before the quote gives. -/
def StringStyle.ofLetter? (letter : Char) : Option StringStyle :=
  match letter.toLower with
  | 'r' => some ⟨true, false, false⟩
  | 'f' => some ⟨false, false, true⟩
  | 'u' => some ⟨false, false, false⟩
  | 'b' => some ⟨false, true, false⟩
  | _ => none

/-- The style that two letters before the quote give. -/
def StringStyle.ofLetters? (first second : Char) : Option StringStyle :=
  match first.toLower, second.toLower with
  | 'r', 'f' | 'f', 'r' => some ⟨true, false, true⟩
  | 'r', 'b' | 'b', 'r' => some ⟨true, true, false⟩
  | _, _ => none

/-- A token. Keywords and symbols are given by their text. -/
inductive Token where
  | name (text : String)
  | keyword (text : String)
  | symbol (text : String)
  | int (value : Nat)
  | float
  | imaginary
  /-- A string literal with its text between the quotes and the offset at which that begins. -/
  | string (style : StringStyle) (body : List Char) (bodyStart : Nat)
  | newline
  | indent
  | dedent
  deriving DecidableEq, Repr, Inhabited

/-- A token and where it stands. -/
structure Lexeme where
  token : Token
  span : Span
  deriving Repr, Inhabited

/-- The words that are never names. -/
def Token.hardKeywords : List String :=
  ["False", "None", "True", "and", "as", "assert", "async", "await", "break", "class",
   "continue", "def", "del", "elif", "else", "except", "finally", "for", "from", "global", "if",
   "import", "in", "is", "lambda", "nonlocal", "not", "or", "pass", "raise", "return", "try",
   "while", "with", "yield"]

/-- The words that are keywords at the beginning of certain statements. -/
def Token.softKeywords : List String := ["case", "match", "type"]

/-- The token of a word; a soft keyword is taken for a keyword at first. -/
def Token.ofWord (word : String) : Token :=
  if hardKeywords.contains word || softKeywords.contains word then .keyword word else .name word

/-- How a bracket changes the depth of nesting. -/
def Token.nesting : Token → Int
  | .symbol "(" | .symbol "[" | .symbol "\x7b" => 1
  | .symbol ")" | .symbol "]" | .symbol "\x7d" => -1
  | _ => 0

namespace Lexeme

/-- A `match` or `case` is a keyword when a colon outside brackets, other than the first token and
the colon of a `lambda`, comes before the end of the line. -/
def introducesBlock : (rest : List Lexeme) → (depth : Int) → (isFirst lambdaOpen : Bool) → Bool
  | [], _, _, _ => false
  | lexeme :: rest, depth, isFirst, lambdaOpen =>
    match lexeme.token with
    | .newline => false
    | .keyword "lambda" =>
      introducesBlock rest depth false (lambdaOpen || depth == 0)
    | .symbol ":" =>
      if depth != 0 then introducesBlock rest depth false lambdaOpen
      else if lambdaOpen then introducesBlock rest depth false false
      else if isFirst then introducesBlock rest depth false false
      else true
    | token => introducesBlock rest (depth + token.nesting) false lambdaOpen

/-- The rest of a type alias behind its name: an equals sign, with nothing but a bracketed part
before it. -/
def continuesAlias : (rest : List Lexeme) → (depth : Int) → Bool
  | [], _ => false
  | lexeme :: rest, depth =>
    match lexeme.token with
    | .newline => false
    | .symbol "=" => depth == 0 || (0 < depth && continuesAlias rest depth)
    | token =>
      let change := token.nesting
      (change != 0 || 0 < depth) && continuesAlias rest (depth + change)

/-- A `type` is a keyword when a name and the rest of an alias follow. -/
def introducesAlias : List Lexeme → Bool
  | ⟨.name _, _⟩ :: rest => continuesAlias rest 0
  | ⟨.keyword word, _⟩ :: rest => Token.softKeywords.contains word && continuesAlias rest 0
  | _ => false

/-- A statement can begin behind the token. -/
def endsLine (token : Token) : Bool :=
  token == .newline || token == .indent || token == .dedent

/-- Turn the soft keywords that are used as names into names. -/
def resolveKeywords : (atStart : Bool) → List Lexeme → List Lexeme
  | _, [] => []
  | atStart, lexeme :: rest =>
    let isKeyword := match lexeme.token with
      | .keyword "match" | .keyword "case" => atStart && introducesBlock rest 0 true false
      | .keyword "type" => atStart && introducesAlias rest
      | _ => true
    let resolved := match lexeme.token with
      | .keyword word => if isKeyword then lexeme else { lexeme with token := .name word }
      | _ => lexeme
    resolved :: resolveKeywords (endsLine lexeme.token) rest

end Lexeme

end Callwise
