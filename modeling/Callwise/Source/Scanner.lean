import Callwise.Source.NameChar
import Callwise.Source.Token

/-!
# From text to tokens

The text becomes a list of glyphs, characters with their place, in which every line end is one
line feed however it is written. Scanning then takes one token after the other: at the beginning
of a line it compares the indentation with the enclosing ones, and elsewhere the first glyph says
what kind of token follows. Every step consumes at least one glyph, so scanning ends.
-/

namespace Callwise

/-- A character and the bytes it takes up. A line end written as two characters is one glyph. -/
structure Glyph where
  char : Char
  span : Span
  deriving Repr, Inhabited

namespace Glyph

/-- The glyphs of a text that begins at the given offset. -/
def ofChars (offset : Nat) : List Char → List Glyph
  | [] => []
  | '\r' :: '\n' :: rest => ⟨'\n', offset, offset + 2⟩ :: ofChars (offset + 2) rest
  | '\r' :: rest => ⟨'\n', offset, offset + 1⟩ :: ofChars (offset + 1) rest
  | char :: rest =>
    ⟨char, offset, offset + char.utf8Size⟩ :: ofChars (offset + char.utf8Size) rest

/-- The characters of the longest beginning whose characters satisfy the condition. -/
def run (condition : Char → Bool) : List Glyph → List Char
  | [] => []
  | glyph :: rest => if condition glyph.char then glyph.char :: run condition rest else []

/-- The first character. -/
def char? (glyphs : List Glyph) : Option Char := glyphs.head?.map Glyph.char

/-- The first character satisfies the condition. -/
def startsWith (condition : Char → Bool) (glyphs : List Glyph) : Bool :=
  (char? glyphs).any condition

end Glyph

/-- What a scanning step found: a token, if it is not blank space, and how many glyphs behind the
first it takes up. -/
structure Scan where
  token : Option Token
  extra : Nat

namespace Scan

/-! ### Numbers -/

/-- The digits of a number in some base, without the underscores that may stand between two of
them, and the number of glyphs they take up. -/
def digits (isDigit : Char → Bool) : List Glyph → List Char × Nat
  | [] => ([], 0)
  | glyph :: rest =>
    if isDigit glyph.char then
      let (found, count) := digits isDigit rest
      (glyph.char :: found, count + 1)
    else if glyph.char == '_' && Glyph.startsWith isDigit rest then
      let (found, count) := digits isDigit rest
      (found, count + 1)
    else ([], 0)

/-- The value of a hexadecimal digit. -/
def digitValue? (char : Char) : Option Nat :=
  if char.isDigit then some (char.toNat - '0'.toNat)
  else if 'a' ≤ char && char ≤ 'f' then some (char.toNat - 'a'.toNat + 10)
  else if 'A' ≤ char && char ≤ 'F' then some (char.toNat - 'A'.toNat + 10)
  else none

/-- The character is a digit in the base. -/
def isDigitOf (base : Nat) (char : Char) : Bool := (digitValue? char).any (· < base)

/-- The number that digits spell. -/
def valueOf (base : Nat) (digits : List Char) : Nat :=
  digits.foldl (fun value digit => value * base + (digitValue? digit).getD 0) 0

/-- The base that a letter behind a leading zero announces. -/
def baseOf? (letter : Char) : Option Nat :=
  match letter.toLower with
  | 'x' => some 16
  | 'o' => some 8
  | 'b' => some 2
  | _ => none

/-- An exponent with at least one digit follows. -/
def atExponent (glyphs : List Glyph) : Bool :=
  match glyphs.map Glyph.char with
  | letter :: sign :: digit :: _ =>
    letter.toLower == 'e' && (sign.isDigit || ((sign == '+' || sign == '-') && digit.isDigit))
  | [letter, digit] => letter.toLower == 'e' && digit.isDigit
  | _ => false

/-- An integer in the announced base. Its digits start behind the letter. -/
def basedNumber (base : Nat) (glyphs : List Glyph) (offset : Nat) : Except SyntaxFault Scan :=
  match digits (isDigitOf base) glyphs with
  | ([], _) => .error ⟨.malformedNumber, offset⟩
  | (found, count) => .ok ⟨some (.int (valueOf base found)), 1 + count⟩

/-- The fraction of a number: a point and digits, of which the first must not be an underscore. -/
def fraction (glyphs : List Glyph) (offset : Nat) : Except SyntaxFault (List Char × Nat) :=
  match glyphs with
  | ⟨'.', _⟩ :: rest =>
    if Glyph.startsWith (· == '_') rest then .error ⟨.malformedNumber, offset⟩
    else
      let (found, count) := digits Char.isDigit rest
      .ok (found, count + 1)
  | _ => .ok ([], 0)

/-- The exponent of a number that has begun with its letter; it needs a digit. -/
def exponent (glyphs : List Glyph) (offset : Nat) : Except SyntaxFault Nat :=
  match glyphs with
  | letter :: rest =>
    if letter.char.toLower != 'e' then .ok 0
    else
      let signed := Glyph.startsWith (fun char => char == '+' || char == '-') rest
      let behindSign := if signed then rest.drop 1 else rest
      if Glyph.startsWith (· == '_') behindSign then .error ⟨.malformedNumber, offset⟩
      else
        match digits Char.isDigit behindSign with
        | ([], _) => .error ⟨.malformedNumber, offset⟩
        | (_, count) => .ok (1 + (if signed then 1 else 0) + count)
  | [] => .ok 0

/-- The token of a number that is not an integer, with the glyphs it takes up. A letter `j` makes it
imaginary. -/
def realNumber (rest : List Glyph) (count : Nat) : Scan :=
  if Glyph.startsWith (fun char => char.toLower == 'j') rest then ⟨some .imaginary, count⟩
  else ⟨some .float, count - 1⟩

/-- A number in base ten, with or without fraction and exponent. An integer other than zero has no
leading zero. -/
def decimalNumber (glyphs : List Glyph) (offset : Nat) : Except SyntaxFault Scan :=
  let (whole, wholeCount) := digits Char.isDigit glyphs
  let behindWhole := glyphs.drop wholeCount
  if Glyph.startsWith (· == '.') behindWhole || atExponent (behindWhole.take 3) then do
    let (_, fractionCount) ← fraction behindWhole offset
    let behindFraction := behindWhole.drop fractionCount
    let exponentCount ← exponent behindFraction offset
    .ok (realNumber (behindFraction.drop exponentCount)
      (wholeCount + fractionCount + exponentCount))
  else if Glyph.startsWith (fun char => char.toLower == 'j') behindWhole then
    .ok ⟨some .imaginary, wholeCount⟩
  else
    let value := valueOf 10 whole
    if whole.head? == some '0' && value != 0 then .error ⟨.malformedNumber, offset⟩
    else .ok ⟨some (.int value), wholeCount - 1⟩

/-- A number. -/
def number (glyphs : List Glyph) (offset : Nat) : Except SyntaxFault Scan :=
  match glyphs with
  | ⟨'0', _⟩ :: letter :: rest =>
    match baseOf? letter.char with
    | some base => basedNumber base rest offset
    | none => decimalNumber glyphs offset
  | _ => decimalNumber glyphs offset

/-! ### Strings -/

/-- Both of the next characters are the quote. -/
def atTwoQuotes (quote : Char) : List Glyph → Bool
  | first :: second :: _ => first.char == quote && second.char == quote
  | _ => false

/-- The text of a string literal up to its closing quotes, and the number of glyphs up to and
including them. A backslash protects the character behind it. -/
def stringBody (quote : Char) (isTriple : Bool) : List Glyph → Option (List Char × Nat)
  | [] => none
  | ⟨'\\', _⟩ :: escaped :: rest =>
    (stringBody quote isTriple rest).map fun (body, count) =>
      ('\\' :: escaped.char :: body, count + 2)
  | glyph :: rest =>
    if glyph.char == '\n' && !isTriple then none
    else if glyph.char == quote && !isTriple then some ([], 1)
    else if glyph.char == quote && atTwoQuotes quote rest then some ([], 3)
    else (stringBody quote isTriple rest).map fun (body, count) => (glyph.char :: body, count + 1)

/-- A string literal. `letters` glyphs stand before the opening quote, which is the first of
`glyphs`. -/
def stringLiteral (style : StringStyle) (letters : Nat) (glyphs : List Glyph) (offset : Nat) :
    Except SyntaxFault Scan :=
  match glyphs with
  | [] => .error ⟨.unclosedString, offset⟩
  | opening :: rest =>
    let isTriple := atTwoQuotes opening.char rest
    let quotes := if isTriple then 3 else 1
    match stringBody opening.char isTriple (rest.drop (quotes - 1)) with
    | none => .error ⟨.unclosedString, offset⟩
    | some (body, count) =>
      .ok ⟨some (.string style body (offset + letters + quotes)), letters + quotes + count - 1⟩

/-- The character opens a string literal. -/
def isQuote (char : Char) : Bool := char == '"' || char == '\''

/-- The style of a string literal that begins here with letters, and their number. -/
def stringStart? : List Glyph → Option (StringStyle × Nat)
  | first :: second :: rest =>
    if isQuote second.char then (StringStyle.ofLetter? first.char).map (·, 1)
    else if Glyph.startsWith isQuote rest then
      (StringStyle.ofLetters? first.char second.char).map (·, 2)
    else none
  | _ => none

/-- A name, a keyword, or a string literal with letters before it. -/
def word (glyphs : List Glyph) (offset : Nat) : Except SyntaxFault Scan :=
  match stringStart? glyphs with
  | some (style, letters) => stringLiteral style letters (glyphs.drop letters) offset
  | none =>
    let text := Glyph.run NameChar.isContinue glyphs
    .ok ⟨some (Token.ofWord (String.ofList text)), text.length - 1⟩

/-! ### Symbols -/

/-- The symbols, the longer ones first. -/
def symbols : List (List Char) :=
  ["**=", "//=", ">>=", "<<=", "...", "==", "!=", "<=", ">=", "<<", ">>", "**", "//", "+=", "-=",
   "*=", "/=", "%=", "&=", "|=", "^=", "@=", "->", ":=", "+", "-", "*", "/", "%", "&", "|", "^",
   "~", "<", ">", "(", ")", "[", "]", "\x7b", "\x7d", ",", ":", ".", ";", "@", "="].map
    String.toList

/-- The longest symbol that begins here. -/
def symbol? (glyphs : List Glyph) : Option (List Char) :=
  let ahead := (glyphs.take 3).map Glyph.char
  symbols.find? fun symbol => symbol.isPrefixOf ahead

/-- The token that begins with the first glyph, at this depth of nesting. -/
def next (first : Glyph) (rest : List Glyph) (nesting : Nat) : Except SyntaxFault Scan :=
  let glyphs := first :: rest
  let offset := first.span.start
  let char := first.char
  if NameChar.isStart char then word glyphs offset
  else if char.isDigit || (char == '.' && Glyph.startsWith Char.isDigit rest) then
    number glyphs offset
  else if char == '#' then .ok ⟨none, (Glyph.run (· != '\n') rest).length⟩
  else if isQuote char then stringLiteral {} 0 glyphs offset
  else if char == '\n' then .ok ⟨if nesting == 0 then some .newline else none, 0⟩
  else if char == ' ' || char == '\t' || char == '\x0c' then .ok ⟨none, 0⟩
  else if char == '\\' then
    match rest with
    | ⟨'\n', _⟩ :: _ :: _ => .ok ⟨none, 1⟩
    | [⟨'\n', _⟩] => .error ⟨.unexpectedEnd, offset⟩
    | _ => .error ⟨.strayBackslash, offset⟩
  else
    match symbol? glyphs with
    | some symbol => .ok ⟨some (.symbol (String.ofList symbol)), symbol.length - 1⟩
    | none =>
      if NameChar.isPicture char then .ok ⟨some (.name (String.singleton char)), 0⟩
      else .error ⟨.unexpectedCharacter char, offset⟩

end Scan

/-! ### Indentation -/

/-- The tabs and spaces before the first token of a line. Tabs come first. -/
structure Indentation where
  tabs : Nat
  spaces : Nat
  deriving DecidableEq, Repr, Inhabited

namespace Indentation

/-- Compare two indentations whatever the width of a tab; there is no answer if that matters. -/
def compare? (left right : Indentation) : Option Ordering :=
  if left.tabs < right.tabs then
    if left.spaces ≤ right.spaces then some .lt else none
  else if right.tabs < left.tabs then
    if right.spaces ≤ left.spaces then some .gt else none
  else some (compare left.spaces right.spaces)

/-- The indentation of the next line that holds a token, and the glyphs from that token on. Blank
lines and comments are passed over, and a form feed starts the line anew. -/
def read (current : Indentation) (inComment : Bool) :
    List Glyph → Except SyntaxFault (Indentation × List Glyph)
  | [] => .ok (⟨0, 0⟩, [])
  | glyph :: rest =>
    if glyph.char == '\n' then read ⟨0, 0⟩ false rest
    else if inComment then read current true rest
    else if glyph.char == ' ' then read { current with spaces := current.spaces + 1 } false rest
    else if glyph.char == '\t' then
      if current.spaces == 0 then read { current with tabs := current.tabs + 1 } false rest
      else .error ⟨.inconsistentIndentation, glyph.span.start⟩
    else if glyph.char == '\x0c' then read ⟨0, 0⟩ false rest
    else if glyph.char == '#' then read current true rest
    else .ok (current, glyph :: rest)

/-- Reading the indentation leaves no more glyphs than there were. -/
theorem read_length {current : Indentation} {inComment : Bool} {glyphs rest : List Glyph}
    {found : Indentation} (success : read current inComment glyphs = .ok (found, rest)) :
    rest.length ≤ glyphs.length := by
  induction glyphs generalizing current inComment with
  | nil =>
    simp only [read, Except.ok.injEq, Prod.mk.injEq] at success
    simp [← success.2]
  | cons glyph others ih =>
    simp only [read] at success
    have later : ∀ {current inComment}, read current inComment others = .ok (found, rest) →
        rest.length ≤ (glyph :: others).length := fun read =>
      Nat.le_succ_of_le (ih read)
    split at success
    · exact later success
    · split at success
      · exact later success
      · split at success
        · exact later success
        · split at success
          · split at success
            · exact later success
            · cases success
          · split at success
            · exact later success
            · split at success
              · exact later success
              · simp only [Except.ok.injEq, Prod.mk.injEq] at success
                simp [← success.2]

/-- Leave the enclosing indentations that are deeper than the present one. The answer has the
number left and those that remain; one of them has to be equal to the present one. -/
def leave (current : Indentation) : List Indentation → Option (Nat × List Indentation)
  | [] => none
  | enclosing :: outer =>
    match compare? current enclosing with
    | some .lt => (leave current outer).map fun (count, remaining) => (count + 1, remaining)
    | some .eq => some (0, enclosing :: outer)
    | _ => none

/-- The tokens for a line with this indentation inside the enclosing ones, the innermost first, and
the indentations around the line. -/
def enter (current : Indentation) (enclosing : List Indentation) :
    Option (List Token × List Indentation) :=
  match enclosing with
  | [] => none
  | innermost :: _ =>
    match compare? current innermost with
    | some .eq => some ([], enclosing)
    | some .gt => some ([.indent], current :: enclosing)
    | some .lt =>
      (leave current enclosing).map fun (count, remaining) =>
        (List.replicate count .dedent, remaining)
    | none => none

end Indentation

/-! ### Whole texts -/

/-- Where scanning stands: the enclosing indentations, the depth of open brackets, and whether a
line begins here. -/
structure Scanner where
  enclosing : List Indentation := [⟨0, 0⟩]
  nesting : Nat := 0
  atLineStart : Bool := true

namespace Scanner

/-- The depth of nesting behind a token; a bracket that closes nothing is a fault. -/
def nestingAfter? (nesting : Nat) (token : Token) : Option Nat :=
  match token.nesting with
  | 1 => some (nesting + 1)
  | -1 => if nesting == 0 then none else some (nesting - 1)
  | _ => some nesting

/-- The tokens at the end of the text: the line ends and every indentation is left. -/
def finish (scanner : Scanner) (stop : Nat) : Except SyntaxFault (List Lexeme) :=
  if 0 < scanner.nesting then .error ⟨.unexpectedEnd, stop⟩
  else
    let lineEnd := if scanner.atLineStart then [] else [Token.newline]
    let dedents := List.replicate (scanner.enclosing.length - 1) Token.dedent
    .ok ((lineEnd ++ dedents).map fun token => ⟨token, stop, stop⟩)

/-- The blank part of a line that begins here: tokens for the change of indentation, the scanner
behind it, and the glyphs from the first token on. -/
def beginLine (scanner : Scanner) (glyphs : List Glyph) (stop : Nat) :
    Except SyntaxFault (List Lexeme × Scanner × List Glyph) :=
  if !scanner.atLineStart then .ok ([], scanner, glyphs)
  else
    match Indentation.read ⟨0, 0⟩ false glyphs with
    | .error failure => .error failure
    | .ok (indentation, rest) =>
      let offset := (rest.head?.map fun glyph => glyph.span.start).getD stop
      match indentation.enter scanner.enclosing with
      | none => .error ⟨.inconsistentIndentation, offset⟩
      | some (tokens, enclosing) =>
        .ok (tokens.map fun token => ⟨token, offset, offset⟩,
          { scanner with enclosing, atLineStart := rest.isEmpty }, rest)

/-- Beginning a line leaves no more glyphs than there were. -/
theorem beginLine_length {scanner next : Scanner} {glyphs rest : List Glyph} {stop : Nat}
    {lexemes : List Lexeme}
    (success : scanner.beginLine glyphs stop = .ok (lexemes, next, rest)) :
    rest.length ≤ glyphs.length := by
  unfold beginLine at success
  split at success
  · simp only [Except.ok.injEq, Prod.mk.injEq] at success
    simp [← success.2.2]
  · split at success
    · cases success
    · rename_i found others readIndentation
      simp only at success
      split at success
      · cases success
      · simp only [Except.ok.injEq, Prod.mk.injEq] at success
        rw [← success.2.2]
        exact Indentation.read_length readIndentation

/-- The tokens of the glyphs, in front of which those in `reversed` have been found. -/
def scan (scanner : Scanner) (stop : Nat) (glyphs : List Glyph) (reversed : List Lexeme) :
    Except SyntaxFault (List Lexeme) :=
  match _begun : scanner.beginLine glyphs stop with
  | .error failure => .error failure
  | .ok (leading, begun, []) =>
    (begun.finish stop).map fun closing => (leading.reverse ++ reversed).reverse ++ closing
  | .ok (leading, begun, first :: rest) =>
    match Scan.next first rest begun.nesting with
    | .error failure => .error failure
    | .ok ⟨none, extra⟩ => begun.scan stop (rest.drop extra) (leading.reverse ++ reversed)
    | .ok ⟨some token, extra⟩ =>
      match nestingAfter? begun.nesting token with
      | none => .error ⟨.unmatchedBracket, first.span.start⟩
      | some nesting =>
        let last := (rest.take extra).getLast?.getD first
        let lexeme : Lexeme := ⟨token, first.span.start, last.span.stop⟩
        let behind : Scanner :=
          { begun with nesting, atLineStart := begun.atLineStart || token == .newline }
        behind.scan stop (rest.drop extra) (lexeme :: leading.reverse ++ reversed)
termination_by glyphs.length
decreasing_by
  all_goals
    have shorter := beginLine_length _begun
    simp only [List.length_cons] at shorter
    simp only [List.length_drop]
    omega

end Scanner

/-- The tokens of a text that begins at the given offset. A byte order mark in front is passed
over. `isProgram` says that statements are expected, so that soft keywords may begin one. -/
def Lexeme.ofText (text : List Char) (offset : Nat) (isProgram : Bool) :
    Except SyntaxFault (List Lexeme) :=
  let glyphs := Glyph.ofChars offset text
  let behindMark := if Glyph.startsWith (· == '\uFEFF') glyphs then glyphs.drop 1 else glyphs
  let stop := (glyphs.getLast?.map fun glyph => glyph.span.stop).getD offset
  (Scanner.scan {} stop behindMark []).map (Lexeme.resolveKeywords isProgram)

end Callwise
