import Callwise.Source.CharName
import Callwise.Source.Scanner

/-!
# The text of string literals

A string literal is read in two ways. `StringLiteral.decode` replaces its escape sequences.
`StringLiteral.interpolations` finds the expressions between the braces of a formatted string,
including those in format specifications, with the offsets at which they begin. Braces inside a
format specification may be nested once and no deeper.
-/

namespace Callwise.StringLiteral

/-! ### Escape sequences -/

/-- The character for a code point in an escape sequence. Halves of surrogate pairs become the
replacement character, and what lies beyond Unicode is refused. -/
def charOfCode? (code : Nat) : Option Char :=
  if 0xD800 ≤ code && code ≤ 0xDFFF then some '\uFFFD'
  else if code ≤ 0x10FFFF then some (Char.ofNat code)
  else none

/-- The character that exactly `count` hexadecimal digits name. -/
def hexEscape? (count : Nat) (glyphs : List Glyph) : Option Char :=
  let digits := (glyphs.take count).map Glyph.char
  if digits.length == count && digits.all (Scan.isDigitOf 16) then
    charOfCode? (Scan.valueOf 16 digits)
  else none

/-- The character named in braces, and the number of glyphs that the name and its braces take up. -/
def namedEscape? (glyphs : List Glyph) : Option (Char × Nat) :=
  match glyphs with
  | ⟨'\x7b', _⟩ :: rest =>
    let name := Glyph.run (· != '\x7d') rest
    if name.length < rest.length then
      (CharName.find? name).map fun value => (value, name.length + 2)
    else none
  | _ => none

/-- The simple escapes: one letter for one character. -/
def simpleEscape? : Char → Option Char
  | '\\' => some '\\'
  | '\'' => some '\''
  | '"' => some '"'
  | 'a' => some '\x07'
  | 'b' => some '\x08'
  | 'f' => some '\x0c'
  | 'n' => some '\n'
  | 'r' => some '\r'
  | 't' => some '\t'
  | 'v' => some '\x0b'
  | _ => none

/-- What an escape sequence stands for, and the number of glyphs behind the backslash that it takes
up. An unknown escape stands for itself, backslash included. -/
def escape? (isBytes : Bool) (glyphs : List Glyph) : Option (List Char × Nat) :=
  match glyphs with
  | [] => none
  | ⟨char, _⟩ :: rest =>
    match simpleEscape? char with
    | some value => some ([value], 1)
    | none =>
      if Scan.isDigitOf 8 char then
        let digits := (Glyph.run (Scan.isDigitOf 8) glyphs).take 3
        some ([Char.ofNat (Scan.valueOf 8 digits)], digits.length)
      else if char == '\n' then some ([], 1)
      else if char == 'x' then (hexEscape? 2 rest).map fun value => ([value], 3)
      else if isBytes then
        if char.toNat < 0x80 then some (['\\', char], 1) else none
      else if char == 'u' then (hexEscape? 4 rest).map fun value => ([value], 5)
      else if char == 'U' then (hexEscape? 8 rest).map fun value => ([value], 9)
      else if char == 'N' then (namedEscape? rest).map fun (value, count) => ([value], count + 1)
      else some (['\\', char], 1)

/-- The value of a literal without interpolations. Bytes are ASCII characters and escapes. -/
def decode (style : StringStyle) (glyphs : List Glyph) : Except SyntaxFault (List Char) :=
  match glyphs with
  | [] => .ok []
  | ⟨char, span⟩ :: rest =>
    if char == '\\' && !style.isRaw then
      match escape? style.isBytes rest with
      | none => .error ⟨.malformedEscape, span.start⟩
      | some (value, count) => (decode style (rest.drop count)).map (value ++ ·)
    else if style.isBytes && 0x80 ≤ char.toNat then .error ⟨.unexpectedCharacter char, span.start⟩
    else (decode style rest).map (char :: ·)
termination_by glyphs.length
decreasing_by
  · simp only [List.length_drop, List.length_cons]
    omega
  · simp

/-! ### Interpolated expressions -/

/-- An expression between braces and the offset at which it begins. The type checker looks at the
value itself; an expression in a format specification only has to be well formed. -/
structure Interpolation where
  text : List Char
  offset : Nat
  inSpecification : Bool

/-- An expression being read, its characters in reverse. -/
structure Open where
  reversed : List Char
  offset : Nat
  /-- The brackets that are open inside the expression, the innermost first. -/
  brackets : List Char
  /-- An equals sign has ended the expression: its text is shown with its value. -/
  isShown : Bool

/-- An expression that begins at the offset. -/
def Open.start (offset : Nat) : Open := ⟨[], offset, [], false⟩

/-- Add a character. -/
def Open.push (expression : Open) (char : Char) : Open :=
  { expression with reversed := char :: expression.reversed }

/-- Nothing but blank space has been read. -/
def Open.isBlank (expression : Open) : Bool :=
  expression.reversed.all fun char => char == ' ' || char == '\t' || char == '\n' || char == '\x0c'

/-- The finished expression. -/
def Open.close (expression : Open) (inSpecification : Bool) : Interpolation :=
  ⟨expression.reversed.reverse, expression.offset, inSpecification⟩

/-- Where reading a formatted string stands. An inner expression stands in the format specification
of an outer one, which is still open. -/
inductive Place where
  | text
  | expression (current : Open)
  | quoted (quote : Char) (current : Open)
  | specification (outer : Open)
  | specificationText (outer : Open)
  | innerExpression (current outer : Open)
  | innerQuoted (quote : Char) (current outer : Open)
  | innerSpecification (current outer : Open)

/-- One step inside an expression. -/
inductive Step where
  /-- Go on inside the expression, passing over so many further glyphs. -/
  | stay (current : Open) (extra : Nat)
  /-- A string literal inside the expression begins. -/
  | quote (char : Char) (current : Open)
  /-- The format specification begins. -/
  | specify (current : Open)
  /-- The expression is complete. -/
  | done (current : Open)
  | fail

/-- The bracket that a closing bracket closes. -/
def openingOf? : Char → Option Char
  | ')' => some '('
  | ']' => some '['
  | '\x7d' => some '\x7b'
  | _ => none

/-- One character inside an expression. -/
def Open.step (current : Open) (char : Char) (rest : List Glyph) : Step :=
  let ahead := Glyph.char? rest
  let isOutermost := current.brackets.isEmpty
  if (char == '!' || char == '=' || char == '>' || char == '<') && ahead == some '=' then
    .stay ((current.push char).push '=') 1
  else if char == '!' && isOutermost then
    let behind := Glyph.char? (rest.drop 1)
    let isConversion := ahead == some 's' || ahead == some 'a' || ahead == some 'r'
    if !current.isBlank && isConversion && (behind == some '\x7d' || behind == some ':') then
      .stay current 1
    else .fail
  else if char == '=' && isOutermost then .stay { current with isShown := true } 0
  else if char == ':' && isOutermost then .specify current
  else if char == '(' || char == '[' || char == '\x7b' then
    .stay { current.push char with brackets := char :: current.brackets } 0
  else if char == '\x7d' && isOutermost then
    if current.isBlank then .fail else .done current
  else
    match openingOf? char with
    | some opening =>
      if current.brackets.head? == some opening then
        .stay { current.push char with brackets := current.brackets.tail } 0
      else .fail
    | none =>
      if char == '"' || char == '\'' then .quote char (current.push char)
      else if char == '\\' then .fail
      else if current.isShown then
        if char == ' ' then .stay current 0 else .fail
      else .stay (current.push char) 0

/-- The number of glyphs behind a backslash that an escape sequence in a formatted string takes up.
A backslash before a brace stands for itself and leaves the brace its meaning. -/
def textEscape? (glyphs : List Glyph) : Option Nat :=
  if Glyph.startsWith (fun char => char == '\x7b' || char == '\x7d') glyphs then some 0
  else (escape? false glyphs).map Prod.snd

/-- The interpolations from this place on, up to the end of the string. -/
def interpolations (isRaw : Bool) (place : Place) (glyphs : List Glyph) :
    Except SyntaxFault (List Interpolation) :=
  match glyphs with
  | [] =>
    match place with
    | .text => .ok []
    | _ => .error ⟨.malformedInterpolation, 0⟩
  | ⟨char, span⟩ :: rest =>
    let failure := .error ⟨.malformedInterpolation, span.start⟩
    match place with
    | .text =>
      if char == '\x7b' then
        if Glyph.startsWith (· == '\x7b') rest then interpolations isRaw .text (rest.drop 1)
        else interpolations isRaw (.expression (Open.start span.stop)) rest
      else if char == '\x7d' then
        if Glyph.startsWith (· == '\x7d') rest then interpolations isRaw .text (rest.drop 1)
        else failure
      else if char == '\\' && !isRaw then
        match textEscape? rest with
        | none => .error ⟨.malformedEscape, span.start⟩
        | some count => interpolations isRaw .text (rest.drop count)
      else interpolations isRaw .text rest
    | .expression current =>
      match current.step char rest with
      | .stay current extra => interpolations isRaw (.expression current) (rest.drop extra)
      | .quote char current => interpolations isRaw (.quoted char current) rest
      | .specify current => interpolations isRaw (.specification current) rest
      | .done current => (interpolations isRaw .text rest).map (current.close false :: ·)
      | .fail => failure
    | .quoted quote current =>
      if char == quote then interpolations isRaw (.expression (current.push char)) rest
      else interpolations isRaw (.quoted quote (current.push char)) rest
    | .specification outer =>
      if char == '\x7b' then
        interpolations isRaw (.innerExpression (Open.start span.stop) outer) rest
      else if char == '\x7d' then
        if outer.isBlank then failure
        else (interpolations isRaw .text rest).map (outer.close false :: ·)
      else interpolations isRaw (.specification outer) rest
    | .specificationText outer =>
      if char == '\x7b' then
        interpolations isRaw (.innerExpression (Open.start span.stop) outer) rest
      else if char == '\x7d' then
        if outer.isBlank then failure
        else (interpolations isRaw .text rest).map (outer.close false :: ·)
      else if char == '\\' && !isRaw then
        match textEscape? rest with
        | none => .error ⟨.malformedEscape, span.start⟩
        | some count => interpolations isRaw (.specificationText outer) (rest.drop count)
      else interpolations isRaw (.specificationText outer) rest
    | .innerExpression current outer =>
      match current.step char rest with
      | .stay current extra =>
        interpolations isRaw (.innerExpression current outer) (rest.drop extra)
      | .quote char current => interpolations isRaw (.innerQuoted char current outer) rest
      | .specify current => interpolations isRaw (.innerSpecification current outer) rest
      | .done current =>
        (interpolations isRaw (.specificationText outer) rest).map (current.close true :: ·)
      | .fail => failure
    | .innerQuoted quote current outer =>
      if char == quote then interpolations isRaw (.innerExpression (current.push char) outer) rest
      else interpolations isRaw (.innerQuoted quote (current.push char) outer) rest
    | .innerSpecification current outer =>
      if char == '\x7b' then failure
      else if char == '\x7d' then
        if current.isBlank then failure
        else (interpolations isRaw (.specificationText outer) rest).map (current.close true :: ·)
      else interpolations isRaw (.innerSpecification current outer) rest
termination_by glyphs.length
decreasing_by
  all_goals
    simp only [List.length_drop, List.length_cons]
    omega

end Callwise.StringLiteral
