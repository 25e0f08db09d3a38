/-!
# Strings of a settings file

A string has four styles. In the two basic styles a backslash starts an escape; in the two literal
styles every character stands for itself. Both come on one line in single quotes and over several
lines in triple quotes. `writeText` takes the plainest style that can hold the string, and the
readers, which start behind the opening quotes, take every string of their style.
-/

namespace Callwise.Toml

/-! ### Characters -/

/-- A blank inside a line. -/
def isBlank (c : Char) : Bool := c == ' ' || c == '\t'

/-- A control character other than the tab and the line feed. It never stands for itself. -/
def isControl (c : Char) : Bool :=
  (c.toNat < 0x20 || c.toNat == 0x7f) && c != '\t' && c != '\n'

/-- A character that can stand for itself inside a line. -/
def isPlain (c : Char) : Bool := !isControl c && c != '\n'

/-- The value of a hexadecimal digit. -/
def hexValue? (c : Char) : Option Nat :=
  if '0' ≤ c && c ≤ '9' then some (c.toNat - '0'.toNat)
  else if 'a' ≤ c && c ≤ 'f' then some (c.toNat - 'a'.toNat + 10)
  else if 'A' ≤ c && c ≤ 'F' then some (c.toNat - 'A'.toNat + 10)
  else none

/-- The number that hexadecimal digits stand for. -/
def hexNumber? (digits : List Char) : Option Nat :=
  digits.foldlM (fun value c => (hexValue? c).map fun digit => 16 * value + digit) 0

/-- The character with this number in hexadecimal digits. -/
def codePoint? (digits : List Char) : Option Char := do
  let value ← hexNumber? digits
  if value.isValidChar then some (Char.ofNat value) else none

/-- The character that a backslash and one more character stand for. -/
def shortEscape? : Char → Option Char
  | 'b' => some '\x08'
  | 't' => some '\t'
  | 'n' => some '\n'
  | 'f' => some '\x0c'
  | 'r' => some '\r'
  | '\x22' => some '\x22'
  | '\x5c' => some '\x5c'
  | _ => none

/-! ### Reading -/

/-- A string's characters and the text behind it. -/
abbrev TextAndRest := List Char × List Char

/-- Put a character in front. -/
def TextAndRest.push (c : Char) (result : TextAndRest) : TextAndRest := (c :: result.1, result.2)

/-- The rest of a string between double quotes. -/
def basicText : List Char → Option TextAndRest
  | [] => none
  | '\x22' :: rest => some ([], rest)
  | '\x5c' :: 'u' :: a :: b :: c :: d :: rest => do
    let decoded ← codePoint? [a, b, c, d]
    (basicText rest).map (.push decoded)
  | '\x5c' :: 'U' :: a :: b :: c :: d :: e :: f :: g :: h :: rest => do
    let decoded ← codePoint? [a, b, c, d, e, f, g, h]
    (basicText rest).map (.push decoded)
  | '\x5c' :: mark :: rest => do
    let decoded ← shortEscape? mark
    (basicText rest).map (.push decoded)
  | c :: rest => if c != '\x5c' && isPlain c then (basicText rest).map (.push c) else none

/-- The rest of a string between apostrophes. -/
def literalText : List Char → Option TextAndRest
  | [] => none
  | '\x27' :: rest => some ([], rest)
  | c :: rest => if isPlain c then (literalText rest).map (.push c) else none

/-- A line ends here. -/
def startsWithLineEnd : List Char → Bool
  | '\n' :: _ | '\r' :: '\n' :: _ => true
  | _ => false

/-- Without one line end. -/
def dropLineEnd : List Char → List Char
  | '\n' :: rest => rest
  | '\r' :: '\n' :: rest => rest
  | text => text

/-- The rest of a string between triple double quotes. Up to two quotes in front of the closing ones
belong to the string. A backslash at the end of a line drops the line end and all blanks and line
ends behind it; the flag says that they are being dropped. -/
def multiBasicText : (isDropping : Bool) → List Char → Option TextAndRest
  | _, [] => none
  | _, '\x22' :: '\x22' :: '\x22' :: '\x22' :: '\x22' :: rest => some (['\x22', '\x22'], rest)
  | _, '\x22' :: '\x22' :: '\x22' :: '\x22' :: rest => some (['\x22'], rest)
  | _, '\x22' :: '\x22' :: '\x22' :: rest => some ([], rest)
  | _, '\x5c' :: 'u' :: a :: b :: c :: d :: rest => do
    let decoded ← codePoint? [a, b, c, d]
    (multiBasicText false rest).map (.push decoded)
  | _, '\x5c' :: 'U' :: a :: b :: c :: d :: e :: f :: g :: h :: rest => do
    let decoded ← codePoint? [a, b, c, d, e, f, g, h]
    (multiBasicText false rest).map (.push decoded)
  | _, '\x5c' :: mark :: rest =>
    if startsWithLineEnd ((mark :: rest).dropWhile isBlank) then multiBasicText true rest
    else do
      let decoded ← shortEscape? mark
      (multiBasicText false rest).map (.push decoded)
  | isDropping, '\r' :: '\n' :: rest =>
    if isDropping then multiBasicText true rest
    else (multiBasicText false rest).map (.push '\n')
  | isDropping, c :: rest =>
    if isDropping && (isBlank c || c == '\n') then multiBasicText true rest
    else if c != '\x5c' && !isControl c then (multiBasicText false rest).map (.push c)
    else none

/-- The rest of a string between triple apostrophes. Up to two apostrophes in front of the closing
ones belong to the string. -/
def multiLiteralText : List Char → Option TextAndRest
  | [] => none
  | '\x27' :: '\x27' :: '\x27' :: '\x27' :: '\x27' :: rest => some (['\x27', '\x27'], rest)
  | '\x27' :: '\x27' :: '\x27' :: '\x27' :: rest => some (['\x27'], rest)
  | '\x27' :: '\x27' :: '\x27' :: rest => some ([], rest)
  | '\r' :: '\n' :: rest => (multiLiteralText rest).map (.push '\n')
  | c :: rest => if isControl c then none else (multiLiteralText rest).map (.push c)

/-- A string of any style. A line end behind opening triple quotes is dropped. -/
def readText? : List Char → Option TextAndRest
  | '\x22' :: '\x22' :: '\x22' :: rest => multiBasicText false (dropLineEnd rest)
  | '\x22' :: rest => basicText rest
  | '\x27' :: '\x27' :: '\x27' :: rest => multiLiteralText (dropLineEnd rest)
  | '\x27' :: rest => literalText rest
  | _ => none

/-! ### Writing -/

/-- The style in which a string is written. -/
inductive TextStyle where
  | basic
  | literal
  | multiBasic
  | multiLiteral
  deriving DecidableEq, Repr, Inhabited

/-- The length of the longest run of a character, when a run of the given length comes before. -/
def longestRun (mark : Char) : (current : Nat) → List Char → Nat
  | current, [] => current
  | current, c :: rest =>
    if c == mark then longestRun mark (current + 1) rest
    else max current (longestRun mark 0 rest)

/-- The plainest style that holds a text: one without escapes if there is one, on one line rather
than on several. -/
def TextStyle.ofText (text : List Char) : TextStyle :=
  let needsEscape := text.any isControl
  let hasBackslash := text.contains '\x5c'
  let hasLineEnd := text.contains '\n'
  let quotes := longestRun '\x22' 0 text
  let apostrophes := longestRun '\x27' 0 text
  if !needsEscape && !hasBackslash && quotes == 0 && !hasLineEnd then .basic
  else if !needsEscape && apostrophes == 0 && !hasLineEnd then .literal
  else if !needsEscape && !hasBackslash && quotes ≤ 2 then .multiBasic
  else if !needsEscape && apostrophes ≤ 2 then .multiLiteral
  else if hasLineEnd then .multiBasic
  else .basic

/-- A hexadecimal digit. -/
def hexDigit (value : Nat) : Char := (Nat.digitChar value).toUpper

/-- A character in a basic style. -/
def escaped (c : Char) : List Char :=
  match c with
  | '\x08' => ['\x5c', 'b']
  | '\t' => ['\x5c', 't']
  | '\n' => ['\x5c', 'n']
  | '\x0c' => ['\x5c', 'f']
  | '\r' => ['\x5c', 'r']
  | '\x22' => ['\x5c', '\x22']
  | '\x5c' => ['\x5c', '\x5c']
  | c =>
    if isControl c then
      ['\x5c', 'u', '0', '0', hexDigit (c.toNat / 16), hexDigit (c.toNat % 16)]
    else [c]

/-- A text between triple double quotes. Line feeds stand for themselves, and so do quotes, but not
three of them side by side. -/
def escapedLines : (quotes : Nat) → List Char → List Char
  | _, [] => []
  | quotes, c :: rest =>
    if c == '\x22' && quotes < 2 then c :: escapedLines (quotes + 1) rest
    else if c == '\n' then c :: escapedLines 0 rest
    else escaped c ++ escapedLines 0 rest

/-- The line end that opens a text of several lines. -/
def openingLineEnd (text : List Char) : List Char := if text.contains '\n' then ['\n'] else []

/-- A text in the given style. -/
def TextStyle.write (text : List Char) : TextStyle → List Char
  | .basic => ['\x22'] ++ text.flatMap escaped ++ ['\x22']
  | .literal => ['\x27'] ++ text ++ ['\x27']
  | .multiBasic =>
    ['\x22', '\x22', '\x22'] ++ openingLineEnd text ++ escapedLines 0 text
      ++ ['\x22', '\x22', '\x22']
  | .multiLiteral =>
    ['\x27', '\x27', '\x27'] ++ openingLineEnd text ++ text ++ ['\x27', '\x27', '\x27']

/-- A text in its plainest style. -/
def writeText (text : List Char) : List Char := (TextStyle.ofText text).write text

end Callwise.Toml
