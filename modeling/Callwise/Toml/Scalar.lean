/-!
# Numbers and points in time of a settings file

Whole numbers have 64 bits with a sign. Of a number with a fraction or an exponent, and of a point
in time, only the form and the range are looked at.
-/

namespace Callwise.Toml

/-! ### Digits -/

/-- More digits. An underscore stands between two digits only. -/
def moreDigits (isDigit : Char → Bool) : List Char → Option (List Char × List Char)
  | [] => some ([], [])
  | '_' :: [] => none
  | '_' :: c :: rest =>
    if isDigit c then (moreDigits isDigit rest).map fun (digits, after) => (c :: digits, after)
    else none
  | c :: rest =>
    if isDigit c then (moreDigits isDigit rest).map fun (digits, after) => (c :: digits, after)
    else some ([], c :: rest)

/-- One or more digits. -/
def someDigits (isDigit : Char → Bool) : List Char → Option (List Char × List Char)
  | [] => none
  | c :: rest =>
    if isDigit c then
      (moreDigits isDigit rest).map fun (digits, after) => (c :: digits, after)
    else none

/-- The digits of a decimal number: zero, or digits of which the first is not zero. -/
def decimalDigits : List Char → Option (List Char × List Char)
  | '0' :: rest => some (['0'], rest)
  | text => someDigits Char.isDigit text

/-- The number of a digit up to `f`. -/
def digitValue (c : Char) : Nat :=
  if c.isDigit then c.toNat - '0'.toNat
  else if c.isLower then c.toNat - 'a'.toNat + 10
  else c.toNat - 'A'.toNat + 10

/-- The number that digits stand for. -/
def digitsValue (base : Nat) (digits : List Char) : Nat :=
  digits.foldl (fun value c => base * value + digitValue c) 0

/-- The sign and the text behind it. -/
def readSign : List Char → Bool × List Char
  | '-' :: rest => (true, rest)
  | '+' :: rest => (false, rest)
  | text => (false, text)

/-! ### Whole numbers -/

/-- The number with this sign, if 64 bits hold it. -/
def signed? (isNegative : Bool) (value : Nat) : Option Int :=
  if isNegative then if value ≤ Nat.pow 2 63 then some (-(value : Int)) else none
  else if value < Nat.pow 2 63 then some value else none

/-- A number in another base than ten. -/
def basedInteger (base : Nat) (isDigit : Char → Bool) (text : List Char) :
    Option (Int × List Char) := do
  let (digits, rest) ← someDigits isDigit text
  let value ← signed? false (digitsValue base digits)
  some (value, rest)

/-- A hexadecimal digit. -/
def isHexDigit (c : Char) : Bool := c.isDigit || ('a' ≤ c && c ≤ 'f') || ('A' ≤ c && c ≤ 'F')

/-- An octal digit. -/
def isOctalDigit (c : Char) : Bool := '0' ≤ c && c ≤ '7'

/-- A binary digit. -/
def isBinaryDigit (c : Char) : Bool := c == '0' || c == '1'

/-- A whole number. -/
def integer? : List Char → Option (Int × List Char)
  | '0' :: 'x' :: rest => basedInteger 16 isHexDigit rest
  | '0' :: 'o' :: rest => basedInteger 8 isOctalDigit rest
  | '0' :: 'b' :: rest => basedInteger 2 isBinaryDigit rest
  | text => do
    let (isNegative, unsigned) := readSign text
    let (digits, rest) ← decimalDigits unsigned
    let value ← signed? isNegative (digitsValue 10 digits)
    some (value, rest)

/-! ### Numbers with a fraction -/

/-- An exponent with its sign. -/
def exponent? : List Char → Option (Int × List Char)
  | 'e' :: rest | 'E' :: rest => do
    let (isNegative, unsigned) := readSign rest
    let (digits, after) ← someDigits Char.isDigit unsigned
    let value : Int := digitsValue 10 digits
    some (if isNegative then -value else value, after)
  | _ => none

/-- The decimal number `significand * 10 ^ exponent` rounds to no finite double. The least number
that does so lies half a unit above the largest double. -/
def overflows (significand : Nat) (exponent : Int) : Bool :=
  let limit := Nat.pow 2 1024 - Nat.pow 2 970
  let magnitude := (Nat.toDigits 10 significand).length + exponent
  if significand == 0 || magnitude < 300 then false
  else if 400 < magnitude then true
  else if 0 ≤ exponent then limit ≤ significand * Nat.pow 10 exponent.toNat
  else limit * Nat.pow 10 (-exponent).toNat ≤ significand

/-- A number with a fraction or an exponent, behind its sign. A number that is too large is refused,
unless it is negative. -/
def float? (text : List Char) : Option (List Char) := do
  let (isNegative, unsigned) := readSign text
  let (whole, rest) ← decimalDigits unsigned
  let (fraction, exponent, after) ← match rest with
    | '.' :: behind => do
      let (fraction, behind) ← someDigits Char.isDigit behind
      match behind with
      | 'e' :: _ | 'E' :: _ => (exponent? behind).map fun (value, after) => (fraction, value, after)
      | _ => some (fraction, 0, behind)
    | _ => (exponent? rest).map fun (value, after) => ([], value, after)
  let significand := digitsValue 10 (whole ++ fraction)
  if !isNegative && overflows significand (exponent - fraction.length) then none else some after

/-- An infinity, or what is no number. -/
def specialFloat? (text : List Char) : Option (List Char) :=
  match (readSign text).2 with
  | 'i' :: 'n' :: 'f' :: rest | 'n' :: 'a' :: 'n' :: rest => some rest
  | _ => none

/-! ### Points in time -/

/-- Two digits that stand for a number within these bounds. -/
def twoDigits (least most : Nat) : List Char → Option (Nat × List Char)
  | a :: b :: rest =>
    let value := digitsValue 10 [a, b]
    if a.isDigit && b.isDigit && least ≤ value && value ≤ most then some (value, rest) else none
  | _ => none

/-- Four digits. -/
def fourDigits : List Char → Option (Nat × List Char)
  | a :: b :: c :: d :: rest =>
    if [a, b, c, d].all Char.isDigit then some (digitsValue 10 [a, b, c, d], rest) else none
  | _ => none

/-- The text behind this character. -/
def after? (c : Char) : List Char → Option (List Char)
  | first :: rest => if first == c then some rest else none
  | [] => none

/-- The number of days of a month. -/
def daysOfMonth (year month : Nat) : Nat :=
  if month == 2 then
    if year % 4 == 0 && (year % 100 != 0 || year % 400 == 0) then 29 else 28
  else if [4, 6, 9, 11].contains month then 30
  else 31

/-- A date. -/
def date? (text : List Char) : Option (List Char) := do
  let (year, rest) ← fourDigits text
  let (month, rest) ← twoDigits 1 12 (← after? '-' rest)
  let (_, rest) ← twoDigits 1 (daysOfMonth year month) (← after? '-' rest)
  some rest

/-- A time of the day, possibly with a fraction of a second. -/
def time? (text : List Char) : Option (List Char) := do
  let (_, rest) ← twoDigits 0 23 text
  let (_, rest) ← twoDigits 0 59 (← after? ':' rest)
  let (_, rest) ← twoDigits 0 60 (← after? ':' rest)
  match rest with
  | '.' :: fraction =>
    if (fraction.takeWhile Char.isDigit).isEmpty then some rest
    else some (fraction.dropWhile Char.isDigit)
  | _ => some rest

/-- The difference of a time zone. -/
def offset? : List Char → Option (List Char)
  | 'Z' :: rest | 'z' :: rest => some rest
  | '+' :: rest | '-' :: rest => do
    let (_, rest) ← twoDigits 0 23 rest
    let (_, rest) ← twoDigits 0 59 (← after? ':' rest)
    some rest
  | _ => none

/-- A date, a time, or a date with a time and possibly a time zone. -/
def moment? (text : List Char) : Option (List Char) :=
  match date? text with
  | none => time? text
  | some afterDate =>
    let timed := match afterDate with
      | 'T' :: rest | 't' :: rest | ' ' :: rest => time? rest
      | _ => none
    match timed with
    | none => some afterDate
    | some afterTime => some ((offset? afterTime).getD afterTime)

end Callwise.Toml
