import Callwise.Source.CharName.Aliases
import Callwise.Source.CharName.Alphabets
import Callwise.Source.CharName.AncientScripts
import Callwise.Source.CharName.Cuneiform
import Callwise.Source.CharName.EastAsia
import Callwise.Source.CharName.FurtherScripts
import Callwise.Source.CharName.Hieroglyphs
import Callwise.Source.CharName.Notations
import Callwise.Source.CharName.Pictographs
import Callwise.Source.CharName.PresentationForms
import Callwise.Source.CharName.Row
import Callwise.Source.CharName.SouthAsia
import Callwise.Source.CharName.Symbols

/-!
# Characters by name

`CharName.find?` looks a character up by its name or alias in Unicode 16. Capital and small letters
are alike; blanks and hyphens count. Most names are listed in tables. The syllables of Hangul are
spelled from their letters, and an ideograph carries its code point in its name.
-/

namespace Callwise.CharName

/-! ### Syllables of Hangul -/

/-- The consonants with which a syllable begins, in the order of the code points. One is silent. -/
def initials : List String :=
  ["G", "GG", "N", "D", "DD", "R", "M", "B", "BB", "S", "SS", "", "J", "JJ", "C", "K", "T", "P",
    "H"]

/-- The vowels of syllables. -/
def medials : List String :=
  ["A", "AE", "YA", "YAE", "EO", "E", "YEO", "YE", "O", "WA", "WAE", "OE", "YO", "U", "WEO", "WE",
    "WI", "YU", "EU", "YI", "I"]

/-- The consonants with which a syllable ends, if it has any. -/
def finals : List String :=
  ["", "G", "GG", "GS", "N", "NJ", "NH", "D", "L", "LG", "LM", "LB", "LS", "LT", "LP", "LH", "M",
    "B", "BS", "S", "SS", "NG", "J", "C", "K", "T", "P", "H"]

/-- Letters that spell vowels. -/
def isVowel (char : Char) : Bool := "AEIOUWY".toList.contains char

/-- The syllable that letters spell: consonants, vowels, consonants. -/
def syllable? (letters : List Char) : Option Char := do
  let rest := letters.dropWhile (!isVowel ·)
  let initial ← initials.idxOf? (String.ofList (letters.takeWhile (!isVowel ·)))
  let medial ← medials.idxOf? (String.ofList (rest.takeWhile isVowel))
  let final ← finals.idxOf? (String.ofList (rest.dropWhile isVowel))
  pure (Char.ofNat (0xAC00 + (initial * medials.length + medial) * finals.length + final))

/-! ### Names with a number -/

/-- Characters whose names are a stem followed by the code point in hexadecimal. -/
structure Family where
  stem : String
  /-- The first and last code points of each block. -/
  blocks : List (Nat × Nat)
  /-- The code point may have zeros in front, up to five digits in all. -/
  isPadded : Bool

/-- The families. -/
def families : List Family := [
  ⟨"CJK UNIFIED IDEOGRAPH-",
    [(0x3400, 0x4DBF), (0x4E00, 0x9FFF), (0x20000, 0x2A6DF), (0x2A700, 0x2B739),
      (0x2B740, 0x2B81D), (0x2B820, 0x2CEA1), (0x2CEB0, 0x2EBE0), (0x2EBF0, 0x2EE5D),
      (0x30000, 0x3134A), (0x31350, 0x323AF)], true⟩,
  ⟨"CJK COMPATIBILITY IDEOGRAPH-",
    [(0xF900, 0xFA6D), (0xFA70, 0xFAD9), (0x2F800, 0x2FA1D)], false⟩,
  ⟨"EGYPTIAN HIEROGLYPH-", [(0x13460, 0x143FA)], false⟩,
  ⟨"KHITAN SMALL SCRIPT CHARACTER-", [(0x18B00, 0x18CD5), (0x18CFF, 0x18CFF)], false⟩,
  ⟨"NUSHU CHARACTER-", [(0x1B170, 0x1B2FB)], false⟩]

/-- The character of the family with this name. -/
def Family.find? (family : Family) (name : List Char) : Option Char := do
  let digits ← family.stem.toList.isPrefixOf? name
  let code := Scan.valueOf 16 digits
  let isNumber := digits.all (Scan.isDigitOf 16) && digits.length ≤ 5 &&
    (family.isPadded || digits.head? != some '0')
  if isNumber && family.blocks.any (fun (first, last) => first ≤ code && code ≤ last) then
    some (Char.ofNat code)
  else none

/-! ### All names -/

/-- The rows of all tables. -/
def rows : List Row :=
  [alphabets, southAsia, furtherScripts, symbols, eastAsia, presentationForms, ancientScripts,
    cuneiform, hieroglyphs, notations, pictographs, aliases].flatMap Row.readAll

/-- The character with this name or alias. -/
def find? (name : List Char) : Option Char :=
  let name := name.map Char.toUpper
  match "HANGUL SYLLABLE ".toList.isPrefixOf? name with
  | some letters => syllable? letters
  | none => (families.findSome? (·.find? name)).or (rows.findSome? (·.find? name))

end Callwise.CharName
