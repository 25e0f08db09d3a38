import Callwise.Toml.Reader
import Callwise.Proofs.Toml.WrittenText

/-!
# Written values read back

Truth values, whole numbers, strings and arrays of strings are read as what they were written for.
A reader tries the kinds of values one after the other, so a number has to be no point in time and
no number with a fraction first: its digits end with the line, and no other mark follows them.
Arrays go through all their items. What is between the items is skipped, and every item is read by
the reader for values one level further down.
-/

namespace Callwise.Toml

/-! ### Decimal numbers -/

section

variable {digits : List Char}

/-- Digits are read up to the end of the line. -/
theorem moreDigits_append (decimal : ∀ c ∈ digits, c.isDigit = true) (rest : List Char) :
    moreDigits Char.isDigit (digits ++ '\n' :: rest) = some (digits, '\n' :: rest) := by
  induction digits with
  | nil => rfl
  | cons c digits ih =>
    rw [List.forall_mem_cons] at decimal
    have different := ne_of_class decimal.1 (by decide : '_'.isDigit = false)
    simp [moreDigits, different, decimal.1, ih decimal.2]

/-- Digits up to the end of the line are followed by no other mark. -/
theorem after?_digits {mark : Char} (notDigit : mark.isDigit = false) (notLineEnd : mark ≠ '\n')
    (decimal : ∀ c ∈ digits, c.isDigit = true) (rest : List Char) :
    after? mark (digits ++ '\n' :: rest) = none := by
  cases digits with
  | nil => simp [after?, Ne.symm notLineEnd]
  | cons c digits =>
    have different := ne_of_class (decimal c List.mem_cons_self) notDigit
    simp [after?, different]

/-- Four digits are digits in front of what is left. -/
theorem digits_of_fourDigits {text : List Char} {result : Nat × List Char}
    (read : fourDigits text = some result) :
    ∃ taken, text = taken ++ result.2 ∧ ∀ c ∈ taken, c.isDigit = true := by
  unfold fourDigits at read
  split at read
  · split at read
    · rename_i a b c d rest decimal
      cases read
      exact ⟨[a, b, c, d], rfl, List.all_eq_true.mp decimal⟩
    · cases read
  · cases read

/-- Two digits are digits in front of what is left. -/
theorem digits_of_twoDigits {least most : Nat} {text : List Char} {result : Nat × List Char}
    (read : twoDigits least most text = some result) :
    ∃ taken, text = taken ++ result.2 ∧ ∀ c ∈ taken, c.isDigit = true := by
  unfold twoDigits at read
  split at read
  · simp only at read
    split at read
    · rename_i a b rest within
      cases read
      simp only [Bool.and_eq_true] at within
      exact ⟨[a, b], rfl, by simp [within.1.1]⟩
    · cases read
  · cases read

/-- Digits at the start of a line of digits leave digits and the end of the line. -/
theorem exists_remaining {taken rest after : List Char}
    (same : digits ++ '\n' :: rest = taken ++ after) (decimal : ∀ c ∈ taken, c.isDigit = true) :
    ∃ remaining, digits = taken ++ remaining ∧ after = remaining ++ '\n' :: rest := by
  induction taken generalizing digits with
  | nil => exact ⟨digits, rfl, same.symm⟩
  | cons c taken ih =>
    rw [List.forall_mem_cons] at decimal
    cases digits with
    | nil =>
      obtain ⟨rfl, _⟩ := List.cons.inj same
      cases decimal.1
    | cons first digits =>
      obtain ⟨rfl, following⟩ := List.cons.inj same
      obtain ⟨remaining, split, behind⟩ := ih following decimal.2
      exact ⟨remaining, by rw [split, List.cons_append], behind⟩

/-- A line of digits has no other mark behind some of its digits. -/
theorem after?_taken {mark : Char} (notDigit : mark.isDigit = false) (notLineEnd : mark ≠ '\n')
    (decimal : ∀ c ∈ digits, c.isDigit = true) {taken rest after : List Char}
    (same : digits ++ '\n' :: rest = taken ++ after) (digital : ∀ c ∈ taken, c.isDigit = true) :
    after? mark after = none := by
  obtain ⟨remaining, rfl, rfl⟩ := exists_remaining same digital
  rw [List.forall_mem_append] at decimal
  exact after?_digits notDigit notLineEnd decimal.2 rest

/-- A line of digits is no point in time. -/
theorem moment?_digits (decimal : ∀ c ∈ digits, c.isDigit = true) (rest : List Char) :
    moment? (digits ++ '\n' :: rest) = none := by
  have noDate : date? (digits ++ '\n' :: rest) = none := by
    unfold date?
    cases read : fourDigits (digits ++ '\n' :: rest) with
    | none => rfl
    | some result =>
      obtain ⟨taken, same, digital⟩ := digits_of_fourDigits read
      have noDash :=
        after?_taken (by decide : '-'.isDigit = false) (by decide) decimal same digital
      simp [noDash]
  have noTime : time? (digits ++ '\n' :: rest) = none := by
    unfold time?
    cases read : twoDigits 0 23 (digits ++ '\n' :: rest) with
    | none => rfl
    | some result =>
      obtain ⟨taken, same, digital⟩ := digits_of_twoDigits read
      have noColon :=
        after?_taken (by decide : ':'.isDigit = false) (by decide) decimal same digital
      simp [noColon]
  simp [moment?, noDate, noTime]

end

/-- A number is zero, or its first digit is not. -/
theorem head_toDigits {number : Nat} (positive : number ≠ 0) :
    ∃ first more, Nat.toDigits 10 number = first :: more ∧ first ≠ '0' := by
  induction number using Nat.strongRecOn with
  | ind number ih =>
    by_cases small : number < 10
    · have digitOf : ∀ number < 10, number ≠ 0 → number.digitChar ≠ '0' := by decide
      exact ⟨_, [], Nat.toDigits_of_lt_base small, digitOf number small positive⟩
    · obtain ⟨first, more, written, different⟩ :=
        ih (number / 10) (by omega) (by omega)
      refine ⟨first, more ++ [(number % 10).digitChar], ?_, different⟩
      rw [Nat.toDigits_of_base_le (by decide) (Nat.not_lt.mp small), written, List.cons_append]

/-- The digits of a number. -/
theorem isDigit_toDigits (number : Nat) : ∀ c ∈ Nat.toDigits 10 number, c.isDigit = true :=
  fun _ member => Nat.isDigit_of_mem_toDigits (by decide) (by decide) member

/-- For decimal digits, the number of a digit is its place among the digits. -/
theorem foldl_digitValue {digits : List Char} (decimal : ∀ c ∈ digits, c.isDigit = true)
    (start : Nat) :
    digits.foldl (fun value c => 10 * value + digitValue c) start =
      Nat.ofDigitChars 10 digits start := by
  induction digits generalizing start with
  | nil => rfl
  | cons c digits ih =>
    rw [List.forall_mem_cons] at decimal
    have place : digitValue c = c.toNat - '0'.toNat := by simp [digitValue, decimal.1]
    rw [List.foldl_cons, ih decimal.2, Nat.ofDigitChars_cons, place]

/-- The digits of a number stand for the number. -/
theorem digitsValue_toDigits (number : Nat) : digitsValue 10 (Nat.toDigits 10 number) = number := by
  calc digitsValue 10 (Nat.toDigits 10 number)
    _ = Nat.ofDigitChars 10 (Nat.toDigits 10 number) 0 :=
      foldl_digitValue (isDigit_toDigits number) 0
    _ = number := Nat.ofDigitChars_ten_toDigits

/-- A written number is read up to the end of the line. -/
theorem decimalDigits_toDigits (number : Nat) (rest : List Char) :
    decimalDigits (Nat.toDigits 10 number ++ '\n' :: rest) =
      some (Nat.toDigits 10 number, '\n' :: rest) := by
  by_cases zero : number = 0
  · subst zero
    rfl
  · obtain ⟨first, more, written, different⟩ := head_toDigits zero
    have decimal := isDigit_toDigits number
    rw [written, List.forall_mem_cons] at decimal
    rw [written]
    simp [decimalDigits, different, someDigits, decimal.1, moreDigits_append decimal.2]

/-- A written number starts with a digit. -/
theorem first_toDigits (number : Nat) :
    ∃ first more, Nat.toDigits 10 number = first :: more ∧ first.isDigit = true := by
  have decimal := isDigit_toDigits number
  cases written : Nat.toDigits 10 number with
  | nil => exact absurd written Nat.toDigits_ne_nil
  | cons first more =>
    rw [written, List.forall_mem_cons] at decimal
    exact ⟨first, more, rfl, decimal.1⟩

/-- A written number has no sign. -/
theorem readSign_toDigits (number : Nat) (rest : List Char) :
    readSign (Nat.toDigits 10 number ++ rest) = (false, Nat.toDigits 10 number ++ rest) := by
  obtain ⟨first, more, written, digital⟩ := first_toDigits number
  have notMinus := ne_of_class digital (by decide : '-'.isDigit = false)
  have notPlus := ne_of_class digital (by decide : '+'.isDigit = false)
  simp [written, readSign, notMinus, notPlus]

/-- A written number has no fraction. -/
theorem float?_toDigits (number : Nat) (rest : List Char) :
    float? (Nat.toDigits 10 number ++ '\n' :: rest) = none := by
  simp [float?, readSign_toDigits, decimalDigits_toDigits, exponent?]

/-- A written number is finite. -/
theorem specialFloat?_toDigits (number : Nat) (rest : List Char) :
    specialFloat? (Nat.toDigits 10 number ++ '\n' :: rest) = none := by
  obtain ⟨first, more, written, digital⟩ := first_toDigits number
  have notInf := ne_of_class digital (by decide : 'i'.isDigit = false)
  have notNan := ne_of_class digital (by decide : 'n'.isDigit = false)
  simp only [specialFloat?, readSign_toDigits]
  simp [written, notInf, notNan]

/-- A written number has no mark for another base. -/
theorem not_based_toDigits {number : Nat} {c : Char} {rest more : List Char}
    (same : Nat.toDigits 10 number ++ '\n' :: rest = '0' :: c :: more) : c = '\n' := by
  by_cases zero : number = 0
  · subst zero
    cases same
    rfl
  · obtain ⟨first, digits, written, different⟩ := head_toDigits zero
    rw [written, List.cons_append] at same
    exact absurd (List.cons.inj same).1 different

/-- A written number that 64 bits with a sign hold reads as the number. -/
theorem integer?_toDigits {number : Nat} (small : number < Nat.pow 2 63) (rest : List Char) :
    integer? (Nat.toDigits 10 number ++ '\n' :: rest) = some ((number : Int), '\n' :: rest) := by
  have hexadecimal : ∀ more, Nat.toDigits 10 number ++ '\n' :: rest ≠ '0' :: 'x' :: more :=
    fun _ same => absurd (not_based_toDigits same) (by decide)
  have octal : ∀ more, Nat.toDigits 10 number ++ '\n' :: rest ≠ '0' :: 'o' :: more :=
    fun _ same => absurd (not_based_toDigits same) (by decide)
  have binary : ∀ more, Nat.toDigits 10 number ++ '\n' :: rest ≠ '0' :: 'b' :: more :=
    fun _ same => absurd (not_based_toDigits same) (by decide)
  rw [integer?.eq_4 _ hexadecimal octal binary]
  simp only [readSign_toDigits, decimalDigits_toDigits, Option.bind_eq_bind, Option.bind_some,
    digitsValue_toDigits, signed?]
  rw [if_neg Bool.false_ne_true, if_pos small]
  rfl

/-! ### Steps of reading -/

namespace Reader

section

variable {α β : Type}

/-- Reading goes on behind what the first step has taken. -/
theorem bind_of_eq {first : Reader α} {next : α → Reader β} {before between : List Char} {value : α}
    (taken : first before = some (value, between)) :
    (first >>= next) before = next value between := by
  show (first before).bind _ = _
  rw [taken]
  rfl

/-- A change of what is read takes the same characters. -/
theorem map_of_eq {reader : Reader α} {change : α → β} {before after : List Char} {value : α}
    (taken : reader before = some (value, after)) :
    (change <$> reader) before = some (change value, after) := by
  show (reader before).bind _ = _
  rw [taken]
  rfl

/-- The next character is looked at and left. -/
theorem peek?_bind (next : Option Char → Reader β) (before : List Char) :
    (peek? >>= next) before = next before.head? before := rfl

/-- What is ahead is counted and left. -/
theorem ahead_bind (next : Nat → Reader β) (before : List Char) :
    (ahead >>= next) before = next before.length before := rfl

/-- All that is ahead is looked at and left. -/
theorem get_bind (next : List Char → Reader β) (before : List Char) :
    (get >>= next) before = next before before := rfl

end

/-- The character that is asked for is taken. -/
theorem accept_self (c : Char) (rest : List Char) : accept c (c :: rest) = some (true, rest) := by
  simp [accept]

/-- Another character is left. -/
theorem accept_other {c first : Char} (different : first ≠ c) (rest : List Char) :
    accept c (first :: rest) = some (false, first :: rest) := by
  simp [accept, different]

/-- A character that has to come comes. -/
theorem expect_self (c : Char) (rest : List Char) : expect c (c :: rest) = some ((), rest) := by
  rw [expect, bind_of_eq (accept_self c rest)]
  rfl

/-- No blanks are skipped in front of another character. -/
theorem blanks_of_head {first : Char} (notBlank : isBlank first = false) (rest : List Char) :
    blanks (first :: rest) = some ((), first :: rest) := by
  show some ((), List.dropWhile isBlank (first :: rest)) = _
  rw [List.dropWhile_cons, notBlank]
  rfl

/-- Nothing is skipped in front of a character that is neither a blank nor ends a line nor opens a
comment. -/
theorem gap_of_head {first : Char} (notBlank : isBlank first = false)
    (inLine : first ≠ '#' ∧ first ≠ '\n' ∧ first ≠ '\x0d') (bound : Nat) (rest : List Char) :
    gap bound (first :: rest) = some ((), first :: rest) := by
  cases bound with
  | zero => rfl
  | succ bound =>
    rw [gap, bind_of_eq (blanks_of_head notBlank rest), peek?_bind]
    refine congrFun (g := (pure () : Reader Unit)) ?_ _
    simp [inLine]

/-- Nothing is skipped in front of a closing bracket. -/
theorem gap_bracket (bound : Nat) (rest : List Char) :
    gap bound (']' :: rest) = some ((), ']' :: rest) :=
  gap_of_head (by decide) (by decide) bound rest

/-! ### Values -/

/-- A written string starts with a quotation mark or an apostrophe. -/
theorem head_writeText (text : List Char) :
    ∃ first more, writeText text = first :: more ∧ (first = '\x22' ∨ first = '\x27') := by
  unfold writeText
  cases TextStyle.ofText text
  case basic => exact ⟨_, _, rfl, .inl rfl⟩
  case literal => exact ⟨_, _, rfl, .inr rfl⟩
  case multiBasic => exact ⟨_, _, rfl, .inl rfl⟩
  case multiLiteral => exact ⟨_, _, rfl, .inr rfl⟩

/-- A written string reads as a value. -/
theorem value_writeText {behind : Char} (unquoted : behind ≠ '\x22' ∧ behind ≠ '\x27') (depth : Nat)
    (text : String) (rest : List Char) :
    value (depth + 1) (writeText text.toList ++ behind :: rest) =
      some (.text text, behind :: rest) := by
  have read : readText? (writeText text.toList ++ behind :: rest) =
      some (text.toList, behind :: rest) := by
    apply readText?_writeText
    · exact fun more same => unquoted.1 (List.cons.inj same).1
    · exact fun more same => unquoted.2 (List.cons.inj same).1
  obtain ⟨first, more, written, quoted⟩ := head_writeText text.toList
  rw [written, List.cons_append] at read ⊢
  have asValue : ((fun text => Node.text (String.ofList text)) <$> found readText?)
      (first :: (more ++ behind :: rest)) =
        some (.text (String.ofList text.toList), behind :: rest) := map_of_eq read
  rw [String.ofList_toList] at asValue
  rw [value, peek?_bind, ← asValue]
  rcases quoted with rfl | rfl <;> rfl

/-- A written number is no string, array or table. -/
theorem value_toDigits (depth number : Nat) (rest : List Char) :
    value (depth + 1) (Nat.toDigits 10 number ++ rest) =
      scalar (Nat.toDigits 10 number ++ rest) := by
  obtain ⟨first, more, written, digital⟩ := first_toDigits number
  have notQuote := ne_of_class digital (by decide : '\x22'.isDigit = false)
  have notApostrophe := ne_of_class digital (by decide : '\x27'.isDigit = false)
  have notBracket := ne_of_class digital (by decide : '['.isDigit = false)
  have notBrace := ne_of_class digital (by decide : '\x7b'.isDigit = false)
  rw [written, List.cons_append, value, peek?_bind]
  refine congrFun ?_ _
  simp [notQuote, notApostrophe, notBracket, notBrace]

/-- A written number at the end of a line is a whole number. -/
theorem scalar_toDigits (number : Nat) (rest : List Char) :
    scalar (Nat.toDigits 10 number ++ '\n' :: rest) =
      (Node.integer <$> found integer?) (Nat.toDigits 10 number ++ '\n' :: rest) := by
  obtain ⟨first, more, written, digital⟩ := first_toDigits number
  have notTrue := ne_of_class digital (by decide : 't'.isDigit = false)
  have notFalse := ne_of_class digital (by decide : 'f'.isDigit = false)
  have head : (Nat.toDigits 10 number ++ '\n' :: rest).head? = some first := by
    rw [written]
    rfl
  rw [scalar, peek?_bind, head]
  simp [notTrue, notFalse, get_bind, moment?_digits (isDigit_toDigits number), float?_toDigits,
    specialFloat?_toDigits]

/-- An item of an array on a line of its own. -/
def itemLine (text : String) : List Char :=
  "    ".toList ++ (writeText text.toList ++ [',', '\n'])

/-- A written string is neither blank nor the end of a line nor a comment. -/
theorem gap_writeText (bound : Nat) (text : String) (rest : List Char) :
    gap bound (writeText text.toList ++ rest) = some ((), writeText text.toList ++ rest) := by
  obtain ⟨first, more, written, quoted⟩ := head_writeText text.toList
  rw [written, List.cons_append]
  rcases quoted with rfl | rfl <;> exact gap_of_head (by decide) (by decide) bound _

/-- A written string closes no array. -/
theorem accept_writeText (text : String) (rest : List Char) :
    accept ']' (writeText text.toList ++ rest) = some (false, writeText text.toList ++ rest) := by
  obtain ⟨first, more, written, quoted⟩ := head_writeText text.toList
  rw [written, List.cons_append]
  rcases quoted with rfl | rfl <;> exact accept_other (by decide) _

/-- The end of a line is skipped. -/
theorem gap_newline (bound : Nat) (rest : List Char) :
    gap (bound + 1) ('\n' :: rest) = gap bound rest := rfl

/-- The indentation of an item is skipped. -/
theorem gap_indentation (bound : Nat) (rest : List Char) :
    gap (bound + 1) ("    ".toList ++ rest) = gap (bound + 1) rest := rfl

/-- The end of a line and the indentation of the next are skipped. -/
theorem gap_itemLine (bound : Nat) (enough : 2 ≤ bound) (text : String) (rest : List Char) :
    gap bound ('\n' :: (itemLine text ++ rest)) =
      some ((), writeText text.toList ++ ',' :: '\n' :: rest) := by
  obtain ⟨more, rfl⟩ : ∃ more, bound = more + 1 + 1 := ⟨bound - 2, by omega⟩
  rw [gap_newline, itemLine, List.append_assoc, gap_indentation, List.append_assoc]
  exact gap_writeText (more + 1) text (',' :: '\n' :: rest)

/-- One item, when another one or the closing bracket comes on the next line. -/
theorem items_itemLine {depth bound : Nat} {text : String} {others : List Node}
    {rest after : List Char}
    (following : items (value (depth + 1)) bound ('\n' :: rest) = some (others, after)) :
    items (value (depth + 1)) (bound + 1) ('\n' :: (itemLine text ++ rest)) =
      some (.text text :: others, after) := by
  have skipped := gap_itemLine ('\n' :: (itemLine text ++ rest)).length (by simp [itemLine])
    text rest
  have read := value_writeText (by decide : ',' ≠ '\x22' ∧ ',' ≠ '\x27') depth text ('\n' :: rest)
  have comma : gap ((',' :: '\n' :: rest).length) (',' :: '\n' :: rest) =
      some ((), ',' :: '\n' :: rest) := gap_of_head (by decide) (by decide) _ _
  rw [items, ahead_bind, bind_of_eq skipped,
    bind_of_eq (accept_writeText text _), if_neg Bool.false_ne_true, bind_of_eq read,
    ahead_bind, bind_of_eq comma, bind_of_eq (accept_self ',' _),
    if_pos rfl, bind_of_eq following]
  rfl

/-- The items of an array on lines of their own. -/
theorem items_lines (depth : Nat) (texts : List String) {bound : Nat}
    (enough : texts.length < bound) (rest : List Char) :
    items (value (depth + 1)) bound ('\n' :: (texts.flatMap itemLine ++ ']' :: rest)) =
      some (texts.map .text, rest) := by
  induction texts generalizing bound with
  | nil =>
    obtain ⟨more, rfl⟩ : ∃ more, bound = more + 1 := ⟨bound - 1, by simp at enough; omega⟩
    have skipped : gap (('\n' :: ']' :: rest).length) ('\n' :: ']' :: rest) =
        some ((), ']' :: rest) :=
      (gap_newline _ _).trans (gap_bracket _ rest)
    rw [items, ahead_bind]
    simp only [List.flatMap_nil, List.nil_append]
    rw [bind_of_eq skipped, bind_of_eq (accept_self ']' rest)]
    rfl
  | cons text texts ih =>
    obtain ⟨more, rfl⟩ : ∃ more, bound = more + 1 := ⟨bound - 1, by simp at enough; omega⟩
    rw [List.flatMap_cons, List.append_assoc]
    exact items_itemLine (ih (by simpa using enough))

/-- Pieces that are not empty are no more than their characters. -/
theorem length_le_length_flatMap {α : Type} {write : α → List Char} {pieces : List α}
    (nonempty : ∀ piece ∈ pieces, 1 ≤ (write piece).length) :
    pieces.length ≤ (pieces.flatMap write).length := by
  induction pieces with
  | nil => exact Nat.le_refl 0
  | cons piece pieces ih =>
    rw [List.forall_mem_cons] at nonempty
    have fewer := ih nonempty.2
    rw [List.flatMap_cons, List.length_append, List.length_cons]
    omega

/-- An array is its items. -/
theorem value_bracket {depth : Nat} {nodes : List Node} {rest after : List Char}
    (read : items (value (depth + 1)) rest.length rest = some (nodes, after)) :
    value (depth + 2) ('[' :: rest) = some (.array nodes, after) := by
  rw [value, peek?_bind]
  show (do expect '['; return Node.array (← items (value (depth + 1)) (← ahead)) : Reader Node)
    ('[' :: rest) = _
  rw [bind_of_eq (expect_self '[' rest), ahead_bind, bind_of_eq read]
  rfl

/-- An empty array. -/
theorem value_empty (depth : Nat) (rest : List Char) :
    value (depth + 2) ('[' :: ']' :: rest) = some (.array [], rest) := by
  apply value_bracket
  rw [List.length_cons, items, ahead_bind, bind_of_eq (gap_bracket _ rest),
    bind_of_eq (accept_self ']' rest)]
  rfl

/-- An array of one string on one line. -/
theorem value_single (depth : Nat) (text : String) (rest : List Char) :
    value (depth + 2) ('[' :: (writeText text.toList ++ ']' :: rest)) =
      some (.array [.text text], rest) := by
  apply value_bracket
  obtain ⟨bound, length⟩ : ∃ bound, (writeText text.toList ++ ']' :: rest).length = bound + 1 :=
    ⟨(writeText text.toList).length + rest.length, by simp; omega⟩
  have read := value_writeText (by decide : ']' ≠ '\x22' ∧ ']' ≠ '\x27') depth text rest
  rw [length, items, ahead_bind, bind_of_eq (gap_writeText _ text _),
    bind_of_eq (accept_writeText text _), if_neg Bool.false_ne_true, bind_of_eq read,
    ahead_bind, bind_of_eq (gap_bracket _ rest),
    bind_of_eq (accept_other (by decide) rest), if_neg Bool.false_ne_true,
    bind_of_eq (expect_self ']' rest)]
  rfl

/-- An array of strings on lines of their own. -/
theorem value_lines (depth : Nat) (texts : List String) (rest : List Char) :
    value (depth + 2) ('[' :: '\n' :: (texts.flatMap itemLine ++ ']' :: rest)) =
      some (.array (texts.map .text), rest) := by
  apply value_bracket
  apply items_lines
  have fits : texts.length ≤ (texts.flatMap itemLine).length :=
    length_le_length_flatMap fun text _ => by simp [itemLine]
  simp only [List.length_cons, List.length_append]
  omega

/-! ### Values at the end of a line -/

/-- The text up to the end of the line is this value. -/
structure Written (text : List Char) (node : Node) : Prop where
  starts : ∃ first more, text = first :: more ∧ isBlank first = false
  reads : ∀ rest, value (nestingLimit + 1) (text ++ '\n' :: rest) = some (node, '\n' :: rest)

/-- A truth value. -/
theorem written_boolean (flag : Bool) :
    Written (if flag then "true" else "false").toList (.boolean flag) := by
  cases flag
  · exact ⟨⟨'f', _, rfl, by decide⟩, fun _ => rfl⟩
  · exact ⟨⟨'t', _, rfl, by decide⟩, fun _ => rfl⟩

/-- A number that 64 bits with a sign hold. -/
theorem written_number {number : Nat} (small : number < Nat.pow 2 63) :
    Written (Nat.toDigits 10 number) (.integer number) := by
  obtain ⟨first, more, written, digital⟩ := first_toDigits number
  constructor
  · have notSpace := ne_of_class digital (by decide : ' '.isDigit = false)
    have notTab := ne_of_class digital (by decide : '\t'.isDigit = false)
    exact ⟨first, more, written, by simp [isBlank, notSpace, notTab]⟩
  · intro rest
    rw [value_toDigits, scalar_toDigits]
    exact map_of_eq (integer?_toDigits small rest)

/-- A string. -/
theorem written_text (text : String) : Written (writeText text.toList) (.text text) := by
  constructor
  · obtain ⟨first, more, written, quoted⟩ := head_writeText text.toList
    exact ⟨first, more, written, by rcases quoted with rfl | rfl <;> decide⟩
  · exact fun rest => value_writeText (by decide) nestingLimit text rest

end Reader

end Callwise.Toml
