import Callwise.Toml.Text

/-!
# Written strings read back

Whatever the characters of a string are, what is written for it reads as the string, and reading
ends where the writing ended. Behind the string no quotation mark may follow, because it could
belong to the closing ones.

The two basic styles can hold every string. There it is enough to look at one character at a time,
except for quotation marks over several lines: a mark that stands for itself reads as such only if
the reader does not see three of them, and so the argument looks two characters ahead. The two
literal styles hold the strings for which they are chosen.
-/

namespace Callwise.Toml

variable {text : List Char} {next : List Char}

-- The proofs here follow the readers character by character.
attribute [local simp] basicText literalText multiBasicText multiLiteralText

/-- A character inside a class is no character outside of it. -/
theorem ne_of_class {isInside : Char → Bool} {c mark : Char} (inside : isInside c = true)
    (outside : isInside mark = false) : c ≠ mark := by
  rintro rfl
  rw [inside] at outside
  cases outside

/-! ### Escapes -/

/-- A control character is the character with its number in two hexadecimal digits. -/
theorem codePoint?_of_isControl {c : Char} (control : isControl c = true) :
    codePoint? ['0', '0', hexDigit (c.toNat / 16), hexDigit (c.toNat % 16)] = some c := by
  have small : c.toNat < 128 := by
    simp only [isControl, Bool.and_eq_true, Bool.or_eq_true, decide_eq_true_eq, beq_iff_eq]
      at control
    omega
  have decoded : ∀ number < 128,
      codePoint? ['0', '0', hexDigit (number / 16), hexDigit (number % 16)] =
        some (Char.ofNat number) := by
    decide +kernel
  rw [decoded c.toNat small, Char.ofNat_toNat]

/-- The three ways to write a character in a basic style: a backslash with one more character, a
backslash with the number, and the character itself. -/
theorem escaped_cases (c : Char) :
    (∃ mark, escaped c = ['\x5c', mark] ∧ shortEscape? mark = some c) ∨
      (∃ high low, escaped c = ['\x5c', 'u', '0', '0', high, low] ∧
        codePoint? ['0', '0', high, low] = some c) ∨
      (escaped c = [c] ∧ c ≠ '\x22' ∧ c ≠ '\x5c' ∧ c ≠ '\n' ∧ isControl c = false) := by
  unfold escaped
  split
  case h_8 =>
    rename_i newline _ _ quote backslash
    split
    · rename_i control
      exact .inr (.inl ⟨_, _, rfl, codePoint?_of_isControl control⟩)
    · rename_i ordinary
      exact .inr (.inr ⟨rfl, quote, backslash, newline, Bool.eq_false_iff.mpr ordinary⟩)
  all_goals exact .inl ⟨_, rfl, rfl⟩

/-- The character of a short escape neither announces a number nor is a blank or a line end. -/
theorem mark_of_shortEscape? {mark c : Char} (decoded : shortEscape? mark = some c) :
    mark ≠ 'u' ∧ mark ≠ 'U' ∧ isBlank mark = false ∧ mark ≠ '\n' ∧ mark ≠ '\x0d' := by
  unfold shortEscape? at decoded
  split at decoded
  case h_8 => cases decoded
  all_goals decide

/-- A written character reads as the character, between double quotes. -/
theorem basicText_escaped (c : Char) (rest : List Char) :
    basicText (escaped c ++ rest) = (basicText rest).map (.push c) := by
  rcases escaped_cases c with ⟨mark, written, decoded⟩ | ⟨high, low, written, decoded⟩ |
    ⟨written, quote, backslash, newline, ordinary⟩
  · obtain ⟨short, long, _⟩ := mark_of_shortEscape? decoded
    simp [written, short, long, decoded]
  · simp [written, decoded]
  · simp [written, backslash, isPlain, newline, ordinary]

/-- A written character reads as the character, between triple double quotes. -/
theorem multiBasicText_escaped (c : Char) (rest : List Char) :
    multiBasicText false (escaped c ++ rest) = (multiBasicText false rest).map (.push c) := by
  rcases escaped_cases c with ⟨mark, written, decoded⟩ | ⟨high, low, written, decoded⟩ |
    ⟨written, quote, backslash, newline, ordinary⟩
  · obtain ⟨short, long, solid, newline, return_⟩ := mark_of_shortEscape? decoded
    have noLineEnd : startsWithLineEnd ((mark :: rest).dropWhile isBlank) = false := by
      simp [solid, startsWithLineEnd, newline, return_]
    simp [written, short, long, decoded, noLineEnd]
  · simp [written, decoded]
  · have inside : c ≠ '\x0d' := by
      rintro rfl
      cases ordinary
    simp [written, quote, backslash, ordinary, inside]

/-- A written character does not start with a quotation mark or a line end. -/
theorem head_escaped (c : Char) :
    ∃ first more, escaped c = first :: more ∧ first ≠ '\x22' ∧ first ≠ '\n' ∧ first ≠ '\x0d' := by
  rcases escaped_cases c with ⟨mark, written, _⟩ | ⟨high, low, written, _⟩ |
    ⟨written, quote, _, newline, ordinary⟩
  · exact ⟨_, _, written, by decide, by decide, by decide⟩
  · exact ⟨_, _, written, by decide, by decide, by decide⟩
  · refine ⟨_, _, written, quote, newline, ?_⟩
    rintro rfl
    cases ordinary

/-! ### One line -/

/-- A string in double quotes. -/
theorem basicText_flatMap (text rest : List Char) :
    basicText (text.flatMap escaped ++ '\x22' :: rest) = some (text, rest) := by
  induction text with
  | nil => simp
  | cons c text ih =>
    rw [List.flatMap_cons, List.append_assoc, basicText_escaped, ih]
    rfl

/-- A string in apostrophes. -/
theorem literalText_append (plain : ∀ c ∈ text, isPlain c = true) (unquoted : '\x27' ∉ text)
    (rest : List Char) :
    literalText (text ++ '\x27' :: rest) = some (text, rest) := by
  induction text with
  | nil => simp
  | cons c text ih =>
    rw [List.forall_mem_cons] at plain
    rw [List.mem_cons, not_or] at unquoted
    have different : c ≠ '\x27' := fun same => unquoted.1 same.symm
    simp [plain.1, ih plain.2 unquoted.2, TextAndRest.push]

/-! ### Several lines -/

/-- Two of these marks come next. -/
def opensPair (mark : Char) : List Char → Bool
  | first :: second :: _ => first == mark && second == mark
  | _ => false

/-- Two marks do not come next if the text starts with something else. -/
theorem opensPair_of_head {mark first : Char} (different : first ≠ mark) (rest : List Char) :
    opensPair mark (first :: rest) = false := by
  cases rest <;> simp [opensPair, different]

/-- A string that ends at this mark leaves no further one. -/
theorem opensPair_of_ends {mark : Char} {rest : List Char} (ends : ∀ more, rest ≠ mark :: more) :
    opensPair mark (mark :: rest) = false := by
  cases rest with
  | nil => rfl
  | cons next more =>
    have different : next ≠ mark := fun same => ends more (by rw [same])
    simp [opensPair, different]

/-- A text that two marks do not open is not two marks with more behind them. -/
theorem ne_pair_of_opensPair {mark : Char} (single : opensPair mark next = false)
    (more : List Char) : next ≠ mark :: mark :: more := by
  rintro rfl
  simp [opensPair] at single

/-- A quotation mark that two others do not follow stands for itself. -/
theorem multiBasicText_quote (single : opensPair '\x22' next = false) :
    multiBasicText false ('\x22' :: next) =
      (multiBasicText false next).map (.push '\x22') := by
  have noPair := ne_pair_of_opensPair single
  simp [noPair, isControl]

/-- A line feed stands for itself. -/
theorem multiBasicText_newline (next : List Char) :
    multiBasicText false ('\n' :: next) = (multiBasicText false next).map (.push '\n') := by
  simp [isControl]

/-- An apostrophe that two others do not follow stands for itself. -/
theorem multiLiteralText_apostrophe (single : opensPair '\x27' next = false) :
    multiLiteralText ('\x27' :: next) = (multiLiteralText next).map (.push '\x27') := by
  have noPair := ne_pair_of_opensPair single
  simp [noPair, isControl]

section

variable {rest : List Char}

/-- Up to two quotation marks in front of the closing ones belong to the string. -/
theorem multiBasicText_closing (ends : ∀ more, rest ≠ '\x22' :: more) {marks : Nat}
    (few : marks ≤ 2) :
    multiBasicText false (List.replicate (marks + 3) '\x22' ++ rest) =
      some (List.replicate marks '\x22', rest) := by
  match marks, few with
  | 0, _ => simp [List.replicate, ends]
  | 1, _ => simp [List.replicate]
  | 2, _ => simp [List.replicate]

/-- Up to two apostrophes in front of the closing ones belong to the string. -/
theorem multiLiteralText_closing (ends : ∀ more, rest ≠ '\x27' :: more) {marks : Nat}
    (few : marks ≤ 2) :
    multiLiteralText (List.replicate (marks + 3) '\x27' ++ rest) =
      some (List.replicate marks '\x27', rest) := by
  match marks, few with
  | 0, _ => simp [List.replicate, ends]
  | 1, _ => simp [List.replicate]
  | 2, _ => simp [List.replicate]

/-- What is written for further characters starts with a quotation mark only if the first of them is
one and fewer than two come before. -/
theorem head_escapedLines {quotes : Nat} {c : Char} (covered : c ≠ '\x22' ∨ 2 ≤ quotes)
    (text : List Char) :
    ∃ first more, escapedLines quotes (c :: text) = first :: more ∧ first ≠ '\x22' := by
  have escapes : (c == '\x22' && decide (quotes < 2)) = false := by
    rcases covered with different | many
    · simp [different]
    · simp [Nat.not_lt.mpr many]
  simp only [escapedLines, escapes, Bool.false_eq_true, if_false]
  split
  · rename_i newline
    rw [beq_iff_eq] at newline
    exact ⟨c, _, rfl, by rw [newline]; decide⟩
  · obtain ⟨first, more, written, different, _⟩ := head_escaped c
    exact ⟨first, _, by rw [written, List.cons_append], different⟩

/-- Behind a quotation mark that stands for itself, two others come next only if the string ends
there or after one more. -/
theorem opensPair_escapedLines {quotes : Nat} (before : 1 ≤ quotes) {c : Char}
    (longer : c ≠ '\x22' ∨ 2 ≤ quotes ∨ text ≠ []) (closing : List Char) :
    opensPair '\x22' (escapedLines quotes (c :: text) ++ closing) = false := by
  by_cases covered : c ≠ '\x22' ∨ 2 ≤ quotes
  · obtain ⟨first, more, written, different⟩ := head_escapedLines covered text
    rw [written, List.cons_append]
    exact opensPair_of_head different _
  · -- one mark follows, and whatever comes behind it is escaped
    rw [not_or, Decidable.not_not] at covered
    obtain ⟨rfl, few⟩ := covered
    obtain rfl : quotes = 1 := by omega
    cases text with
    | nil => simp at longer
    | cons next text =>
      obtain ⟨first, more, written, different⟩ := head_escapedLines (.inr (Nat.le_refl 2)) text
      have raw : escapedLines 1 ('\x22' :: next :: text) = '\x22' :: first :: more := by
        rw [← written]
        rfl
      simp [raw, opensPair, different]

/-- A string in triple double quotes. Its marks are counted from the last character that is not a
mark standing for itself. -/
theorem multiBasicText_escapedLines (ends : ∀ more, rest ≠ '\x22' :: more) (text : List Char)
    {quotes : Nat} (few : quotes ≤ 2) :
    multiBasicText false (escapedLines quotes text ++ (List.replicate 3 '\x22' ++ rest)) =
      some (text, rest) := by
  induction text generalizing quotes with
  | nil => exact multiBasicText_closing ends (Nat.zero_le 2)
  | cons c text ih =>
    by_cases raw : c = '\x22' ∧ quotes < 2
    · obtain ⟨rfl, fewer⟩ := raw
      have written : escapedLines quotes ('\x22' :: text) =
          '\x22' :: escapedLines (quotes + 1) text := by
        simp [escapedLines, fewer]
      rw [written, List.cons_append]
      match text with
      | [] => exact multiBasicText_closing ends (Nat.le_succ 1)
      | next :: text =>
        by_cases last : next ≠ '\x22' ∨ 2 ≤ quotes + 1 ∨ text ≠ []
        · have single := opensPair_escapedLines (Nat.le_add_left 1 quotes) last
            (List.replicate 3 '\x22' ++ rest)
          rw [multiBasicText_quote single, ih fewer]
          rfl
        · simp only [not_or, Decidable.not_not] at last
          obtain ⟨rfl, first, rfl⟩ := last
          obtain rfl : quotes = 0 := by omega
          exact multiBasicText_closing ends (Nat.le_refl 2)
    · have escapes : (c == '\x22' && decide (quotes < 2)) = false := by
        simpa using raw
      simp only [escapedLines, escapes, Bool.false_eq_true, if_false]
      split
      · rename_i newline
        rw [beq_iff_eq] at newline
        subst newline
        rw [List.cons_append, multiBasicText_newline, ih (Nat.zero_le 2)]
        rfl
      · rw [List.append_assoc, multiBasicText_escaped, ih (Nat.zero_le 2)]
        rfl

/-- The longest run is at least the run that comes before. -/
theorem le_longestRun (mark : Char) (current : Nat) (text : List Char) :
    current ≤ longestRun mark current text := by
  induction text generalizing current with
  | nil => exact Nat.le_refl current
  | cons c text ih =>
    simp only [longestRun]
    split
    · have longer := ih (current + 1)
      omega
    · exact Nat.le_max_left _ _

/-- Behind an apostrophe, two others come next only if the string ends after one more, when no three
stand side by side. -/
theorem opensPair_of_longestRun {current : Nat} {c : Char}
    (short : longestRun '\x27' (current + 1) (c :: text) ≤ 2) (longer : c ≠ '\x27' ∨ text ≠ [])
    (closing : List Char) : opensPair '\x27' (c :: text ++ closing) = false := by
  by_cases mark : c = '\x27'
  · subst mark
    cases text with
    | nil => simp at longer
    | cons next text =>
      have different : next ≠ '\x27' := by
        rintro rfl
        have long := le_longestRun '\x27' (current + 1 + 1 + 1) text
        simp only [longestRun, beq_self_eq_true, if_true] at short
        omega
      simp [opensPair, different]
  · exact opensPair_of_head mark _

/-- A string in triple apostrophes, if it has no control characters and never three apostrophes side
by side. -/
theorem multiLiteralText_append (ends : ∀ more, rest ≠ '\x27' :: more)
    (ordinary : ∀ c ∈ text, isControl c = false) {current : Nat}
    (short : longestRun '\x27' current text ≤ 2) :
    multiLiteralText (text ++ (List.replicate 3 '\x27' ++ rest)) = some (text, rest) := by
  induction text generalizing current with
  | nil => exact multiLiteralText_closing ends (Nat.zero_le 2)
  | cons c text ih =>
    rw [List.forall_mem_cons] at ordinary
    by_cases mark : c = '\x27'
    · subst mark
      have shorter : longestRun '\x27' (current + 1) text ≤ 2 := by simpa [longestRun] using short
      have remaining := ih ordinary.2 shorter
      match text with
      | [] => exact multiLiteralText_closing ends (Nat.le_succ 1)
      | next :: text =>
        by_cases last : next ≠ '\x27' ∨ text ≠ []
        · have single := opensPair_of_longestRun shorter last (List.replicate 3 '\x27' ++ rest)
          rw [List.cons_append, multiLiteralText_apostrophe single, remaining]
          rfl
        · simp only [not_or, Decidable.not_not] at last
          obtain ⟨rfl, rfl⟩ := last
          exact multiLiteralText_closing ends (Nat.le_refl 2)
    · have other : longestRun '\x27' 0 text ≤ 2 := by
        simp only [longestRun, beq_iff_eq, mark, if_false] at short
        omega
      have inside : c ≠ '\x0d' := (ne_of_class (by decide) ordinary.1).symm
      rw [List.cons_append, multiLiteralText.eq_6 _ _ (by simp [mark]) (by simp [mark])
        (by simp [mark]) (by simp [inside]), ordinary.1, ih ordinary.2 other]
      rfl

/-! ### The chosen style -/

/-- A text without runs of a character is without the character. -/
theorem not_mem_of_longestRun {mark : Char} {current : Nat}
    (none : longestRun mark current text = 0) : mark ∉ text := by
  induction text generalizing current with
  | nil => exact List.not_mem_nil
  | cons c text ih =>
    simp only [longestRun] at none
    split at none
    · have positive := le_longestRun mark (current + 1) text
      omega
    · rename_i different
      rw [Nat.max_eq_zero_iff] at none
      rw [beq_iff_eq] at different
      simp [Ne.symm different, ih none.2]

/-- A text that starts with something else keeps its line ends. -/
theorem dropLineEnd_of_head {first : Char} (newline : first ≠ '\n') (carriage : first ≠ '\x0d')
    (rest : List Char) : dropLineEnd (first :: rest) = first :: rest := by
  simp [dropLineEnd, newline, carriage]

/-- Exactly the line end that opens a text of several lines is dropped, if a text of one line starts
with no other. -/
theorem dropLineEnd_openingLineEnd {text written : List Char}
    (starts : '\n' ∉ text → dropLineEnd written = written) :
    dropLineEnd (openingLineEnd text ++ written) = written := by
  unfold openingLineEnd
  split
  · rfl
  · rename_i single
    exact starts (by simpa using single)

/-- A text of one line in triple double quotes does not start with a line end. -/
theorem dropLineEnd_escapedLines (single : '\n' ∉ text) (closing : List Char) :
    dropLineEnd (escapedLines 0 text ++ '\x22' :: closing) =
      escapedLines 0 text ++ '\x22' :: closing := by
  cases text with
  | nil => rfl
  | cons c text =>
    rw [List.mem_cons, not_or] at single
    have newline : (c == '\n') = false := by simpa using Ne.symm single.1
    simp only [escapedLines, newline, Bool.false_eq_true, if_false]
    split
    · rename_i quote
      rw [Bool.and_eq_true, beq_iff_eq] at quote
      exact dropLineEnd_of_head (by rw [quote.1]; decide) (by rw [quote.1]; decide) _
    · obtain ⟨first, more, written, _, notNewline, notCarriage⟩ := head_escaped c
      rw [written]
      exact dropLineEnd_of_head notNewline notCarriage _

/-- A text of one line in triple apostrophes does not start with a line end. -/
theorem dropLineEnd_ordinary (ordinary : ∀ c ∈ text, isControl c = false) (single : '\n' ∉ text)
    (closing : List Char) :
    dropLineEnd (text ++ '\x27' :: closing) = text ++ '\x27' :: closing := by
  cases text with
  | nil => rfl
  | cons c text =>
    rw [List.mem_cons, not_or] at single
    have carriage : c ≠ '\x0d' :=
      (ne_of_class (by decide) (ordinary c List.mem_cons_self)).symm
    exact dropLineEnd_of_head (Ne.symm single.1) carriage _

/-- A quotation mark that two others do not follow opens a string on one line. -/
theorem readText?_quote (single : opensPair '\x22' next = false) :
    readText? ('\x22' :: next) = basicText next := by
  have noPair := ne_pair_of_opensPair single
  exact readText?.eq_2 next noPair

/-- An apostrophe that two others do not follow opens a string on one line. -/
theorem readText?_apostrophe (single : opensPair '\x27' next = false) :
    readText? ('\x27' :: next) = literalText next := by
  have noPair := ne_pair_of_opensPair single
  exact readText?.eq_4 next noPair

/-- The basic style on one line can hold every text. -/
theorem readText?_basic (quote : ∀ more, rest ≠ '\x22' :: more) (text : List Char) :
    readText? (TextStyle.basic.write text ++ rest) = some (text, rest) := by
  have single : opensPair '\x22' (text.flatMap escaped ++ '\x22' :: rest) = false := by
    cases text with
    | nil => exact opensPair_of_ends quote
    | cons c text =>
      obtain ⟨first, more, written, different, _⟩ := head_escaped c
      rw [List.flatMap_cons, written]
      exact opensPair_of_head different _
  have read := readText?_quote single
  rw [basicText_flatMap] at read
  simpa [TextStyle.write] using read

/-- The basic style over several lines can hold every text. -/
theorem readText?_multiBasic (quote : ∀ more, rest ≠ '\x22' :: more) (text : List Char) :
    readText? (TextStyle.multiBasic.write text ++ rest) = some (text, rest) := by
  have dropped := dropLineEnd_openingLineEnd
    fun single : '\n' ∉ text => dropLineEnd_escapedLines single ('\x22' :: '\x22' :: rest)
  have read := multiBasicText_escapedLines quote text (Nat.zero_le 2)
  simp only [TextStyle.write, List.cons_append, List.nil_append, List.append_assoc, readText?,
    dropped]
  exact read

/-- The literal style on one line can hold a text of plain characters without apostrophes. -/
theorem readText?_literal (apostrophe : ∀ more, rest ≠ '\x27' :: more)
    (plain : ∀ c ∈ text, isPlain c = true) (unquoted : '\x27' ∉ text) :
    readText? (TextStyle.literal.write text ++ rest) = some (text, rest) := by
  have single : opensPair '\x27' (text ++ '\x27' :: rest) = false := by
    cases text with
    | nil => exact opensPair_of_ends apostrophe
    | cons c text =>
      rw [List.mem_cons, not_or] at unquoted
      exact opensPair_of_head (Ne.symm unquoted.1) _
  have read := readText?_apostrophe single
  rw [literalText_append plain unquoted] at read
  simpa [TextStyle.write] using read

/-- The literal style over several lines can hold a text without control characters and without
three apostrophes side by side. -/
theorem readText?_multiLiteral (apostrophe : ∀ more, rest ≠ '\x27' :: more)
    (ordinary : ∀ c ∈ text, isControl c = false) (short : longestRun '\x27' 0 text ≤ 2) :
    readText? (TextStyle.multiLiteral.write text ++ rest) = some (text, rest) := by
  have dropped := dropLineEnd_openingLineEnd
    fun single => dropLineEnd_ordinary ordinary single ('\x27' :: '\x27' :: rest)
  have read := multiLiteralText_append apostrophe ordinary short
  simp only [TextStyle.write, List.cons_append, List.nil_append, List.append_assoc, readText?,
    dropped]
  exact read

/-- A written string reads as the string, and reading ends where the writing ended. -/
theorem readText?_writeText (quote : ∀ more, rest ≠ '\x22' :: more)
    (apostrophe : ∀ more, rest ≠ '\x27' :: more) (text : List Char) :
    readText? (writeText text ++ rest) = some (text, rest) := by
  have ordinary (unescaped : (!text.any isControl) = true) : ∀ c ∈ text, isControl c = false := by
    simpa using unescaped
  simp only [writeText, TextStyle.ofText]
  split
  · exact readText?_basic quote text
  split
  · rename_i literal
    simp only [Bool.and_eq_true, beq_iff_eq] at literal
    obtain ⟨⟨unescaped, unquoted⟩, single⟩ := literal
    have plain : ∀ c ∈ text, isPlain c = true := by
      intro c member
      have notNewline : c ≠ '\n' := by
        rintro rfl
        simp [member] at single
      simp [isPlain, ordinary unescaped c member, notNewline]
    exact readText?_literal apostrophe plain (not_mem_of_longestRun unquoted)
  split
  · exact readText?_multiBasic quote text
  split
  · rename_i literal
    rw [Bool.and_eq_true, decide_eq_true_eq] at literal
    exact readText?_multiLiteral apostrophe (ordinary literal.1) literal.2
  split
  · exact readText?_multiBasic quote text
  · exact readText?_basic quote text

end

end Callwise.Toml
