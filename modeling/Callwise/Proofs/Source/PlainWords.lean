import Callwise.Source.Scanner

/-!
# Scanning words between marks

A plain text consists of words, of brackets around a part of it, and of commas and bars between its
parts. What a word is scanned as does not depend on where it stands, as long as a blank, a comma, a
bracket or nothing at all comes behind it. So the tokens of a plain text are put together from those
of its parts: `Spells` says what a text is scanned as wherever it stands, and
`Spells.ofText` that this holds of the text by itself.

Scanning takes `match`, `case` and `type` for keywords at first. Inside a line they are settled to
be names.
-/

namespace Callwise

/-- Letters that a name may consist of, the first one such that a name may begin with it. -/
def isWord (text : String) : Bool :=
  text.toList.head?.any NameChar.isStart && text.toList.all NameChar.isContinue

/-- A word that is no keyword everywhere. -/
def isIdentifier (text : String) : Bool := isWord text && !Token.hardKeywords.contains text

namespace Token

/-- The token inside a line, where words such as `match` are names. -/
def settled : Token → Token
  | .keyword word => if softKeywords.contains word then .name word else .keyword word
  | other => other

/-- A name or `None`. -/
def isWord : Token → Bool
  | .name _ | .keyword "None" => true
  | _ => false

/-- A word or one of the marks of a plain text. -/
def isPlain (token : Token) : Bool :=
  token.isWord || [.symbol "[", .symbol "]", .symbol ",", .symbol "|"].contains token

/-- Words and marks, a word first. -/
structure ArePlain (tokens : List Token) : Prop where
  begins : ∃ first ∈ tokens.head?, first.isWord = true
  plain : ∀ token ∈ tokens, token.isPlain = true

theorem ArePlain.word {token : Token} (isWord : token.isWord = true) : ArePlain [token] where
  begins := ⟨token, rfl, isWord⟩
  plain := by simp [isPlain, isWord]

/-- Plain tokens may be followed by marks and further words. -/
theorem ArePlain.append {left right : List Token} (first : ArePlain left)
    (second : ∀ token ∈ right, token.isPlain = true) : ArePlain (left ++ right) where
  begins := by
    obtain ⟨token, isFirst, isWord⟩ := first.begins
    exact ⟨token, by rw [List.head?_append, isFirst]; rfl, isWord⟩
  plain := List.forall_mem_append.mpr ⟨first.plain, second⟩

/-- An identifier is a name once keywords are told from names. -/
theorem settled_ofWord_of_isIdentifier {text : String} (isName : isIdentifier text = true) :
    (ofWord text).settled = .name text := by
  simp only [isIdentifier, Bool.and_eq_true, Bool.not_eq_true'] at isName
  simp only [ofWord, isName.2, Bool.false_or]
  split
  · rename_i soft
    simp only [settled, soft, if_true]
  · rfl

end Token

/-! ### Words -/

/-- The characters that come behind words. -/
def wordEnds : List Char := [' ', ',', '[', ']']

/-- A word ends here: nothing follows, or a blank, a comma or a bracket. -/
def EndsWord (rest : List Char) : Prop := ∀ char ∈ rest.head?, char ∈ wordEnds

theorem EndsWord.nil : EndsWord [] := by simp [EndsWord]

theorem EndsWord.cons {char : Char} (ends : char ∈ wordEnds) (rest : List Char) :
    EndsWord (char :: rest) := by
  simpa [EndsWord] using ends

/-- A test that none of the characters passes. -/
theorem eq_false_of_mem {test : Char → Bool} {chars : List Char} (fails : chars.any test = false) :
    ∀ char ∈ chars, test char = false := by
  simpa using fails

namespace NameChar

theorem isContinue_of_isStart {char : Char} (starts : isStart char = true) :
    isContinue char = true := by
  simp [isContinue, starts]

/-- A byte order mark begins no name. -/
theorem isStart_byteOrderMark : isStart '\uFEFF' = false := by
  -- The kernel walks through a list faster than through an array.
  have outside : (startRanges.toList.any fun range =>
      range.1 ≤ '\uFEFF'.toNat && '\uFEFF'.toNat ≤ range.1 + range.2) = false := by decide +kernel
  rw [isStart, inRanges, ← Array.any_toList, outside]
  decide

/-- What ends a word is no part of it. -/
theorem isContinue_of_mem_wordEnds : ∀ char ∈ wordEnds, isContinue char = false :=
  eq_false_of_mem (by decide)

theorem ne_of_isContinue {char other : Char} (goesOn : isContinue char = true)
    (stops : isContinue other = false) : char ≠ other := by
  rintro rfl
  simp [goesOn] at stops

end NameChar

namespace Glyph

/-- A character other than a carriage return is one glyph. -/
theorem ofChars_cons {char : Char} (ordinary : char ≠ '\r') (offset : Nat) (rest : List Char) :
    ofChars offset (char :: rest) =
      ⟨char, offset, offset + char.utf8Size⟩ :: ofChars (offset + char.utf8Size) rest := by
  rw [ofChars]
  · intro _ isReturn
    exact absurd isReturn ordinary
  · intro isReturn
    exact absurd isReturn ordinary

/-- Where a word ends, a glyph that does not belong to it comes next, if any. -/
theorem ofChars_of_endsWord {rest : List Char} (ends : EndsWord rest) (offset : Nat) :
    ∀ glyph ∈ (ofChars offset rest).head?, glyph.char ∈ wordEnds := by
  cases rest with
  | nil => simp [ofChars]
  | cons first rest =>
    have mark := ends first rfl
    have ordinary : first ≠ '\r' := by
      rintro rfl
      exact absurd mark (by decide)
    rw [ofChars_cons ordinary]
    simpa using mark

/-- A word goes up to its end. -/
theorem run_ofChars {word rest : List Char}
    (letters : ∀ char ∈ word, NameChar.isContinue char = true) (ends : EndsWord rest)
    (offset : Nat) :
    run NameChar.isContinue (ofChars offset (word ++ rest)) = word ∧
      ∃ behind, (ofChars offset (word ++ rest)).drop word.length = ofChars behind rest := by
  induction word generalizing offset with
  | nil =>
    refine ⟨?_, offset, rfl⟩
    have marks := ofChars_of_endsWord ends offset
    rw [List.nil_append]
    cases glyphs : ofChars offset rest with
    | nil => rfl
    | cons first others =>
      rw [glyphs] at marks
      simp [run, NameChar.isContinue_of_mem_wordEnds _ (marks first rfl)]
  | cons first word ih =>
    rw [List.forall_mem_cons] at letters
    have ordinary : first ≠ '\r' := NameChar.ne_of_isContinue letters.1 (by decide)
    obtain ⟨runs, drops⟩ := ih letters.2 (offset + first.utf8Size)
    rw [List.cons_append, ofChars_cons ordinary]
    exact ⟨by simp [run, letters.1, runs], drops⟩

end Glyph

namespace Scan

/-- Characters of words are no quotes. -/
theorem isQuote_of_isContinue {char : Char} (goesOn : NameChar.isContinue char = true) :
    isQuote char = false := by
  have noDouble : char ≠ '"' := NameChar.ne_of_isContinue goesOn (by decide)
  have noSingle : char ≠ '\'' := NameChar.ne_of_isContinue goesOn (by decide)
  simp [isQuote, noDouble, noSingle]

theorem isQuote_of_mem_wordEnds : ∀ char ∈ wordEnds, isQuote char = false :=
  eq_false_of_mem (by decide)

/-- A letter at the end of a word does not begin a string. -/
theorem ofLetters?_of_mem_wordEnds (first : Char) :
    ∀ char ∈ wordEnds, StringStyle.ofLetters? first char = none := by
  simp [wordEnds, StringStyle.ofLetters?]

/-- What begins with the letters of a word is no string. -/
theorem stringStart?_eq_none {first : Char} {word rest : List Char}
    (letters : ∀ char ∈ word, NameChar.isContinue char = true) (ends : EndsWord rest)
    (span : Span) (offset : Nat) :
    stringStart? (⟨first, span⟩ :: Glyph.ofChars offset (word ++ rest)) = none := by
  have marks := fun offset => Glyph.ofChars_of_endsWord ends offset
  rcases word with _ | ⟨second, _ | ⟨third, others⟩⟩
  · rw [List.nil_append]
    cases glyphs : Glyph.ofChars offset rest with
    | nil => rfl
    | cons second others =>
      have mark := marks offset second (by rw [glyphs]; rfl)
      simp [stringStart?, isQuote_of_mem_wordEnds _ mark,
        ofLetters?_of_mem_wordEnds first _ mark]
  · have letter := letters second (by simp)
    rw [List.singleton_append, Glyph.ofChars_cons (NameChar.ne_of_isContinue letter (by decide))]
    cases glyphs : Glyph.ofChars (offset + second.utf8Size) rest with
    | nil => simp [stringStart?, isQuote_of_isContinue letter, Glyph.startsWith, Glyph.char?]
    | cons third others =>
      have mark := marks _ third (by rw [glyphs]; rfl)
      simp [stringStart?, isQuote_of_isContinue letter, Glyph.startsWith, Glyph.char?,
        isQuote_of_mem_wordEnds _ mark]
  · have letter := letters second (by simp)
    have letterToo := letters third (by simp)
    rw [List.cons_append, Glyph.ofChars_cons (NameChar.ne_of_isContinue letter (by decide)),
      List.cons_append, Glyph.ofChars_cons (NameChar.ne_of_isContinue letterToo (by decide))]
    simp [stringStart?, isQuote_of_isContinue letter, Glyph.startsWith, Glyph.char?,
      isQuote_of_isContinue letterToo]

/-- A word is scanned up to its end. -/
theorem next_word {first : Char} {word rest : List Char} (starts : NameChar.isStart first = true)
    (letters : ∀ char ∈ word, NameChar.isContinue char = true) (ends : EndsWord rest)
    (span : Span) (offset nesting : Nat) :
    next ⟨first, span⟩ (Glyph.ofChars offset (word ++ rest)) nesting =
      .ok ⟨some (.ofWord (String.ofList (first :: word))), word.length⟩ := by
  have whole : Glyph.run NameChar.isContinue
      (⟨first, span⟩ :: Glyph.ofChars offset (word ++ rest)) = first :: word := by
    simp [Glyph.run, NameChar.isContinue_of_isStart starts,
      (Glyph.run_ofChars letters ends offset).1]
  simp [next, starts, Scan.word, stringStart?_eq_none letters ends, whole]

/-- A symbol of one character, which is the beginning of no longer one. -/
theorem next_symbol {mark : Char} (isMark : mark ∈ ['[', ']', ',']) (span : Span)
    (glyphs : List Glyph) (nesting : Nat) :
    next ⟨mark, span⟩ glyphs nesting = .ok ⟨some (.symbol (String.singleton mark)), 0⟩ := by
  have others : ∀ char ∈ ['[', ']', ','], NameChar.isStart char = false :=
    eq_false_of_mem (by decide)
  have symbol : symbol? (⟨mark, span⟩ :: glyphs) = some [mark] := by
    simp only [List.mem_cons, List.not_mem_nil, or_false] at isMark
    rcases isMark with rfl | rfl | rfl <;> simp [symbol?, symbols]
  have noName := others mark isMark
  simp only [List.mem_cons, List.not_mem_nil, or_false] at isMark
  rcases isMark with rfl | rfl | rfl <;> simp [next, noName, symbol, isQuote]

/-- A bar with a blank behind it. -/
theorem next_bar (span blank : Span) (glyphs : List Glyph) (nesting : Nat) :
    next ⟨'|', span⟩ (⟨' ', blank⟩ :: glyphs) nesting = .ok ⟨some (.symbol "|"), 0⟩ := by
  have symbol : symbol? (⟨'|', span⟩ :: ⟨' ', blank⟩ :: glyphs) = some ['|'] := by
    simp [symbol?, symbols]
  simp [next, symbol, isQuote, show NameChar.isStart '|' = false by decide]

/-- A blank is skipped. -/
theorem next_blank (span : Span) (glyphs : List Glyph) (nesting : Nat) :
    next ⟨' ', span⟩ glyphs nesting = .ok ⟨none, 0⟩ := by
  simp [next, isQuote, show NameChar.isStart ' ' = false by decide]

end Scan

/-! ### Steps inside a line -/

/-- The scanner inside an unindented line, at this depth of nesting. -/
def Scanner.inLine (nesting : Nat) : Scanner := ⟨[⟨0, 0⟩], nesting, false⟩

namespace Scanner

/-- Inside a line no line begins. -/
theorem beginLine_inLine (nesting stop : Nat) (glyphs : List Glyph) :
    (inLine nesting).beginLine glyphs stop = .ok ([], inLine nesting, glyphs) := rfl

/-- At the end of the text the line ends. -/
theorem scan_inLine_nil (stop : Nat) (reversed : List Lexeme) :
    (inLine 0).scan stop [] reversed = .ok (reversed.reverse ++ [⟨.newline, stop, stop⟩]) := by
  rw [scan]
  simp only [beginLine_inLine]
  rfl

/-- Blank space is passed over. -/
theorem scan_inLine_blank {nesting extra : Nat} {first : Glyph} {glyphs : List Glyph}
    (next : Scan.next first glyphs (inLine nesting).nesting = .ok ⟨none, extra⟩) (stop : Nat)
    (reversed : List Lexeme) :
    (inLine nesting).scan stop (first :: glyphs) reversed =
      (inLine nesting).scan stop (glyphs.drop extra) reversed := by
  rw [scan]
  simp only [beginLine_inLine, next]
  rfl

/-- A token is added to those found. -/
theorem scan_inLine_token {nesting extra after : Nat} {first : Glyph} {glyphs : List Glyph}
    {token : Token}
    (next : Scan.next first glyphs (inLine nesting).nesting = .ok ⟨some token, extra⟩)
    (nested : nestingAfter? (inLine nesting).nesting token = some after)
    (sameLine : token ≠ .newline) (stop : Nat) (reversed : List Lexeme) :
    ∃ span, (inLine nesting).scan stop (first :: glyphs) reversed =
      (inLine after).scan stop (glyphs.drop extra) (⟨token, span⟩ :: reversed) := by
  refine ⟨⟨first.span.start, ((glyphs.take extra).getLast?.getD first).span.stop⟩, ?_⟩
  have goesOn : (token == .newline) = false := beq_false_of_ne sameLine
  rw [scan]
  simp only [beginLine_inLine, next, nested]
  simp [inLine, goesOn]

/-- A line that begins with a word is not indented. -/
theorem scan_of_isStart {first : Glyph} (starts : NameChar.isStart first.char = true)
    (stop : Nat) (glyphs : List Glyph) (reversed : List Lexeme) :
    scan {} stop (first :: glyphs) reversed = (inLine 0).scan stop (first :: glyphs) reversed := by
  have letter := NameChar.isContinue_of_isStart starts
  have noBlank : first.char ∉ ['\n', ' ', '\t', '\x0c', '#'] := by
    intro blank
    have stops : ∀ char ∈ ['\n', ' ', '\t', '\x0c', '#'], NameChar.isContinue char = false :=
      eq_false_of_mem (by decide)
    exact NameChar.ne_of_isContinue letter (stops _ blank) rfl
  simp only [List.mem_cons, List.not_mem_nil, or_false, not_or] at noBlank
  obtain ⟨noLineEnd, noSpace, noTab, noFeed, noComment⟩ := noBlank
  have unindented : Indentation.read ⟨0, 0⟩ false (first :: glyphs) =
      .ok (⟨0, 0⟩, first :: glyphs) := by
    simp [Indentation.read, noLineEnd, noSpace, noTab, noFeed, noComment]
  have begun : beginLine {} (first :: glyphs) stop =
      .ok ([], inLine 0, first :: glyphs) := by
    simp only [beginLine, unindented]
    rfl
  rw [scan.eq_def {}, scan.eq_def (inLine 0), begun, beginLine_inLine]

end Scanner

namespace Lexeme

/-- Plain tokens stand on one line. -/
theorem endsLine_of_isPlain {token : Token} (plain : token.settled.isPlain = true) :
    endsLine token = false := by
  cases token with
  | newline | indent | dedent => cases plain
  | _ => rfl

/-- Inside a line the tokens are settled one by one. -/
theorem resolveKeywords_inLine {lexemes : List Lexeme}
    (plain : ∀ lexeme ∈ lexemes, lexeme.token.settled.isPlain = true) (rest : List Lexeme) :
    (resolveKeywords false (lexemes ++ rest)).map token =
      (lexemes.map fun lexeme => lexeme.token.settled) ++
        (resolveKeywords false rest).map token := by
  induction lexemes with
  | nil => rfl
  | cons first others ih =>
    rw [List.forall_mem_cons] at plain
    have sameLine : endsLine first.token = false := endsLine_of_isPlain plain.1
    rw [List.cons_append, resolveKeywords, sameLine, List.map_cons, List.map_cons,
      ih plain.2, List.cons_append]
    congr 1
    simp only [Bool.false_and]
    cases token : first.token with
    | keyword word =>
      by_cases soft : word ∈ Token.softKeywords
      · simp only [Token.softKeywords, List.mem_cons, List.not_mem_nil, or_false] at soft
        rcases soft with rfl | rfl | rfl <;> rfl
      · have hard : Token.softKeywords.contains word = false := by simpa using soft
        simp only [Token.settled, hard]
        split <;> simp_all [Token.softKeywords]
    | _ => simp only [token, Token.settled]

end Lexeme

/-- Where `rest` follows, scanning takes the text for the tokens and comes from one depth of nesting
to the other. -/
def Scans (text : List Char) (before after : Nat) (tokens : List Token) (rest : List Char) : Prop :=
  ∀ (stop offset : Nat) (reversed : List Lexeme), ∃ (lexemes : List Lexeme) (behind : Nat),
    (lexemes.map fun lexeme => lexeme.token.settled) = tokens ∧
      (Scanner.inLine before).scan stop (Glyph.ofChars offset (text ++ rest)) reversed =
        (Scanner.inLine after).scan stop (Glyph.ofChars behind rest) (lexemes.reverse ++ reversed)

namespace Scans

/-- Texts one behind the other are scanned one after the other. -/
theorem append {left right rest : List Char} {before middle after : Nat}
    {leftTokens rightTokens : List Token}
    (first : Scans left before middle leftTokens (right ++ rest))
    (second : Scans right middle after rightTokens rest) :
    Scans (left ++ right) before after (leftTokens ++ rightTokens) rest := by
  intro stop offset reversed
  obtain ⟨leftLexemes, behindLeft, leftSettled, leftScan⟩ := first stop offset reversed
  obtain ⟨rightLexemes, behind, rightSettled, rightScan⟩ :=
    second stop behindLeft (leftLexemes.reverse ++ reversed)
  refine ⟨leftLexemes ++ rightLexemes, behind, ?_, ?_⟩
  · rw [List.map_append, leftSettled, rightSettled]
  · rw [List.append_assoc, leftScan, rightScan, List.reverse_append, List.append_assoc]

/-- Text that one step takes for a token. -/
theorem token {first : Char} {text rest : List Char} {before after : Nat} {token : Token}
    (ordinary : first ≠ '\r')
    (next : ∀ span offset, Scan.next ⟨first, span⟩ (Glyph.ofChars offset (text ++ rest)) before =
      .ok ⟨some token, text.length⟩)
    (drops : ∀ offset, ∃ behind,
      (Glyph.ofChars offset (text ++ rest)).drop text.length = Glyph.ofChars behind rest)
    (nested : Scanner.nestingAfter? before token = some after) (sameLine : token ≠ .newline) :
    Scans (first :: text) before after [token.settled] rest := by
  intro stop offset reversed
  obtain ⟨behind, dropped⟩ := drops (offset + first.utf8Size)
  obtain ⟨span, step⟩ := Scanner.scan_inLine_token
    (next ⟨offset, offset + first.utf8Size⟩ (offset + first.utf8Size)) nested sameLine stop reversed
  refine ⟨[⟨token, span⟩], behind, rfl, ?_⟩
  rw [List.cons_append, Glyph.ofChars_cons ordinary, step, dropped]
  rfl

/-- A bracket or a comma. -/
theorem symbol {mark : Char} (isMark : mark ∈ ['[', ']', ',']) {before after : Nat}
    (nested : Scanner.nestingAfter? before (.symbol (String.singleton mark)) = some after)
    (rest : List Char) :
    Scans [mark] before after [.symbol (String.singleton mark)] rest := by
  have ordinary : mark ≠ '\r' := by
    rintro rfl
    exact absurd isMark (by decide)
  exact token ordinary (fun span offset => Scan.next_symbol isMark span _ before)
    (fun offset => ⟨offset, rfl⟩) nested (by simp)

theorem blank (nesting : Nat) (rest : List Char) : Scans [' '] nesting nesting [] rest := by
  intro stop offset reversed
  refine ⟨[], offset + ' '.utf8Size, rfl, ?_⟩
  rw [List.singleton_append, Glyph.ofChars_cons (by decide)]
  exact Scanner.scan_inLine_blank (Scan.next_blank _ _ nesting) stop reversed

/-- A bar with a blank behind it. -/
theorem bar (nesting : Nat) (rest : List Char) :
    Scans ['|'] nesting nesting [.symbol "|"] (' ' :: rest) := by
  have next : ∀ span offset,
      Scan.next ⟨'|', span⟩ (Glyph.ofChars offset ([] ++ ' ' :: rest)) nesting =
        .ok ⟨some (.symbol "|"), 0⟩ := by
    intro span offset
    rw [List.nil_append, Glyph.ofChars_cons (by decide)]
    exact Scan.next_bar span _ _ nesting
  exact token (by decide) next (fun offset => ⟨offset, rfl⟩) rfl (by simp)

/-- A word up to its end. -/
theorem word {text : String} (isWord : isWord text = true) (nesting : Nat) {rest : List Char}
    (ends : EndsWord rest) :
    Scans text.toList nesting nesting [(Token.ofWord text).settled] rest := by
  simp only [Callwise.isWord, Bool.and_eq_true, List.all_eq_true] at isWord
  obtain ⟨starts, letters⟩ := isWord
  have spelled : String.ofList text.toList = text := String.ofList_toList
  cases chars : text.toList with
  | nil => simp [chars] at starts
  | cons first word =>
    rw [chars] at starts letters spelled
    have starts : NameChar.isStart first = true := by simpa using starts
    rw [List.forall_mem_cons] at letters
    rw [← spelled]
    refine token (NameChar.ne_of_isContinue letters.1 (by decide))
      (fun span offset => Scan.next_word starts letters.2 ends span offset nesting)
      (fun offset => (Glyph.run_ofChars letters.2 ends offset).2) ?_ ?_
    · simp only [Token.ofWord]
      split <;> rfl
    · simp only [Token.ofWord]
      split <;> simp

end Scans

/-- Behind the separator of plain texts a word has ended, and it is scanned as the mark. -/
structure Separates (separator : List Char) (mark : Token) : Prop where
  nonempty : separator ≠ []
  ends : ∀ rest, EndsWord (separator ++ rest)
  plain : mark.isPlain = true
  scans : ∀ nesting rest, Scans separator nesting nesting [mark] rest

theorem separates_comma : Separates [',', ' '] (.symbol ",") where
  nonempty := by simp
  ends := fun _ => .cons (by decide) _
  plain := rfl
  scans := fun nesting rest => .append (.symbol (by decide) rfl _) (.blank nesting rest)

theorem separates_bar : Separates [' ', '|', ' '] (.symbol "|") where
  nonempty := by simp
  ends := fun _ => .cons (by decide) _
  plain := rfl
  scans := fun nesting rest =>
    .append (.blank nesting _) (.append (.bar nesting rest) (.blank nesting rest))

/-! ### Plain texts -/

/-- Wherever a word may end behind it, the text is scanned as these tokens. -/
structure Spells (text : List Char) (tokens : List Token) : Prop where
  /-- The text begins with a word. -/
  starts : ∃ first ∈ text.head?, NameChar.isStart first = true
  /-- Every token takes up a character. -/
  size : tokens.length ≤ text.length
  plain : Token.ArePlain tokens
  scans : ∀ nesting rest, EndsWord rest → Scans text nesting nesting tokens rest

namespace Spells

/-- A name stands for itself. -/
theorem name {text : String} (isName : isIdentifier text = true) :
    Spells text.toList [.name text] := by
  have settled := Token.settled_ofWord_of_isIdentifier isName
  simp only [isIdentifier, Bool.and_eq_true] at isName
  have isWord := isName.1
  simp only [Callwise.isWord, Bool.and_eq_true, Option.any_eq_true] at isWord
  obtain ⟨⟨first, isFirst, starts⟩, -⟩ := isWord
  refine ⟨⟨first, isFirst, starts⟩, ?_, .word rfl, ?_⟩
  · exact List.length_pos_of_mem (List.mem_of_mem_head? isFirst)
  · intro nesting rest ends
    rw [← settled]
    exact .word isName.1 nesting ends

theorem none : Spells "None".toList [.keyword "None"] where
  starts := ⟨'N', rfl, by decide⟩
  size := by decide
  plain := .word rfl
  scans := fun nesting _ ends => .word (by decide) nesting ends

/-- What is spelled begins with a letter. -/
theorem head?_append {left : List Char} {tokens : List Token} (spells : Spells left tokens)
    (right : List Char) : ∃ first ∈ (left ++ right).head?, NameChar.isStart first = true := by
  obtain ⟨first, isFirst, starts⟩ := spells.starts
  exact ⟨first, by rw [List.head?_append, isFirst]; rfl, starts⟩

/-- A text with another one in brackets behind it. -/
theorem bracket {base inner : List Char} {baseTokens tokens : List Token}
    (outside : Spells base baseTokens) (inside : Spells inner tokens) :
    Spells (base ++ (['['] ++ (inner ++ [']'])))
      (baseTokens ++ ([.symbol "["] ++ (tokens ++ [.symbol "]"]))) where
  starts := outside.head?_append _
  size := by
    have outerSize := outside.size
    have innerSize := inside.size
    simp only [List.length_append, List.length_singleton]
    omega
  plain := by
    refine outside.plain.append ?_
    simp only [List.forall_mem_append, List.forall_mem_singleton]
    exact ⟨by decide, inside.plain.plain, by decide⟩
  scans := by
    intro nesting rest ends
    have opens : Scanner.nestingAfter? nesting (.symbol "[") = some (nesting + 1) := rfl
    have closes : Scanner.nestingAfter? (nesting + 1) (.symbol "]") = some nesting := rfl
    exact .append (outside.scans nesting _ (.cons (by decide) _))
      (.append (.symbol (by decide) opens _)
        (.append (inside.scans (nesting + 1) _ (.cons (by decide) _))
          (.symbol (by decide) closes rest)))

/-- Two texts with a separator between them. -/
theorem between {left right separator : List Char} {leftTokens rightTokens : List Token}
    {mark : Token} (first : Spells left leftTokens) (separates : Separates separator mark)
    (second : Spells right rightTokens) :
    Spells (left ++ (separator ++ right)) (leftTokens ++ ([mark] ++ rightTokens)) where
  starts := first.head?_append _
  size := by
    have leftSize := first.size
    have rightSize := second.size
    have one := List.length_pos_iff.mpr separates.nonempty
    simp only [List.length_append, List.length_singleton]
    omega
  plain := by
    refine first.plain.append ?_
    simp only [List.forall_mem_append, List.forall_mem_singleton]
    exact ⟨separates.plain, second.plain.plain⟩
  scans := by
    intro nesting rest ends
    refine .append (first.scans nesting _ ?_)
      (.append (separates.scans nesting _) (second.scans nesting rest ends))
    rw [List.append_assoc]
    exact separates.ends _

/-- Texts with a separator between them, which stands for the mark. -/
theorem intercalate {α : Type} {text : α → List Char} {tokens : α → List Token}
    {separator : List Char} {mark : Token} (separates : Separates separator mark)
    {items : List α} (nonempty : items ≠ [])
    (each : ∀ item ∈ items, Spells (text item) (tokens item)) :
    Spells (separator.intercalate (items.map text)) ([mark].intercalate (items.map tokens)) := by
  induction items with
  | nil => contradiction
  | cons first rest ih =>
    rw [List.forall_mem_cons] at each
    cases rest with
    | nil => simpa [List.intercalate] using each.1
    | cons second others =>
      have joined := ih (by simp) each.2
      simp only [List.map_cons, List.intercalate_cons_cons, List.append_assoc] at joined ⊢
      exact each.1.between separates joined

/-- The first glyph of a plain text begins a word. -/
theorem ofChars {text : List Char} {tokens : List Token} (spells : Spells text tokens)
    (offset : Nat) : ∃ first glyphs, Glyph.ofChars offset text = first :: glyphs ∧
      NameChar.isStart first.char = true := by
  obtain ⟨first, isFirst, starts⟩ := spells.starts
  obtain ⟨others, rfl⟩ := List.head?_eq_some_iff.mp isFirst
  have letter := NameChar.isContinue_of_isStart starts
  exact ⟨_, _, Glyph.ofChars_cons (NameChar.ne_of_isContinue letter (by decide)) offset others,
    starts⟩

/-- A plain text by itself is one line. -/
theorem scan {text : List Char} {tokens : List Token} (spells : Spells text tokens)
    (offset stop : Nat) : ∃ lexemes : List Lexeme,
      (lexemes.map fun lexeme => lexeme.token.settled) = tokens ∧
        Scanner.scan {} stop (Glyph.ofChars offset text) [] =
          .ok (lexemes ++ [⟨.newline, stop, stop⟩]) := by
  obtain ⟨first, glyphs, same, starts⟩ := spells.ofChars offset
  obtain ⟨lexemes, behind, settled, scan⟩ := spells.scans 0 [] .nil stop offset []
  refine ⟨lexemes, settled, ?_⟩
  rw [same, Scanner.scan_of_isStart starts, ← same]
  simpa [Glyph.ofChars, Scanner.scan_inLine_nil] using scan

/-- The tokens of a plain text by itself. -/
theorem ofText {text : List Char} {tokens : List Token} (spells : Spells text tokens)
    (offset : Nat) : ∃ lexemes, Lexeme.ofText text offset false = .ok lexemes ∧
      lexemes.map Lexeme.token = tokens ++ [.newline] := by
  obtain ⟨first, glyphs, same, starts⟩ := spells.ofChars offset
  have noMark : first.char ≠ '\uFEFF' := by
    intro isMark
    rw [isMark, NameChar.isStart_byteOrderMark] at starts
    cases starts
  have unmarked : Glyph.startsWith (· == '\uFEFF') (Glyph.ofChars offset text) = false := by
    simp [same, Glyph.startsWith, Glyph.char?, noMark]
  simp only [Lexeme.ofText, unmarked, Bool.false_eq_true, if_false]
  generalize ((Glyph.ofChars offset text).getLast?.map _).getD offset = stop
  obtain ⟨lexemes, settled, scan⟩ := spells.scan offset stop
  have plain := spells.plain.plain
  rw [← settled, List.forall_mem_map] at plain
  rw [scan]
  refine ⟨_, rfl, ?_⟩
  rw [Lexeme.resolveKeywords_inLine plain, settled]
  rfl

end Spells

end Callwise
