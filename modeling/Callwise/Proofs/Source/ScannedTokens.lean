import Callwise.Proofs.Source.TokenRules
import Callwise.Source.Scanner

/-!
# What scanning finds

A scanning step finds blank space, a textless token, a string literal, a word, or a picture. A
string literal takes up more glyphs than its text has, because of its quotes. Scanning a whole text
goes from step to step and adds only textless tokens where lines begin and end, so what is known of
the tokens found and the glyphs left is known of the tokens of the whole text if every step keeps
it.
-/

namespace Callwise

/-- The token is no word and has no text. -/
def Token.isTextless : Token → Bool
  | .name _ | .keyword _ | .string .. => false
  | _ => true

namespace Scan

/-- What a step can find that begins with the first glyph. -/
inductive Finds (first : Glyph) (rest : List Glyph) : Scan → Prop where
  | blank (extra : Nat) : Finds first rest ⟨none, extra⟩
  | textless {token : Token} (isTextless : token.isTextless = true) (extra : Nat) :
    Finds first rest ⟨some token, extra⟩
  | text {body : List Char} {extra : Nat} (style : StringStyle) (bodyStart : Nat)
    (quoted : body.length + (rest.drop extra).length ≤ rest.length) :
    Finds first rest ⟨some (.string style body bodyStart), extra⟩
  | word (extra : Nat) :
    Finds first rest
      ⟨some (Token.ofWord (String.ofList (Glyph.run NameChar.isContinue (first :: rest)))), extra⟩
  | picture (isPicture : NameChar.isPicture first.char = true) :
    Finds first rest ⟨some (.name (String.singleton first.char)), 0⟩

variable {first : Glyph} {rest : List Glyph}

theorem yields_basedNumber (base : Nat) (glyphs : List Glyph) (offset : Nat) :
    Yields (Finds first rest) (basedNumber base glyphs offset) := by
  unfold basedNumber
  split
  · exact .error _
  · exact .ok (.textless rfl _)

theorem finds_realNumber (glyphs : List Glyph) (count : Nat) :
    Finds first rest (realNumber glyphs count) := by
  unfold realNumber
  split
  · exact .textless rfl _
  · exact .textless rfl _

theorem yields_decimalNumber (glyphs : List Glyph) (offset : Nat) :
    Yields (Finds first rest) (decimalNumber glyphs offset) := by
  unfold decimalNumber
  simp only
  split
  · refine (Yields.any _).bind fun fraction _ => (Yields.any _).bind fun exponent _ => .ok ?_
    exact finds_realNumber _ _
  · split
    · exact .ok (.textless rfl _)
    · split
      · exact .error _
      · exact .ok (.textless rfl _)

/-- A number is a textless token. -/
theorem yields_number (glyphs : List Glyph) (offset : Nat) :
    Yields (Finds first rest) (number glyphs offset) := by
  unfold number
  split
  · split
    · exact yields_basedNumber _ _ _
    · exact yields_decimalNumber _ _
  · exact yields_decimalNumber _ _

/-- The text up to the closing quotes and the quotes themselves are among the glyphs. -/
theorem stringBody_length {quote : Char} {isTriple : Bool} {glyphs : List Glyph} {body : List Char}
    {count : Nat} (found : stringBody quote isTriple glyphs = some (body, count)) :
    body.length < count ∧ count ≤ glyphs.length := by
  fun_induction stringBody quote isTriple glyphs generalizing body count with
  | case1 => cases found
  | case2 span escaped rest ih =>
    obtain ⟨⟨inner, fewer⟩, read, same⟩ := Option.map_eq_some_iff.mp found
    cases same
    have behind := ih read
    simp only [List.length_cons]
    omega
  | case3 => cases found
  | case4 glyph rest _ _ closing =>
    cases found
    simp
  | case5 glyph rest _ _ single closing =>
    cases found
    match rest with
    | [] | [_] => simp [atTwoQuotes] at closing
    | _ :: _ :: others => simp
  | case6 glyph rest _ _ _ _ ih =>
    obtain ⟨⟨inner, fewer⟩, read, same⟩ := Option.map_eq_some_iff.mp found
    cases same
    have behind := ih read
    simp only [List.length_cons]
    omega

/-- A string literal whose letters have been passed over. -/
theorem yields_stringLiteral (style : StringStyle) (letters : Nat) {glyphs : List Glyph}
    (fewer : glyphs.length ≤ rest.length + 1) (offset : Nat) :
    Yields (Finds first rest) (stringLiteral style letters glyphs offset) := by
  unfold stringLiteral
  split
  · exact .error _
  · rename_i opening others
    simp only
    split
    · exact .error _
    · rename_i body count found
      have taken := stringBody_length found
      refine .ok (.text style _ ?_)
      rw [List.length_drop] at taken ⊢
      rw [List.length_cons] at fewer
      split at taken <;> omega

/-- A name, a keyword, or a string literal with letters before it. -/
theorem yields_word (offset : Nat) : Yields (Finds first rest) (word (first :: rest) offset) := by
  unfold word
  split
  · refine yields_stringLiteral _ _ ?_ _
    rw [List.length_drop, List.length_cons]
    omega
  · exact .ok (.word _)

/-- The next token. The branches follow the characters with which it may begin. -/
theorem yields_next (nesting : Nat) : Yields (Finds first rest) (next first rest nesting) := by
  unfold next
  refine .ite (fun _ => yields_word _) fun _ => ?_
  refine .ite (fun _ => yields_number _ _) fun _ => ?_
  refine .ite (fun _ => .ok (.blank _)) fun _ => ?_
  refine .ite (fun _ => yields_stringLiteral _ _ (by simp) _) fun _ => ?_
  refine .ite (fun _ => .ok ?_) fun _ => ?_
  · split
    · exact .textless rfl _
    · exact .blank _
  refine .ite (fun _ => .ok (.blank _)) fun _ => ?_
  refine .ite (fun _ => ?_) fun _ => ?_
  · split
    · exact .ok (.blank _)
    · exact .error _
    · exact .error _
  split
  · exact .ok (.textless rfl _)
  · exact .ite (fun isPicture => .ok (.picture isPicture)) fun _ => .error _

end Scan

namespace Scanner

/-- The tokens at the end of a text, which end lines and blocks, are textless. -/
theorem yields_finish (scanner : Scanner) (stop : Nat) :
    Yields (fun closing => ∀ lexeme ∈ closing, lexeme.token.isTextless = true)
      (scanner.finish stop) := by
  unfold finish
  refine .ite (fun _ => .error _) fun _ => .ok ?_
  intro lexeme within
  simp only [List.map_append, List.mem_append, List.mem_map] at within
  obtain ⟨token, member, rfl⟩ | ⟨token, member, rfl⟩ := within
  · split at member
    · cases member
    · rw [List.mem_singleton.mp member]
      rfl
  · rw [List.eq_of_mem_replicate member]
    rfl

/-- The tokens of an indentation, which begin and end blocks, are textless. -/
theorem isTextless_of_enter {current : Indentation} {enclosing remaining : List Indentation}
    {tokens : List Token} (entered : current.enter enclosing = some (tokens, remaining)) :
    ∀ token ∈ tokens, token.isTextless = true := by
  unfold Indentation.enter at entered
  split at entered
  · cases entered
  · split at entered
    · cases entered
      simp
    · cases entered
      simp [Token.isTextless]
    · obtain ⟨⟨count, _⟩, _, same⟩ := Option.map_eq_some_iff.mp entered
      cases same
      intro token member
      rw [List.eq_of_mem_replicate member]
      rfl
    · cases entered

theorem yields_beginLine (scanner : Scanner) (glyphs : List Glyph) (stop : Nat) :
    Yields (fun begun => ∀ lexeme ∈ begun.1, lexeme.token.isTextless = true)
      (scanner.beginLine glyphs stop) := by
  unfold beginLine
  refine .ite (fun _ => .ok (by simp)) fun _ => ?_
  split
  · exact .error _
  · simp only
    split
    · exact .error _
    · rename_i tokens enclosing entered
      refine .ok ?_
      rw [List.forall_mem_map]
      exact isTextless_of_enter entered

/-- What is known of the tokens found, the last one first, and of the number of glyphs left is kept
by every step. -/
structure Keeps (known : List Lexeme → Nat → Prop) : Prop where
  fewer : ∀ {found : List Lexeme} {left less : Nat}, less ≤ left → known found left →
    known found less
  textless : ∀ {found : List Lexeme} {left : Nat} {lexeme : Lexeme},
    lexeme.token.isTextless = true → known found left → known (lexeme :: found) left
  token : ∀ {found : List Lexeme} {first : Glyph} {rest : List Glyph} {token : Token} {extra : Nat}
    (span : Span), Scan.Finds first rest ⟨some token, extra⟩ → known found (rest.length + 1) →
    known (⟨token, span⟩ :: found) (rest.drop extra).length

variable {known : List Lexeme → Nat → Prop}

/-- Textless tokens may be added. -/
theorem Keeps.allTextless (keeps : Keeps known) {found lexemes : List Lexeme} {left : Nat}
    (areTextless : ∀ lexeme ∈ lexemes, lexeme.token.isTextless = true) (start : known found left) :
    known (lexemes.reverse ++ found) left := by
  induction lexemes generalizing found with
  | nil => exact start
  | cons lexeme rest ih =>
    obtain ⟨isTextless, others⟩ := List.forall_mem_cons.mp areTextless
    rw [List.reverse_cons, List.append_assoc, List.singleton_append]
    exact ih others (keeps.textless isTextless start)

/-- What every step keeps is known of the tokens of the whole text. -/
theorem yields_scan (keeps : Keeps known) (scanner : Scanner) (stop : Nat) (glyphs : List Glyph)
    (reversed : List Lexeme) (start : known reversed glyphs.length) :
    Yields (fun lexemes => known lexemes.reverse 0) (scanner.scan stop glyphs reversed) := by
  have begins {scanner begun : Scanner} {glyphs rest : List Glyph} {leading reversed : List Lexeme}
      (started : scanner.beginLine glyphs stop = .ok (leading, begun, rest))
      (start : known reversed glyphs.length) : known (leading.reverse ++ reversed) rest.length :=
    keeps.allTextless (yields_beginLine scanner glyphs stop _ started)
      (keeps.fewer (beginLine_length started) start)
  fun_induction scan scanner stop glyphs reversed with
  | case1 | case3 | case5 => exact .error _
  | case2 scanner glyphs reversed leading begun started =>
    -- the text has ended
    refine (yields_finish begun stop).map fun closing areTextless => ?_
    rw [List.reverse_append, List.reverse_reverse]
    exact keeps.allTextless areTextless (begins started start)
  | case4 scanner glyphs reversed leading begun first rest started extra _ ih =>
    -- blank space
    refine ih (keeps.fewer ?_ (begins started start))
    rw [List.length_drop, List.length_cons]
    omega
  | case6 scanner glyphs reversed leading begun first rest started token extra next _ _ _ _ _
      ih =>
    exact ih
      (keeps.token _ (Scan.yields_next begun.nesting _ next) (begins started start))

end Scanner

/-- Settling which words are keywords turns some keywords into names and leaves all other tokens. -/
theorem Lexeme.exists_resolveKeywords_cons (atStart : Bool) (lexeme : Lexeme)
    (rest : List Lexeme) :
    ∃ resolved, resolveKeywords atStart (lexeme :: rest) =
        resolved :: resolveKeywords (endsLine lexeme.token) rest ∧
      (resolved = lexeme ∨
        ∃ word, lexeme.token = .keyword word ∧ resolved = ⟨.name word, lexeme.span⟩) := by
  refine ⟨_, rfl, ?_⟩
  split
  · rename_i word isWord
    have either (isKeyword : Bool) :
        (if isKeyword then lexeme else ⟨.name word, lexeme.span⟩) = lexeme ∨
          ∃ found, lexeme.token = .keyword found ∧
            (if isKeyword then lexeme else ⟨.name word, lexeme.span⟩) =
              ⟨.name found, lexeme.span⟩ := by
      cases isKeyword with
      | true => exact .inl rfl
      | false => exact .inr ⟨word, isWord, rfl⟩
    exact either _
  · exact .inl rfl

end Callwise
