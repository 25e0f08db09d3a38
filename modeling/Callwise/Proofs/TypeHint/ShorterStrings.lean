import Callwise.Proofs.Source.ExpressionParts
import Callwise.Proofs.Source.ScannedTokens
import Callwise.TypeHint

/-!
# Strings are longer than the strings inside them

A string literal takes up at least one glyph more than it has characters, and an escape sequence
takes up no fewer glyphs than what it stands for has. So the string literals of a text, put side by
side, are shorter than the text, and so is every string constant that the text is parsed into. This
is what `TypeHint.Shortens` asks of a parser, and `parseExpression` has it: reading annotations
ends, and `TypeHint.read` reads as deep as it has to.
-/

namespace Callwise

/-! ### Literals in a text -/

/-- The size of a string literal: its characters, and one more for its quotes. -/
def Token.textSize : Token → Nat
  | .string _ body _ => body.length + 1
  | _ => 0

/-- The size of all string literals. -/
def Lexeme.textSize : List Lexeme → Nat
  | [] => 0
  | first :: rest => first.token.textSize + textSize rest

/-- A literal takes up as many glyphs as its size. -/
theorem Scan.Finds.textSize_le {first : Glyph} {rest : List Glyph} {token : Token} {extra : Nat}
    (finds : Finds first rest ⟨some token, extra⟩) :
    token.textSize + (rest.drop extra).length ≤ rest.length + 1 := by
  have fewer : (rest.drop extra).length ≤ rest.length := by
    rw [List.length_drop]
    omega
  have none {token : Token} (size : token.textSize = 0) :
      token.textSize + (rest.drop extra).length ≤ rest.length + 1 := by omega
  cases finds with
  | @textless token isTextless =>
    refine none ?_
    cases token with
    | string => cases isTextless
    | _ => rfl
  | text _ _ quoted =>
    simp only [Token.textSize]
    omega
  | word =>
    refine none ?_
    unfold Token.ofWord
    split <;> rfl
  | picture => exact none rfl

/-- The literals found and the glyphs left are together no more than the glyphs of the text. -/
theorem Scanner.keeps_textSize (bound : Nat) :
    Keeps fun found left => Lexeme.textSize found + left ≤ bound where
  fewer less known := by omega
  textless {found left lexeme} isTextless known := by
    have none : lexeme.token.textSize = 0 := by
      cases same : lexeme.token with
      | string => simp [same, Token.isTextless] at isTextless
      | _ => rfl
    simpa [Lexeme.textSize, none] using known
  token span finds known := by
    have size := finds.textSize_le
    simp only [Lexeme.textSize]
    omega

/-- Leaving tokens out makes the literals no larger. -/
theorem Lexeme.textSize_le_of_sublist {some all : List Lexeme} (part : some.Sublist all) :
    textSize some ≤ textSize all := by
  induction part with
  | slnil => exact Nat.le_refl _
  | cons lexeme _ ih =>
    simp only [textSize]
    omega
  | cons_cons lexeme _ ih =>
    simp only [textSize]
    omega

/-- The order of tokens does not matter. -/
theorem Lexeme.textSize_eq_of_perm {left right : List Lexeme} (same : left.Perm right) :
    textSize left = textSize right := by
  induction same with
  | nil => rfl
  | cons lexeme _ ih => simp only [textSize, ih]
  | swap first second rest =>
    simp only [textSize]
    omega
  | trans _ _ first second => exact first.trans second

/-- The string literals have at most the given size. -/
def Words.short (bound : Nat) : Words where
  Hold lexemes := Lexeme.textSize lexemes ≤ bound
  sublist part all := Nat.le_trans (Lexeme.textSize_le_of_sublist part) all

/-- A line end of two characters is one glyph, so there are no more glyphs than characters. -/
theorem Glyph.length_ofChars_le (offset : Nat) (chars : List Char) :
    (ofChars offset chars).length ≤ chars.length := by
  fun_induction ofChars offset chars <;> simp only [List.length_cons, List.length_nil] <;> omega

/-- Turning keywords into names changes no literal. -/
theorem Lexeme.textSize_resolveKeywords (atStart : Bool) (lexemes : List Lexeme) :
    textSize (resolveKeywords atStart lexemes) = textSize lexemes := by
  induction lexemes generalizing atStart with
  | nil => rfl
  | cons lexeme rest ih =>
    have others := ih (endsLine lexeme.token)
    obtain ⟨resolved, same, settled⟩ := exists_resolveKeywords_cons atStart lexeme rest
    rw [same, textSize, textSize, others]
    obtain rfl | ⟨word, isWord, rfl⟩ := settled
    · rfl
    · rw [isWord]
      rfl

/-- The string literals of a text are together no larger than the text. -/
theorem Lexeme.yields_short (text : List Char) (offset : Nat) (isProgram : Bool) :
    Yields (Words.short text.length).Hold (ofText text offset isProgram) := by
  have glyphs := Glyph.length_ofChars_le offset text
  unfold ofText
  refine (Scanner.yields_scan (Scanner.keeps_textSize text.length) {} _ _ [] ?_).map ?_
  · simp only [textSize]
    split
    · rw [List.length_drop]
      omega
    · omega
  · intro lexemes size
    rw [textSize_eq_of_perm (List.reverse_perm lexemes)] at size
    simpa only [Words.short, textSize_resolveKeywords, Nat.add_zero] using size

/-! ### The values of literals -/

namespace StringLiteral

/-- An escape sequence with its backslash takes up as many glyphs as it stands for, or more. -/
theorem escape?_length {isBytes : Bool} {glyphs : List Glyph} {value : List Char} {count : Nat}
    (escape : escape? isBytes glyphs = some (value, count)) :
    value.length + (glyphs.drop count).length ≤ glyphs.length + 1 := by
  have one (char : Char) (taken : Nat) :
      [char].length + (glyphs.drop taken).length ≤ glyphs.length + 1 := by
    rw [List.length_drop, List.length_singleton]
    omega
  have perhaps {found : Option Char} {taken : Nat}
      (escape : found.map (fun char => ([char], taken)) = some (value, count)) :
      value.length + (glyphs.drop count).length ≤ glyphs.length + 1 := by
    obtain ⟨char, _, same⟩ := Option.map_eq_some_iff.mp escape
    cases same
    exact one char count
  unfold escape? at escape
  split at escape
  · cases escape
  · rename_i char span rest
    -- An unknown escape stands for its backslash and the one character behind it.
    have itself {value : List Char} {count : Nat} (escape : (['\\', char], 1) = (value, count)) :
        value.length + ((⟨char, span⟩ :: rest).drop count).length ≤
          (⟨char, span⟩ :: rest : List Glyph).length + 1 := by
      cases escape
      simp only [List.length_cons, List.length_nil, List.drop_succ_cons, List.drop_zero]
      omega
    -- The kinds of escapes in turn. All but an escaped line end stand for one character.
    split at escape
    · cases escape
      exact one _ _
    simp only at escape
    split at escape
    · cases escape
      exact one _ _
    split at escape
    · cases escape
      rw [List.length_nil, List.length_drop]
      omega
    split at escape
    · exact perhaps escape
    split at escape
    · split at escape
      · exact itself (Option.some.inj escape)
      · cases escape
    split at escape
    · exact perhaps escape
    split at escape
    · exact perhaps escape
    split at escape
    · obtain ⟨named, _, same⟩ := Option.map_eq_some_iff.mp escape
      cases same
      exact one _ _
    · exact itself (Option.some.inj escape)

/-- A literal has no more characters than glyphs. -/
theorem yields_decode (style : StringStyle) (glyphs : List Glyph) :
    Yields (fun value => value.length ≤ glyphs.length) (decode style glyphs) := by
  fun_induction decode style glyphs with
  | case1 => exact .ok (Nat.le_refl _)
  | case2 => exact .error _
  | case3 char span rest _ value count escape ih =>
    refine ih.map fun behind shorter => ?_
    have taken := escape?_length escape
    rw [List.length_append, List.length_cons]
    omega
  | case4 => exact .error _
  | case5 char span rest _ _ ih =>
    exact ih.map fun behind shorter => Nat.succ_le_succ shorter

end StringLiteral

namespace ExprGrammar

/-- A literal has no more characters than stand between its quotes. -/
theorem yields_literalText (style : StringStyle) (body : List Char) (bodyStart : Nat) :
    Yields (fun value => value.length ≤ body.length) (literalText style body bodyStart) := by
  refine .ite (fun _ => .ok (Nat.zero_le _)) fun _ value decoded => ?_
  exact Nat.le_trans (StringLiteral.yields_decode _ _ value decoded) (Glyph.length_ofChars_le _ _)

/-- Literals side by side have together one character less for each of them. -/
theorem yields_texts (lexemes : List Lexeme) :
    Yields (fun texts => texts.flatten.length + texts.length ≤ Lexeme.textSize lexemes)
      ((lexemes.filterMap fun lexeme => stringParts? lexeme.token).mapM fun parts =>
        literalText parts.1 parts.2.1 parts.2.2) := by
  induction lexemes with
  | nil => exact .ok (Nat.le_refl _)
  | cons lexeme rest ih =>
    rw [List.filterMap_cons, Lexeme.textSize]
    cases token : lexeme.token with
    | string style body bodyStart =>
      simp only [stringParts?, List.mapM_cons, Token.textSize]
      refine (yields_literalText style body bodyStart).bind fun first short => ?_
      refine ih.bind fun others shorter => .ok ?_
      simp only [List.flatten_cons, List.length_append, List.length_cons]
      omega
    | _ => simpa [stringParts?, Token.textSize] using ih

end ExprGrammar

/-! ### Parsed expressions -/

namespace TypeHint

mutual

/-- The strings in an annotation that reading can meet. -/
def textsIn : Expr → List String
  | .literal _ (.str text) => [text]
  | .subscript _ _ index => textsIn index
  | .binary _ _ left right => textsIn left ++ textsIn right
  | .tuple _ items => textsInAll items
  | .list _ items => textsInAll items
  | _ => []

/-- The strings in several annotations. -/
def textsInAll : List Expr → List String
  | [] => []
  | first :: rest => textsIn first ++ textsInAll rest

end

mutual

/-- The bound is the least number above the lengths of the strings. -/
theorem textBound_le_iff (bound : Nat) :
    (hint : Expr) → (textBound hint ≤ bound ↔ ∀ text ∈ textsIn hint, text.length < bound)
  | .literal _ value => by
    cases value
    case str text =>
      simp only [textBound, textsIn, List.mem_singleton, forall_eq, Nat.add_one_le_iff]
    all_goals simp [textBound, textsIn]
  | .subscript _ _ index => by simpa [textBound, textsIn] using textBound_le_iff bound index
  | .binary _ _ left right => by
    simp only [textBound, textsIn, Nat.max_le, List.forall_mem_append,
      textBound_le_iff bound left, textBound_le_iff bound right]
  | .tuple _ items => by simpa [textBound, textsIn] using textBoundAll_le_iff bound items
  | .list _ items => by simpa [textBound, textsIn] using textBoundAll_le_iff bound items
  | .name .. | .access .. | .call .. | .await .. | .set .. | .dict .. | .unary .. | .boolean ..
  | .compare .. | .conditional .. | .lambda .. | .formatted .. | .starred .. | .assignment ..
  | .comprehension .. | .slice _ | .yield _ => by simp [textBound, textsIn]

/-- The same of several annotations. -/
theorem textBoundAll_le_iff (bound : Nat) :
    (hints : List Expr) →
      (textBoundAll hints ≤ bound ↔ ∀ text ∈ textsInAll hints, text.length < bound)
  | [] => by simp [textBoundAll, textsInAll]
  | first :: rest => by
    simp only [textBoundAll, textsInAll, Nat.max_le, List.forall_mem_append,
      textBound_le_iff bound first, textBoundAll_le_iff bound rest]

end

/-- Every string in what a text is parsed into is shorter than the text. -/
def Shortens (parse : String → Option Expr) : Prop :=
  ∀ text inner, parse text = some inner → ∀ inside ∈ textsIn inner, inside.length < text.length

/-- A bound of each annotation is a bound of all. -/
theorem textBoundAll_le {bound : Nat} {hints : List Expr}
    (each : ∀ hint ∈ hints, textBound hint ≤ bound) : textBoundAll hints ≤ bound := by
  induction hints with
  | nil => exact Nat.zero_le _
  | cons first rest ih =>
    obtain ⟨atFirst, others⟩ := List.forall_mem_cons.mp each
    exact Nat.max_le.mpr ⟨atFirst, ih others⟩

/-- The strings in an expression are short if those in its parts are. Expressions between the braces
of a formatted string are not read as annotations. -/
theorem grows_textBound {bound : Nat} (positive : 0 < bound) :
    Expr.Grows (.short bound) (fun hint => textBound hint ≤ bound) (fun _ => True) where
  literal span value noText := by
    cases value with
    | str text => exact absurd rfl (noText text)
    | _ => exact Nat.zero_le _
  text {lexemes texts} span hold read := by
    have size := ExprGrammar.yields_texts lexemes texts read
    have hold : Lexeme.textSize lexemes ≤ bound := hold
    simp only [textBound, String.length_ofList]
    cases texts with
    | nil => exact positive
    | cons first rest =>
      rw [List.length_cons] at size
      omega
  name _ _ := Nat.zero_le _
  access _ _ _ := Nat.zero_le _
  call _ _ _ _ := Nat.zero_le _
  await _ _ := Nat.zero_le _
  list _ each := textBoundAll_le each
  tuple _ each := textBoundAll_le each
  set _ _ := Nat.zero_le _
  dict _ _ := Nat.zero_le _
  binary _ _ left right := Nat.max_le.mpr ⟨left, right⟩
  unary _ _ _ := Nat.zero_le _
  boolean _ _ := Nat.zero_le _
  compare _ _ _ := Nat.zero_le _
  conditional _ _ _ _ := Nat.zero_le _
  lambda _ _ _ := Nat.zero_le _
  subscript _ _ index := index
  formatted _ _ := Nat.zero_le _
  starred _ _ := Nat.zero_le _
  assignment _ _ _ := Nat.zero_le _
  comprehension _ _ := Nat.zero_le _
  slice _ := Nat.zero_le _
  yield _ := Nat.zero_le _

/-- Every string constant in a parsed text is shorter than the text. -/
theorem shortens_parseExpression : Shortens fun text => (parseExpression text).toOption := by
  intro text inner parsed
  have parsed : parseExpression text = .ok inner := by
    cases same : parseExpression text with
    | error => simp [same, Except.toOption] at parsed
    | ok other => simpa [same, Except.toOption] using parsed
  have positive : 0 < text.length := by
    apply Nat.pos_of_ne_zero
    intro none
    have refused : (parseExpression "").isOk = false := by decide +kernel
    rw [String.length_eq_zero_iff.mp none] at parsed
    rw [parsed] at refused
    cases refused
  rw [← textBound_le_iff]
  have yields : Yields (fun hint => textBound hint ≤ text.length) (parseExpression text) := by
    refine (Lexeme.yields_short text.toList 0 false).bind fun lexemes hold => ?_
    have build := ExprRules.build_ofDepth (grows_textBound positive)
      (fun _ _ _ => Yields.any _) (nestingBound text.toList)
    exact (ExprGrammar.gives_wholeText build).run hold
  exact yields inner parsed

end TypeHint

end Callwise
