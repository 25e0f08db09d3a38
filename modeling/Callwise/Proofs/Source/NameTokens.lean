import Callwise.Proofs.Source.ScannedTokens

/-!
# Names are undotted

The characters of a name are letters, digits, underscores and pictures, so no name has a dot. This
holds of all words that scanning finds, and it still holds when some words turn from keywords into
names.
-/

namespace Callwise

/-- The text has no dot: it is one part of a dotted name. -/
def IsUndotted (text : String) : Prop := '.' ∉ text.toList

/-- A word has no dot. Other tokens may have dots. -/
def Token.IsUndotted : Token → Prop
  | .name text | .keyword text => Callwise.IsUndotted text
  | _ => True

/-- Tokens that are no words have no dot to speak of. -/
theorem Token.isUndotted_of_isTextless {token : Token} (isTextless : token.isTextless = true) :
    token.IsUndotted := by
  cases token with
  | name | keyword | string => cases isTextless
  | _ => trivial

namespace Scan

/-- A name goes on with characters other than a dot. -/
theorem dot_notMem_run (glyphs : List Glyph) : '.' ∉ Glyph.run NameChar.isContinue glyphs := by
  induction glyphs with
  | nil => simp [Glyph.run]
  | cons glyph rest ih =>
    unfold Glyph.run
    split
    · rename_i continues
      have other : '.' ≠ glyph.char := by
        intro same
        rw [← same] at continues
        exact absurd continues (by decide)
      simp [other, ih]
    · simp

/-- A picture is a name of one character other than a dot. -/
theorem isUndotted_picture {char : Char} (isPicture : NameChar.isPicture char = true) :
    Callwise.IsUndotted (String.singleton char) := by
  intro dotted
  have same : '.' = char := by simpa using dotted
  rw [← same] at isPicture
  exact absurd isPicture (by decide)

/-- Words that are found are undotted. -/
theorem Finds.isUndotted {first : Glyph} {rest : List Glyph} {token : Token} {extra : Nat}
    (finds : Finds first rest ⟨some token, extra⟩) : token.IsUndotted := by
  cases finds with
  | textless isTextless => exact Token.isUndotted_of_isTextless isTextless
  | text => trivial
  | word =>
    have undotted : Callwise.IsUndotted
        (String.ofList (Glyph.run NameChar.isContinue (first :: rest))) := by
      simpa [Callwise.IsUndotted] using dot_notMem_run (first :: rest)
    unfold Token.ofWord
    split
    · exact undotted
    · exact undotted
  | picture isPicture => exact isUndotted_picture isPicture

end Scan

/-- The words are undotted. -/
def Words.undotted : Words where
  Hold lexemes := ∀ lexeme ∈ lexemes, lexeme.token.IsUndotted
  sublist part all lexeme member := all lexeme (part.subset member)

/-- A name among undotted words is undotted. -/
theorem Words.isUndotted_of_allow {id : String} (allowed : undotted.Allow (.name id)) :
    IsUndotted id := by
  obtain ⟨span, hold⟩ := allowed
  exact hold _ List.mem_cons_self

/-- A name that is taken from undotted words is undotted. -/
theorem Rule.Gives.undottedName : Gives .undotted IsUndotted Rule.name :=
  name.mono fun _ => Words.isUndotted_of_allow

/-- Scanning finds undotted words. -/
theorem Scanner.keeps_undotted : Keeps fun found _ => Words.undotted.Hold found where
  fewer _ hold := hold
  textless isTextless hold :=
    List.forall_mem_cons.mpr ⟨Token.isUndotted_of_isTextless isTextless, hold⟩
  token _ finds hold := List.forall_mem_cons.mpr ⟨finds.isUndotted, hold⟩

namespace Lexeme

/-- Words stay the same when some of them turn from keywords into names. -/
theorem undotted_resolveKeywords {lexemes : List Lexeme} (undotted : Words.undotted.Hold lexemes)
    (atStart : Bool) : Words.undotted.Hold (resolveKeywords atStart lexemes) := by
  induction lexemes generalizing atStart with
  | nil => exact undotted
  | cons lexeme rest ih =>
    obtain ⟨first, others⟩ := List.forall_mem_cons.mp undotted
    obtain ⟨resolved, same, settled⟩ := exists_resolveKeywords_cons atStart lexeme rest
    rw [same]
    refine List.forall_mem_cons.mpr ⟨?_, ih others _⟩
    obtain rfl | ⟨word, isWord, rfl⟩ := settled
    · exact first
    · rw [isWord] at first
      exact first

/-- The words of a text are undotted. -/
theorem yields_undotted (text : List Char) (offset : Nat) (isProgram : Bool) :
    Yields Words.undotted.Hold (ofText text offset isProgram) := by
  refine (Scanner.yields_scan Scanner.keeps_undotted {} _ _ [] (by simp [Words.undotted])).map ?_
  intro lexemes reversed
  refine undotted_resolveKeywords (fun lexeme member => ?_) isProgram
  exact reversed lexeme (List.mem_reverse.mpr member)

end Lexeme

end Callwise
