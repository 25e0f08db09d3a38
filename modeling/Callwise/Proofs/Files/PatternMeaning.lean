import Callwise.Files.Pattern
import Mathlib.Data.List.Basic

/-!
# Matching decides the meaning of a pattern

A text fits a pattern if it can be cut into pieces, one for each part of the pattern. The search for
the cuts goes from left to right and gives up as a whole once the text ends before the pattern does.
Giving up is right because what is left at a later place is shorter. Wildcards for whole parts of a
path need more: they are tried behind separators only, and a later place counts only if it is behind
one. For patterns that can be read this is so, since such a wildcard stands at the start or behind a
slash.
-/

namespace Callwise

namespace Pattern

variable {part : PatternPart}

/-! ### The meaning of a pattern -/

/-- The pattern stands for the text. A sequence of whole parts is empty, ends with a separator or
goes to the end of the text. -/
def StandsFor : Pattern → List Char → Prop
  | [], text => text = []
  | .anySequence :: rest, text => ∃ skipped left, text = skipped ++ left ∧ StandsFor rest left
  | .anyParts :: rest, text =>
    ∃ skipped left, text = skipped ++ left ∧
      (skipped = [] ∨ skipped.getLast? = some '/' ∨ left = []) ∧ StandsFor rest left
  | part :: rest, text => ∃ c left, text = c :: left ∧ fitsPart c part = true ∧ StandsFor rest left

/-- Wildcards for whole parts of a path stand only where a part starts. -/
def isPlaced : (isStart : Bool) → Pattern → Bool
  | _, [] => true
  | isStart, .anyParts :: rest => isStart && isPlaced true rest
  | _, .char c :: rest => isPlaced (c == '/') rest
  | _, _ :: rest => isPlaced false rest

/-! ### Places to go on -/

/-- The search can go on with the second text after it has skipped some of the first: behind any
character, or only behind separators, and always at the end. -/
def GoesOn (wholeParts : Bool) : List Char → List Char → Prop
  | [], left => left = []
  | c :: rest, left =>
    (wholeParts && c != '/') = false ∧ left = rest ∨ GoesOn wholeParts rest left

variable {wholeParts : Bool} {text left : List Char}

theorem GoesOn.trans {last : List Char} (first : GoesOn wholeParts text left)
    (second : GoesOn wholeParts left last) : GoesOn wholeParts text last := by
  induction text with
  | nil =>
    obtain rfl := first
    exact second
  | cons c rest ih =>
    rcases first with ⟨_, rfl⟩ | later
    · exact .inr second
    · exact .inr (ih later)

/-- A place behind a separator is a place behind a character. -/
theorem GoesOn.anywhere (later : GoesOn wholeParts text left) : GoesOn false text left := by
  induction text with
  | nil => exact later
  | cons c rest ih =>
    rcases later with ⟨_, rfl⟩ | later
    · exact .inl ⟨rfl, rfl⟩
    · exact .inr (ih later)

/-- What comes after the first character of a later place is a place itself, and it is behind a
separator if this character is one. -/
theorem GoesOn.behind {c d : Char} (later : GoesOn wholeParts (c :: text) (d :: left)) :
    GoesOn (d == '/') text left := by
  induction text generalizing c with
  | nil => simp [GoesOn] at later
  | cons e rest ih =>
    rcases later with ⟨_, same⟩ | later
    · cases same
      exact .inl ⟨by cases isSlash : d == '/' <;> simp_all, rfl⟩
    · exact .inr (ih later)

/-- Going on leaves out a part of the text, up to a slash where parts are whole. -/
theorem GoesOn.exists_skipped (later : GoesOn wholeParts text left) :
    ∃ skipped, text = skipped ++ left ∧
      (wholeParts = true → skipped.getLast? = some '/' ∨ left = []) := by
  induction text with
  | nil =>
    obtain rfl := later
    exact ⟨[], rfl, fun _ => .inr rfl⟩
  | cons c rest ih =>
    rcases later with ⟨allowed, rfl⟩ | later
    · exact ⟨[c], rfl, fun whole => .inl (by simp_all)⟩
    · obtain ⟨skipped, rfl, stops⟩ := ih later
      refine ⟨c :: skipped, rfl, fun whole => (stops whole).imp_left fun separator => ?_⟩
      rw [List.getLast?_cons, separator, Option.getD_some]

/-- Any part of the text may be left out in this way. -/
theorem goesOn_append {skipped : List Char} (something : skipped ≠ [])
    (stops : wholeParts = true → skipped.getLast? = some '/' ∨ left = []) :
    GoesOn wholeParts (skipped ++ left) left := by
  induction skipped with
  | nil => exact absurd rfl something
  | cons c skipped ih =>
    cases skipped with
    | nil =>
      cases allowed : wholeParts && c != '/' with
      | false => exact .inl ⟨allowed, rfl⟩
      | true =>
        simp only [Bool.and_eq_true, bne_iff_ne] at allowed
        rcases stops allowed.1 with separator | rfl
        · exact absurd (Option.some.inj separator) allowed.2
        · exact .inr rfl
    | cons d skipped => exact .inr (ih (by simp) (by simpa using stops))

/-- The places to go on are those behind a skipped text, which ends with a separator if only whole
parts are skipped. -/
theorem goesOn_iff :
    left = text ∨ GoesOn wholeParts text left ↔
      ∃ skipped, text = skipped ++ left ∧
        (wholeParts = true → skipped = [] ∨ skipped.getLast? = some '/' ∨ left = []) := by
  constructor
  · rintro (rfl | later)
    · exact ⟨[], rfl, fun _ => .inl rfl⟩
    · obtain ⟨skipped, cut, stops⟩ := later.exists_skipped
      exact ⟨skipped, cut, fun whole => .inr (stops whole)⟩
  · rintro ⟨skipped, rfl, stops⟩
    by_cases nothing : skipped = []
    · exact .inl (by simp [nothing])
    · exact .inr (goesOn_append nothing fun whole => (stops whole).resolve_left nothing)

theorem standsFor_anySequence_iff (rest : Pattern) :
    StandsFor (.anySequence :: rest) text ↔
      ∃ left, (left = text ∨ GoesOn false text left) ∧ StandsFor rest left := by
  simp only [StandsFor, goesOn_iff, Bool.false_eq_true, false_imp_iff, and_true]
  grind

theorem standsFor_anyParts_iff (rest : Pattern) :
    StandsFor (.anyParts :: rest) text ↔
      ∃ left, (left = text ∨ GoesOn true text left) ∧ StandsFor rest left := by
  simp only [StandsFor, goesOn_iff, forall_const]
  grind

/-! ### The search -/

/-- The outcome of a search over places is right: it fits if one of them is meant, and the search
gives up only if none is. -/
def Answers (places meant : List Char → Prop) (outcome : Outcome) : Prop :=
  (outcome = .fits ↔ ∃ left, places left ∧ meant left) ∧
    (outcome = .exhausted → ∀ left, places left → ¬ meant left)

/-- The outcome of matching is right for every text: it fits if the text is meant, and if the search
gives up, no later place is meant. -/
def Decides (wholeParts : Bool) (goOn : List Char → Outcome) (meant : List Char → Prop) : Prop :=
  ∀ text, (goOn text = .fits ↔ meant text) ∧
    (goOn text = .exhausted → ∀ left, GoesOn wholeParts text left → ¬ meant left)

namespace Decides

variable {goOn : List Char → Outcome} {meant : List Char → Prop}
  (decides : Decides wholeParts goOn meant)

include decides

/-- To try a text and then the later places is to try them all. -/
theorem orElse {outcome : Outcome} (later : Answers (GoesOn wholeParts text) meant outcome) :
    Answers (fun left => left = text ∨ GoesOn wholeParts text left) meant
      ((goOn text).orElse outcome) := by
  obtain ⟨fits, gaveUp⟩ := decides text
  cases tried : goOn text with
  | fits => exact ⟨⟨fun _ => ⟨text, .inl rfl, fits.mp tried⟩, fun _ => rfl⟩, nofun⟩
  | fails =>
    have notMeant : ¬ meant text := fun isMeant => by cases tried.symm.trans (fits.mpr isMeant)
    constructor
    · rw [Outcome.orElse, later.1]
      constructor
      · rintro ⟨left, place, isMeant⟩
        exact ⟨left, .inr place, isMeant⟩
      · rintro ⟨left, rfl | place, isMeant⟩
        · exact absurd isMeant notMeant
        · exact ⟨left, place, isMeant⟩
    · rintro given left (rfl | place)
      · exact notMeant
      · exact later.2 given left place
  | exhausted =>
    have notMeant : ∀ left, left = text ∨ GoesOn wholeParts text left → ¬ meant left := by
      rintro left (rfl | place) isMeant
      · cases tried.symm.trans (fits.mpr isMeant)
      · exact gaveUp tried left place isMeant
    constructor
    · constructor
      · nofun
      · rintro ⟨left, place, isMeant⟩
        exact absurd isMeant (notMeant left place)
    · exact fun _ => notMeant

/-- The search over the later places is right. -/
theorem skip (text : List Char) :
    Answers (GoesOn wholeParts text) meant (Pattern.skip wholeParts goOn text) := by
  induction text with
  | nil =>
    obtain ⟨fits, _⟩ := decides []
    simp only [Answers, Pattern.skip, GoesOn, exists_eq_left, forall_eq]
    exact ⟨fits, fun gaveUp isMeant => by cases gaveUp.symm.trans (fits.mpr isMeant)⟩
  | cons c rest ih =>
    rw [Pattern.skip]
    split
    case isTrue passed => simpa [GoesOn, passed] using ih
    case isFalse allowed =>
      have tried := decides.orElse ih
      simpa [GoesOn, Bool.eq_false_iff.mpr allowed] using tried

/-- A wildcard in front: all places are tried. Later texts have no other places to try, so the
search may still give up as a whole. -/
theorem wildcard (isStart : Bool)
    (fewer : ∀ {text left}, GoesOn isStart text left → GoesOn wholeParts text left) :
    Decides isStart (fun text => (goOn text).orElse (Pattern.skip wholeParts goOn text))
      fun text => ∃ left, (left = text ∨ GoesOn wholeParts text left) ∧ meant left := by
  intro text
  obtain ⟨fits, gaveUp⟩ := decides.orElse (decides.skip text)
  refine ⟨fits, ?_⟩
  rintro given later place ⟨left, rfl | behind, isMeant⟩
  · exact gaveUp given left (.inr (fewer place)) isMeant
  · exact gaveUp given left (.inr ((fewer place).trans behind)) isMeant

end Decides

/-! ### Matching -/

/-- A part for one character is none of the two wildcards. -/
def isSingle : PatternPart → Bool
  | .anySequence | .anyParts => false
  | _ => true

theorem run_single_cons (single : isSingle part = true) (rest : Pattern) (c : Char)
    (text : List Char) :
    run (part :: rest) (c :: text) = if fitsPart c part then run rest text else .fails := by
  cases part with
  | anySequence | anyParts => cases single
  | _ => rfl

theorem run_single_nil (single : isSingle part = true) (rest : Pattern) :
    run (part :: rest) [] = .exhausted := by
  cases part with
  | anySequence | anyParts => cases single
  | _ => rfl

/-- Any other part of a pattern stands for one character. -/
theorem standsFor_single (single : isSingle part = true) (rest : Pattern) :
    StandsFor (part :: rest) text ↔
      ∃ c left, text = c :: left ∧ fitsPart c part = true ∧ StandsFor rest left := by
  cases part with
  | anySequence | anyParts => cases single
  | _ => rfl

/-- A part for one character in front. If the rest may start with a wildcard for whole parts, this
character is a separator. -/
theorem decides_single (single : isSingle part = true) {rest : Pattern} {isStart isNext : Bool}
    (separates : ∀ c, fitsPart c part = true → isNext = true → c = '/')
    (decides : Decides isNext (run rest) (StandsFor rest)) :
    Decides isStart (run (part :: rest)) (StandsFor (part :: rest)) := by
  intro text
  cases text with
  | nil =>
    simp only [run_single_nil single, standsFor_single single, GoesOn]
    simp
  | cons c text =>
    rw [run_single_cons single, standsFor_single single]
    obtain ⟨fits, gaveUp⟩ := decides text
    split
    case isFalse differs => simp_all
    case isTrue same =>
      refine ⟨by rw [fits]; grind, ?_⟩
      intro given left later meant
      obtain ⟨d, behind, rfl, fitsToo, isMeant⟩ := (standsFor_single single rest).mp meant
      refine gaveUp given behind ?_ isMeant
      cases isNext with
      | false => exact later.behind.anywhere
      | true =>
        obtain rfl := separates d fitsToo rfl
        exact later.behind

/-- Matching decides what a pattern stands for. -/
theorem decides_run (pattern : Pattern) (isStart : Bool)
    (placed : isPlaced isStart pattern = true) :
    Decides isStart (run pattern) (StandsFor pattern) := by
  induction pattern generalizing isStart with
  | nil =>
    intro text
    cases text <;> simp [run, StandsFor]
  | cons part rest ih =>
    cases part with
    | anySequence =>
      have searched := (ih false placed).wildcard isStart GoesOn.anywhere
      simpa only [Decides, run, standsFor_anySequence_iff] using searched
    | anyParts =>
      obtain ⟨rfl, placed⟩ := Bool.and_eq_true_iff.mp placed
      have searched := (ih true placed).wildcard true id
      simpa only [Decides, run, standsFor_anyParts_iff] using searched
    | char d =>
      refine decides_single rfl (fun c same isSlash => ?_) (ih (d == '/') placed)
      exact (beq_iff_eq.mp same).trans (beq_iff_eq.mp isSlash)
    | anyChar => exact decides_single rfl (by simp) (ih false placed)
    | within ranges => exact decides_single rfl (by simp) (ih false placed)
    | outside ranges => exact decides_single rfl (by simp) (ih false placed)

/-! ### Patterns that can be read -/

/-- What may stand inside a part of a path may stand anywhere. -/
theorem isPlaced_of_false {pattern : Pattern} (placed : isPlaced false pattern = true)
    (isStart : Bool) : isPlaced isStart pattern = true := by
  cases pattern with
  | nil => rfl
  | cons part rest =>
    cases part with
    | anyParts => cases placed
    | _ => exact placed

/-- What stands behind a part that has been read may stand there. -/
theorem isPlaced_of_map {isStart isNext : Bool} {pattern : Pattern}
    {result : Except PatternFault Pattern} (isRead : result.map (part :: ·) = .ok pattern)
    (may : ∀ {rest}, isPlaced isNext rest = true → isPlaced isStart (part :: rest) = true)
    (placed : ∀ {rest}, result = .ok rest → isPlaced isNext rest = true) :
    isPlaced isStart pattern = true := by
  cases result with
  | error fault => cases isRead
  | ok rest =>
    cases isRead
    exact may (placed rfl)

/-- In a pattern that has been read, wildcards for whole parts stand where a part starts. -/
theorem isPlaced_read {reading : Reading} {position : Nat} {isStart : Bool} {text : List Char}
    {pattern : Pattern} (isRead : read reading position isStart text = .ok pattern) :
    isPlaced isStart pattern = true := by
  fun_induction read reading position isStart text generalizing pattern with
  | case1 =>
    cases isRead
    rfl
  | case2 | case5 | case6 | case9 | case13 | case15 => cases isRead
  | case3 isStart opened isNegated members position c rest closes ranges part =>
    rename_i placed
    refine isPlaced_of_map isRead (fun behind => ?_) placed
    simp only [part]
    split <;> exact behind
  | case4 isStart _ _ _ _ _ _ _ placed => exact isPlaced_of_false (placed isRead) isStart
  | case12 isStart _ _ _ placed => exact isPlaced_of_false (placed isRead) isStart
  | case14 isStart _ _ _ _ _ placed => exact isPlaced_of_false (placed isRead) isStart
  | case7 position isStart starts =>
    cases isRead
    simpa [isPlaced] using starts
  | case8 position isStart starts rest _ placed =>
    refine isPlaced_of_map isRead (fun behind => ?_) placed
    simpa [isPlaced, behind] using starts
  | case10 _ _ _ _ _ placed => exact isPlaced_of_map isRead id placed
  | case11 _ _ _ placed => exact isPlaced_of_map isRead id placed
  | case16 _ _ _ _ _ _ _ _ _ _ _ placed => exact isPlaced_of_map isRead id placed

/-- A text fits a pattern that has been read exactly if the pattern stands for it. -/
theorem fits_iff_standsFor {source : String} {pattern : Pattern}
    (isRead : ofText source = .ok pattern) (text : String) :
    pattern.fits text = true ↔ pattern.StandsFor text.toList := by
  rw [fits, beq_iff_eq]
  exact (decides_run pattern true (isPlaced_read isRead) text.toList).1

end Pattern

end Callwise
