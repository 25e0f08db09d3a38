import Callwise.Config.Selection
import Callwise.Proofs.Files.PatternMeaning
import Callwise.Proofs.Files.Spellings

/-!
# The files that are checked when nothing is set

Of the standard patterns one includes the paths with the ending of source files, and each of the
others excludes the paths with a certain directory on the way. By the meaning of patterns such a
directory stands at the start of the path or behind a slash and has a slash behind it, so it is one
of the pieces between the slashes of the path, and not the last one. Names that only contain the
name of such a directory are none of these pieces. Putting slashes in place of backslashes before
the pattern is compared cuts the path into the same pieces as cutting it at both.
-/

namespace Callwise

namespace Pattern

/-! ### What the standard patterns stand for -/

/-- The characters of a pattern stand for themselves. -/
theorem standsFor_chars (name : List Char) (rest : Pattern) (text : List Char) :
    StandsFor (name.map .char ++ rest) text ↔
      ∃ left, text = name ++ left ∧ StandsFor rest left := by
  induction name generalizing text with
  | nil => simp
  | cons c name ih =>
    simp only [List.map_cons, List.cons_append, StandsFor, fitsPart, beq_iff_eq, ih]
    grind

/-- The pattern for paths with an ending. -/
def withEnding (ending : List Char) : Pattern := .anyParts :: .anySequence :: ending.map .char

/-- The pattern for paths with a certain part on the way. -/
def through (name : List Char) : Pattern :=
  .anyParts :: (name.map .char ++ [.char '/', .anyParts])

theorem standsFor_withEnding (ending text : List Char) :
    StandsFor (withEnding ending) text ↔ ending <:+ text := by
  have last (left : List Char) : StandsFor (ending.map .char) left ↔ left = ending := by
    have chars := standsFor_chars ending [] left
    rw [List.append_nil] at chars
    simpa [StandsFor] using chars
  simp only [withEnding, StandsFor, last]
  constructor
  · rintro ⟨skipped, _, rfl, _, before, _, rfl, rfl⟩
    exact ⟨skipped ++ before, List.append_assoc ..⟩
  · rintro ⟨before, rfl⟩
    exact ⟨[], _, rfl, .inl rfl, before, ending, rfl, rfl⟩

theorem standsFor_through (name text : List Char) :
    StandsFor (through name) text ↔
      ∃ skipped after, text = skipped ++ (name ++ '/' :: after) ∧
        (skipped = [] ∨ skipped.getLast? = some '/') := by
  have behind (left : List Char) :
      StandsFor [.char '/', .anyParts] left ↔ ∃ after, left = '/' :: after := by
    simp [StandsFor, fitsPart]
  rw [through, StandsFor]
  simp only [standsFor_chars, behind]
  constructor
  · rintro ⟨skipped, _, rfl, stops, _, rfl, after, rfl⟩
    refine ⟨skipped, after, rfl, stops.imp_right fun separated => separated.resolve_right ?_⟩
    simp
  · rintro ⟨skipped, after, rfl, stops⟩
    exact ⟨skipped, _, rfl, stops.imp_right .inl, _, rfl, after, rfl⟩

end Pattern

namespace Path

/-! ### Pieces between slashes -/

/-- A part of a path with a slash behind it is a piece that is not the last. -/
theorem mem_dropLast_splitOn {name skipped : List Char} (noSlash : '/' ∉ name)
    (stops : skipped = [] ∨ skipped.getLast? = some '/') (after : List Char) :
    name ∈ ((skipped ++ (name ++ '/' :: after)).splitOn '/').dropLast := by
  have pieces : (name ++ '/' :: after).splitOn '/' = name :: after.splitOn '/' := by
    rw [splitOn_slash, List.splitOn_eq_singleton noSlash, List.singleton_append]
  have more := List.splitOn_ne_nil '/' after
  rcases stops with rfl | stops
  · rw [List.nil_append, pieces, List.dropLast_cons_of_ne_nil more]
    exact List.mem_cons_self
  · obtain ⟨before, rfl⟩ := List.getLast?_eq_some_iff.mp stops
    rw [List.append_assoc, List.singleton_append, splitOn_slash, pieces,
      List.dropLast_append_of_ne_nil (List.cons_ne_nil _ _), List.dropLast_cons_of_ne_nil more]
    exact List.mem_append_right _ List.mem_cons_self

/-- A piece that is not the last has a slash behind it, and it is the first or has one before it. -/
theorem exists_of_mem_dropLast_splitOn {name text : List Char}
    (member : name ∈ (text.splitOn '/').dropLast) :
    ∃ skipped after, text = skipped ++ (name ++ '/' :: after) ∧
      (skipped = [] ∨ skipped.getLast? = some '/') := by
  by_cases cut : '/' ∈ text
  · obtain ⟨first, rest, rfl, noSlash⟩ := List.eq_append_cons_of_mem cut
    rw [splitOn_slash, List.splitOn_eq_singleton noSlash, List.singleton_append,
      List.dropLast_cons_of_ne_nil (List.splitOn_ne_nil '/' rest)] at member
    rcases List.mem_cons.mp member with rfl | later
    · exact ⟨[], rest, rfl, .inl rfl⟩
    · obtain ⟨skipped, after, rfl, stops⟩ := exists_of_mem_dropLast_splitOn later
      refine ⟨first ++ '/' :: skipped, after, by simp, .inr ?_⟩
      rcases stops with rfl | stops
      · simp
      · simp [List.getLast?_append, List.getLast?_cons, stops]
  · rw [List.splitOn_eq_singleton cut] at member
    cases member
termination_by text.length
decreasing_by simp_all; omega

/-- The pieces of a path that have a slash or a backslash behind them. -/
def directories (path : String) : List String :=
  ((path.toList.splitOnP fun c => c == '/' || c == '\x5c').dropLast).map String.ofList

/-- Cutting at slashes that were backslashes is cutting at slashes and backslashes. -/
theorem splitOn_map_slash (text : List Char) :
    (text.map fun c => if c == '\x5c' then '/' else c).splitOn '/' =
      text.splitOnP fun c => c == '/' || c == '\x5c' := by
  simp only [List.splitOn]
  induction text with
  | nil => rfl
  | cons c text ih =>
    rw [List.map_cons, List.splitOnP_cons_eq_if_modifyHead, List.splitOnP_cons_eq_if_modifyHead,
      ih]
    by_cases backslash : c = '\x5c'
    · simp [backslash]
    · simp [backslash]

theorem dropLast_pieces_withSlashes (path : String) :
    (pieces (withSlashes path)).dropLast = directories path := by
  rw [pieces, withSlashes, String.toList_ofList, splitOn_map_slash, directories, List.map_dropLast]

end Path

/-- A text without backslashes stays as it is. -/
theorem map_slash_eq_self {text : List Char} (noBackslash : '\x5c' ∉ text) :
    (text.map fun c => if c == '\x5c' then '/' else c) = text := by
  refine (List.map_congr_left fun c member => ?_).trans (List.map_id text)
  simp [ne_of_mem_of_not_mem member noBackslash]

/-- An ending without slashes and backslashes is an ending of the path as it was. -/
theorem suffix_withSlashes_iff {ending : List Char} (noSlash : '/' ∉ ending)
    (noBackslash : '\x5c' ∉ ending) (path : String) :
    ending <:+ (withSlashes path).toList ↔ ending <:+ path.toList := by
  rw [withSlashes, String.toList_ofList]
  constructor
  · rintro ⟨before, split⟩
    obtain ⟨front, back, cut, rfl, rfl⟩ := List.append_eq_map_iff.mp split
    have plain : '\x5c' ∉ back := fun member => noSlash (List.mem_map.mpr ⟨_, member, rfl⟩)
    rw [map_slash_eq_self plain]
    exact ⟨front, cut.symm⟩
  · rintro ⟨before, cut⟩
    rw [← cut, List.map_append, map_slash_eq_self noBackslash]
    exact List.suffix_append _ _

namespace PathSettings

/-! ### Selected paths -/

theorem patternFits_iff {source : String} {pattern : Pattern}
    (isRead : Pattern.ofText (withSlashes source) = .ok pattern) (path : String) :
    patternFits source path = true ↔ pattern.StandsFor (withSlashes path).toList := by
  rw [patternFits, isRead]
  exact Pattern.fits_iff_standsFor isRead _

/-- A pattern for a directory on the way fits if a piece that is not the last is its name. -/
theorem patternFits_through_iff {source name : String} (noSlash : '/' ∉ name.toList)
    (isRead : Pattern.ofText (withSlashes source) = .ok (.through name.toList)) (path : String) :
    patternFits source path = true ↔ name ∈ Path.directories path := by
  rw [patternFits_iff isRead, Pattern.standsFor_through, ← Path.dropLast_pieces_withSlashes,
    Path.pieces, ← List.map_dropLast, List.mem_map]
  constructor
  · rintro ⟨skipped, after, cut, stops⟩
    rw [cut]
    exact ⟨name.toList, Path.mem_dropLast_splitOn noSlash stops after, String.ofList_toList⟩
  · rintro ⟨piece, member, rfl⟩
    rw [String.toList_ofList]
    exact Path.exists_of_mem_dropLast_splitOn member

/-- The standard patterns include the paths with the ending of source files. -/
theorem standard_includes_iff (path : String) :
    standard.includePatterns.any (patternFits · path) = true ↔
      ".py".toList <:+ path.toList := by
  have isRead : Pattern.ofText (withSlashes "**/*.py") = .ok (.withEnding ".py".toList) := by
    decide +kernel
  rw [standard, List.any_cons, List.any_nil, Bool.or_false, patternFits_iff isRead,
    Pattern.standsFor_withEnding, suffix_withSlashes_iff (by decide) (by decide)]

/-- The standard patterns exclude the paths with one of three directories on the way. -/
theorem standard_excludes_iff (path : String) :
    standard.excludePatterns.any (patternFits · path) = true ↔
      ∃ directory ∈ Path.directories path, directory ∈ ["__pycache__", "venv", ".venv"] := by
  have caches : patternFits "**/__pycache__/**" path = true ↔
      "__pycache__" ∈ Path.directories path :=
    patternFits_through_iff (by decide) (by decide +kernel) path
  have environments : patternFits "**/venv/**" path = true ↔ "venv" ∈ Path.directories path :=
    patternFits_through_iff (by decide) (by decide +kernel) path
  have hidden : patternFits "**/.venv/**" path = true ↔ ".venv" ∈ Path.directories path :=
    patternFits_through_iff (by decide) (by decide +kernel) path
  simp only [standard, List.any_cons, List.any_nil, Bool.or_false, Bool.or_eq_true, caches,
    environments, hidden, List.mem_cons, List.not_mem_nil, or_false, and_or_left, exists_or,
    exists_eq_right]

/-- When nothing is set, a path is checked exactly if it has the ending `.py` and no piece of it
with a slash or a backslash behind is the name of one of three directories. -/
theorem standard_selects_iff (path : String) :
    Config.standard.paths.selects path = true ↔
      ".py".toList <:+ path.toList ∧
        ∀ directory ∈ Path.directories path, directory ∉ ["__pycache__", "venv", ".venv"] := by
  have passes : standard.excludePatterns.any (patternFits · path) = false ↔
      ∀ directory ∈ Path.directories path, directory ∉ ["__pycache__", "venv", ".venv"] := by
    rw [← Bool.not_eq_true, standard_excludes_iff, not_exists]
    exact forall_congr' fun directory => not_and
  have someIncluded : standard.includePatterns.isEmpty = false := rfl
  rw [← standard_includes_iff, ← passes]
  simp only [selects, Config.standard, someIncluded, Bool.false_or, Bool.and_eq_true,
    Bool.not_eq_true']
  exact and_comm

-- Neither piece before a slash is one of the names, and the last piece does not count.
example : Config.standard.paths.selects "my.venv//venvs\x5c.venv.py" = true := by decide +kernel

-- A backslash behind the name of a directory is enough to leave the path out.
example : Config.standard.paths.selects "pkg/venv\x5ca.py" = false := by decide +kernel

end PathSettings

end Callwise
