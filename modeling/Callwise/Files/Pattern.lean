/-!
# Patterns for paths

In a pattern `?` stands for any character, `*` for any characters, brackets for one character out of
a set or outside it, and `**` as a whole part of a path for any number of parts. A `*` also stands
for separators: a pattern speaks about the whole path.

Matching tries the places where a sequence may end one after the other. If the text ends before the
pattern does, no later place can help, and the outcome `exhausted` ends the search at once.
-/

namespace Callwise

/-- One character, or all characters between two. -/
inductive CharRange where
  | single (c : Char)
  | between (first last : Char)
  deriving DecidableEq, Repr, Inhabited

/-- The character belongs to the range. -/
def CharRange.contains (c : Char) : CharRange → Bool
  | single d => c == d
  | between first last => first ≤ c && c ≤ last

/-- The ranges that the text between brackets stands for. -/
def CharRange.ofText : List Char → List CharRange
  | first :: '-' :: last :: rest => .between first last :: ofText rest
  | c :: rest => .single c :: ofText rest
  | [] => []

/-- A part of a pattern. -/
inductive PatternPart where
  | char (c : Char)
  | anyChar
  | within (ranges : List CharRange)
  | outside (ranges : List CharRange)
  | anySequence
  /-- Any number of whole parts of a path, each with its separator. -/
  | anyParts
  deriving DecidableEq, Repr, Inhabited

/-- What is wrong with a pattern, and the number of characters before it. -/
inductive PatternFault where
  | tooManyStars (position : Nat)
  | misplacedStars (position : Nat)
  | openBracket (position : Nat)
  deriving DecidableEq, Repr, Inhabited

/-- The text of the fault. -/
def PatternFault.message : PatternFault → String
  | tooManyStars position =>
    "Pattern syntax error near position " ++ toString position
      ++ ": wildcards are either regular `*` or recursive `**`"
  | misplacedStars position =>
    "Pattern syntax error near position " ++ toString position
      ++ ": recursive wildcards must form a single path component"
  | openBracket position =>
    "Pattern syntax error near position " ++ toString position ++ ": invalid range pattern"

/-- A pattern as its parts. -/
abbrev Pattern := List PatternPart

namespace Pattern

/-- What has been read of a pattern: nothing that is still open, or the beginning of a set with the
position of its bracket and its characters from the last to the first. -/
inductive Reading where
  | closed
  | bracket (position : Nat) (isNegated : Bool) (members : List Char)

/-- Read the rest of a pattern. The flag says that a part of a path starts here. The first character
of a set belongs to it even if it is a bracket. -/
def read : Reading → (position : Nat) → (isStart : Bool) → List Char →
    Except PatternFault Pattern
  | .closed, _, _, [] => .ok []
  | .bracket opened _ _, _, _, [] => .error (.openBracket opened)
  | .bracket opened isNegated members, position, _, c :: rest =>
    if c == ']' then
      let ranges := CharRange.ofText members.reverse
      let part := if isNegated then PatternPart.outside ranges else .within ranges
      (read .closed (position + 1) false rest).map (part :: ·)
    else read (.bracket opened isNegated (c :: members)) (position + 1) false rest
  | .closed, position, _, '*' :: '*' :: '*' :: _ => .error (.tooManyStars (position + 2))
  | .closed, position, isStart, '*' :: '*' :: rest =>
    if !isStart then .error (.misplacedStars (position - 1))
    else
      match rest with
      | [] => .ok [.anyParts]
      | '/' :: rest => (read .closed (position + 3) true rest).map (.anyParts :: ·)
      | _ => .error (.misplacedStars (position + 2))
  | .closed, position, _, '*' :: rest =>
    (read .closed (position + 1) false rest).map (.anySequence :: ·)
  | .closed, position, _, '?' :: rest =>
    (read .closed (position + 1) false rest).map (.anyChar :: ·)
  | .closed, position, _, '[' :: '!' :: first :: rest =>
    read (.bracket position true [first]) (position + 3) false rest
  | .closed, position, _, '[' :: first :: rest =>
    if first == '!' then .error (.openBracket position)
    else read (.bracket position false [first]) (position + 2) false rest
  | .closed, position, _, '[' :: [] => .error (.openBracket position)
  | .closed, position, _, c :: rest =>
    (read .closed (position + 1) (c == '/') rest).map (.char c :: ·)

/-- The pattern that a text stands for. -/
def ofText (text : String) : Except PatternFault Pattern := read .closed 0 true text.toList

/-- The outcome of matching. -/
inductive Outcome where
  | fits
  | fails
  /-- The text ended before the pattern did. -/
  | exhausted
  deriving DecidableEq, Repr, Inhabited

/-- Go on with the second outcome if the first one leaves hope. -/
def Outcome.orElse (first second : Outcome) : Outcome :=
  match first with
  | fails => second
  | outcome => outcome

/-- Try to go on behind each character in turn, and at last at the end. If only whole parts of the
path are skipped, only the places behind separators are tried. -/
def skip (wholeParts : Bool) (goOn : List Char → Outcome) : List Char → Outcome
  | [] => goOn []
  | c :: rest =>
    if wholeParts && c != '/' then skip wholeParts goOn rest
    else (goOn rest).orElse (skip wholeParts goOn rest)

/-- The character fits the part. -/
def fitsPart (c : Char) : PatternPart → Bool
  | .char d => c == d
  | .within ranges => ranges.any (·.contains c)
  | .outside ranges => !ranges.any (·.contains c)
  | .anyChar | .anySequence | .anyParts => true

/-- Match a text. -/
def run : Pattern → List Char → Outcome
  | [], [] => .fits
  | [], _ :: _ => .fails
  | .anySequence :: rest, text => (run rest text).orElse (skip false (run rest) text)
  | .anyParts :: rest, text => (run rest text).orElse (skip true (run rest) text)
  | _ :: _, [] => .exhausted
  | part :: rest, c :: text => if fitsPart c part then run rest text else .fails

/-- The pattern fits the text. -/
def fits (pattern : Pattern) (text : String) : Bool := pattern.run text.toList == .fits

/-- The text that a pattern without special characters stands for. -/
def literal? (pattern : Pattern) : Option String :=
  (pattern.mapM fun
    | PatternPart.char c => some c
    | _ => none).map String.ofList

/-- The pattern stands for any number of parts of a path. -/
def isRecursive (pattern : Pattern) : Bool := pattern.contains .anyParts

end Pattern

end Callwise
