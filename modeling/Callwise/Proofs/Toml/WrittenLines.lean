import Callwise.Proofs.Toml.WrittenValues

/-!
# Written lines read back

A settings file is written line by line: empty lines, headers with one name, and fields with a name
and a value that ends its line. Reading such a line makes the change that the line stands for and
leaves the lines behind it, so reading all lines makes all changes in their order.
-/

namespace Callwise.Toml

namespace Reader

/-- What is ahead can be set. -/
theorem set_bind {α : Type} (next : PUnit → Reader α) (after before : List Char) :
    (set after >>= next) before = next ⟨⟩ after := rfl

/-! ### Names -/

/-- The name needs no quotes as a key. -/
def isBareName (name : String) : Bool := !name.toList.isEmpty && name.toList.all isBare

/-- A character of a key without quotes is no blank. -/
theorem blanks_of_isBare {first : Char} (bare : isBare first = true) (rest : List Char) :
    blanks (first :: rest) = some ((), first :: rest) := by
  have notSpace := ne_of_class bare (by decide : isBare ' ' = false)
  have notTab := ne_of_class bare (by decide : isBare '\t' = false)
  exact blanks_of_head (by simp [isBlank, notSpace, notTab]) rest

/-- A name starts with a character that needs no quotes. -/
theorem head_of_isBareName {name : String} (bare : isBareName name = true) :
    ∃ first more, name.toList = first :: more ∧ isBare first = true := by
  unfold isBareName at bare
  cases written : name.toList with
  | nil => simp [written] at bare
  | cons first more =>
    rw [written] at bare
    exact ⟨first, more, rfl, by simp_all⟩

/-- A key that starts without quotes takes all characters that need none. -/
theorem keyPart_of_isBare {first : Char} (bare : isBare first = true) (rest : List Char) :
    keyPart (first :: rest) =
      some (String.ofList ((first :: rest).takeWhile isBare),
        (first :: rest).dropWhile isBare) := by
  have notQuote := ne_of_class bare (by decide : isBare '\x22' = false)
  have notApostrophe := ne_of_class bare (by decide : isBare '\x27' = false)
  have unquoted : keyPart (first :: rest) = (do
      let text ← get
      set (text.dropWhile isBare)
      let part := text.takeWhile isBare
      if part.isEmpty then refuse else pure (String.ofList part) : Reader String)
        (first :: rest) := by
    rw [keyPart, peek?_bind]
    refine congrFun ?_ _
    simp [notQuote, notApostrophe]
  rw [unquoted, get_bind, set_bind, List.takeWhile_cons_of_pos bare]
  rfl

section

variable {name : String} {behind : Char} {rest : List Char}

/-- A name is taken up to the first other character. -/
theorem keyPart_bare (bare : isBareName name = true) (notBare : isBare behind = false) :
    keyPart (name.toList ++ behind :: rest) = some (name, behind :: rest) := by
  obtain ⟨first, more, written, bareFirst⟩ := head_of_isBareName bare
  have all : ∀ c ∈ name.toList, isBare c = true := by
    simp only [isBareName, Bool.and_eq_true, List.all_eq_true] at bare
    exact bare.2
  have taken : (name.toList ++ behind :: rest).takeWhile isBare = name.toList := by
    simp [List.takeWhile_append_of_pos all, notBare]
  have left : (name.toList ++ behind :: rest).dropWhile isBare = behind :: rest := by
    simp [List.dropWhile_append_of_pos all, notBare]
  have read := keyPart_of_isBare bareFirst (more ++ behind :: rest)
  rw [← List.cons_append, ← written, taken, left, String.ofList_toList] at read
  exact read

/-- A key of one name, with blanks behind it. -/
theorem key_bare (bare : isBareName name = true) (notBare : isBare behind = false)
    {next : Char} {more : List Char} (skipped : blanks (behind :: rest) = some ((), next :: more))
    (notDot : next ≠ '.') :
    key (name.toList ++ behind :: rest) = some (([], name), next :: more) := by
  obtain ⟨first, following, written, bareFirst⟩ := head_of_isBareName bare
  have noBlanks : blanks (name.toList ++ behind :: rest) =
      some ((), name.toList ++ behind :: rest) := by
    rw [written]
    exact blanks_of_isBare bareFirst _
  have parts : keyParts nestingLimit (name.toList ++ behind :: rest) =
      some ([name], next :: more) := by
    rw [nestingLimit, keyParts, bind_of_eq noBlanks, bind_of_eq (keyPart_bare bare notBare),
      bind_of_eq skipped, bind_of_eq (accept_other notDot more)]
    rfl
  rw [key, bind_of_eq parts]
  rfl

end

/-! ### Lines -/

/-- What is written on a line. -/
inductive Line where
  | blank
  | header (name : String)
  | field (name : String) (text : List Char) (node : Node)

namespace Line

/-- The characters of a line. -/
def text : Line → List Char
  | blank => ['\n']
  | header name => '[' :: (name.toList ++ [']', '\n'])
  | field name text _ => name.toList ++ (' ' :: '=' :: ' ' :: (text ++ ['\n']))

/-- Names need no quotes, and the text of a field is its value. -/
def IsWritten : Line → Prop
  | blank => True
  | header name => isBareName name = true
  | field name text node => isBareName name = true ∧ Written text node

/-- The change that a line stands for. -/
def change (document : Document) : Line → Option Document
  | blank => some document
  | header name => document.openTable [] name
  | field name _ node => document.addValue [] name node

end Line

/-- Nothing is left of a line that ends. -/
theorem restOfLine_newline (rest : List Char) : restOfLine ('\n' :: rest) = some ((), rest) := rfl

/-- A name in brackets opens a table. -/
theorem header_bare {name : String} (bare : isBareName name = true) {before after : Document}
    (opened : before.openTable [] name = some after) (rest : List Char) :
    header before (name.toList ++ ']' :: '\n' :: rest) = some (after, rest) := by
  obtain ⟨first, more, written, bareFirst⟩ := head_of_isBareName bare
  have single : accept '[' (name.toList ++ ']' :: '\n' :: rest) =
      some (false, name.toList ++ ']' :: '\n' :: rest) := by
    rw [written]
    exact accept_other (ne_of_class bareFirst (by decide)) _
  have named : key (name.toList ++ ']' :: '\n' :: rest) = some (([], name), ']' :: '\n' :: rest) :=
    key_bare bare (by decide) (blanks_of_head (by decide) _) (by decide)
  rw [header, bind_of_eq single, bind_of_eq named]
  simp only [Bool.false_eq_true, if_false]
  rw [bind_of_eq (expect_self ']' _), bind_of_eq (restOfLine_newline rest), opened]
  rfl

/-- A name with a value. -/
theorem keyValue_bare {name : String} (bare : isBareName name = true) {text : List Char}
    {node : Node} (written : Written text node) (rest : List Char) :
    keyValue (value (nestingLimit + 1))
        (name.toList ++ ' ' :: '=' :: ' ' :: (text ++ '\n' :: rest)) =
      some (([], name, node), '\n' :: rest) := by
  have named : key (name.toList ++ ' ' :: '=' :: ' ' :: (text ++ '\n' :: rest)) =
      some (([], name), '=' :: ' ' :: (text ++ '\n' :: rest)) :=
    key_bare bare (by decide) rfl (by decide)
  have skipped : blanks (' ' :: (text ++ '\n' :: rest)) = some ((), text ++ '\n' :: rest) := by
    obtain ⟨first, more, rfl, notBlank⟩ := written.starts
    exact blanks_of_head notBlank _
  rw [keyValue, bind_of_eq named]
  dsimp only
  rw [bind_of_eq (expect_self '=' _), bind_of_eq skipped, bind_of_eq (written.reads rest)]
  rfl

/-- A line that starts with a name is a field. -/
theorem lines_of_isBare {first : Char} (bare : isBare first = true) (bound : Nat)
    (document : Document) (rest : List Char) :
    lines (bound + 1) document (first :: rest) =
      (keyValue (value (nestingLimit + 1)) >>= fun pair => do
        restOfLine
        lines bound (← changed (document.addValue pair.1 pair.2.1 pair.2.2))) (first :: rest) := by
  have notComment := ne_of_class bare (by decide : isBare '#' = false)
  have notNewline := ne_of_class bare (by decide : isBare '\n' = false)
  have notCarriage := ne_of_class bare (by decide : isBare '\x0d' = false)
  have notBracket := ne_of_class bare (by decide : isBare '[' = false)
  rw [lines, bind_of_eq (blanks_of_isBare bare _), peek?_bind]
  refine congrFun ?_ _
  -- the other kinds of lines start with marks that the name does not start with
  simp

/-- A field goes into the table of the last header. -/
theorem lines_field {name : String} (bare : isBareName name = true) {text : List Char} {node : Node}
    (written : Written text node) {before after : Document}
    (added : before.addValue [] name node = some after) (bound : Nat) (rest : List Char) :
    lines (bound + 1) before (name.toList ++ ' ' :: '=' :: ' ' :: (text ++ '\n' :: rest)) =
      lines bound after rest := by
  have pair := keyValue_bare bare written rest
  obtain ⟨first, more, spelled, bareFirst⟩ := head_of_isBareName bare
  rw [spelled, List.cons_append] at pair ⊢
  rw [lines_of_isBare bareFirst, bind_of_eq pair, bind_of_eq (restOfLine_newline rest), added]
  rfl

/-- A line makes the change that it stands for. -/
theorem lines_line {line : Line} (written : line.IsWritten) {before after : Document}
    (made : line.change before = some after) (bound : Nat) (rest : List Char) :
    lines (bound + 1) before (line.text ++ rest) = lines bound after rest := by
  cases line with
  | blank =>
    cases made
    rfl
  | header name =>
    have opened := header_bare written made rest
    have bracket (tail : List Char) : lines (bound + 1) before ('[' :: tail) =
        (header before >>= lines bound) tail := rfl
    rw [Line.text, List.cons_append, List.append_assoc, bracket]
    exact bind_of_eq opened
  | field name text node =>
    have read := lines_field written.1 written.2 made bound rest
    simpa [Line.text] using read

/-- All lines together make their changes one after the other. -/
theorem lines_flatMap {content : List Line} (written : ∀ line ∈ content, line.IsWritten)
    {before after : Document} (made : content.foldlM Line.change before = some after) {bound : Nat}
    (enough : content.length ≤ bound) :
    lines bound before (content.flatMap Line.text) = some (after, []) := by
  induction content generalizing before bound with
  | nil =>
    cases made
    cases bound <;> rfl
  | cons line content ih =>
    rw [List.forall_mem_cons] at written
    obtain ⟨between, first, others⟩ := Option.bind_eq_some_iff.mp made
    cases bound with
    | zero => simp at enough
    | succ bound =>
      rw [List.flatMap_cons, lines_line written.1 first]
      exact ih written.2 others (by simpa using enough)

/-- A written line has characters, and the first of them is no byte order mark. -/
theorem Line.head_text {line : Line} (written : line.IsWritten) :
    ∃ first more, line.text = first :: more ∧ first ≠ '\uFEFF' := by
  cases line with
  | blank => exact ⟨_, _, rfl, by decide⟩
  | header name => exact ⟨_, _, rfl, by decide⟩
  | field name text node =>
    obtain ⟨first, more, spelled, bare⟩ := head_of_isBareName written.1
    exact ⟨first, _, by rw [Line.text, spelled, List.cons_append], ne_of_class bare (by decide)⟩

end Reader

open Reader in
/-- A file of written lines has the fields that the lines stand for. -/
theorem readFields?_of_lines {content : List Line} (written : ∀ line ∈ content, line.IsWritten)
    {document : Document} (made : content.foldlM Line.change {} = some document) {text : String}
    (spelled : text.toList = content.flatMap Line.text) :
    readFields? text = some document.fields := by
  have unmarked : ∀ rest, text.toList ≠ '\uFEFF' :: rest := by
    intro rest same
    rw [spelled] at same
    cases content with
    | nil => cases same
    | cons line content =>
      obtain ⟨first, more, start, notMark⟩ := Line.head_text (written line List.mem_cons_self)
      rw [List.flatMap_cons, start, List.cons_append] at same
      exact notMark (List.cons.inj same).1
  have enough : content.length ≤ text.toList.length + 1 := by
    rw [spelled]
    apply Nat.le_succ_of_le
    apply length_le_length_flatMap
    intro line member
    obtain ⟨first, more, start, _⟩ := Line.head_text (written line member)
    simp [start]
  have read := lines_flatMap written made enough
  rw [← spelled] at read
  simp [readFields?, read]

end Callwise.Toml
