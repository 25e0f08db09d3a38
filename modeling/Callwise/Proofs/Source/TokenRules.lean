import Callwise.Source.Rule

/-!
# Rules and the tokens they take

Rules of the grammar take tokens from the front and put no others in their place. So if something is
known of the tokens ahead that stays true when some of them are left out, it is known of the tokens
behind a rule as well, and the result of a rule can be described by what is known of the tokens that
the rule may take. `Words` is such knowledge, and `Rule.Gives` describes a rule by it.
-/

namespace Callwise

/-- Something that is known of a list of tokens, and stays true when some of them are left out. -/
structure Words where
  Hold : List Lexeme → Prop
  sublist : ∀ {some all : List Lexeme}, some.Sublist all → Hold all → Hold some

/-- The token may stand among the words. -/
def Words.Allow (words : Words) (token : Token) : Prop := ∃ span, words.Hold [⟨token, span⟩]

/-- A token of the list may stand among the words. -/
theorem Words.allow_of_mem {words : Words} {lexemes : List Lexeme} (hold : words.Hold lexemes)
    {lexeme : Lexeme} (member : lexeme ∈ lexemes) : words.Allow lexeme.token :=
  ⟨lexeme.span, words.sublist (List.singleton_sublist.mpr member) hold⟩

/-- If there is a result, it has the property. -/
def Yields {ε α : Type} (value : α → Prop) (answer : Except ε α) : Prop :=
  ∀ result, answer = .ok result → value result

namespace Yields

variable {ε α β : Type} {value : α → Prop} {other : β → Prop}

theorem ok {result : α} (holds : value result) : Yields value (.ok result : Except ε α) := by
  rintro _ ⟨⟩
  exact holds

theorem error (failure : ε) : Yields value (.error failure) := by
  rintro _ ⟨⟩

/-- A result is handed on. -/
theorem bind {answer : Except ε α} {next : α → Except ε β}
    (first : Yields value answer) (second : ∀ result, value result → Yields other (next result)) :
    Yields other (answer >>= next) := by
  cases answer with
  | error failure => exact error failure
  | ok result => exact second result (first result rfl)

theorem map {answer : Except ε α} {change : α → β} (first : Yields value answer)
    (second : ∀ result, value result → other (change result)) : Yields other (answer.map change) :=
  first.bind fun result holds => .ok (second result holds)

/-- Whatever the answer is, it has the property that everything has. -/
theorem any (answer : Except ε α) : Yields (fun _ => True) answer := fun _ _ => trivial

/-- One of two answers. -/
theorem ite {condition : Prop} [Decidable condition] {yes no : Except ε α}
    (whenTrue : condition → Yields value yes) (whenFalse : ¬ condition → Yields value no) :
    Yields value (if condition then yes else no) := by
  split
  · exact whenTrue ‹_›
  · exact whenFalse ‹_›

/-- What each step yields, every result of all steps is. -/
theorem mapM {γ : Type} {step : γ → Except ε α} {items : List γ}
    (each : ∀ item, Yields value (step item)) :
    Yields (fun results => ∀ result ∈ results, value result) (items.mapM step) := by
  induction items with
  | nil => exact .ok (by simp)
  | cons first rest ih =>
    rw [List.mapM_cons]
    refine (each first).bind fun result holds => ?_
    refine ih.bind fun results all => .ok ?_
    rw [List.forall_mem_cons]
    exact ⟨holds, all⟩

end Yields

/-! ### Rules -/

namespace Rule

variable {α β : Type} {words : Words} {value : α → Prop} {other : β → Prop} {rule : Rule α}

/-- From such words the rule makes a result with the property and leaves such words. -/
def Gives (words : Words) (value : α → Prop) (rule : Rule α) : Prop :=
  ∀ cursor, words.Hold cursor.ahead →
    Yields (fun answer => value answer.1 ∧ words.Hold answer.2.ahead) (rule cursor)

/-- From such words the rule leaves such words, whatever its result. -/
def Keeps (words : Words) (rule : Rule α) : Prop := Gives words (fun _ => True) rule

namespace Gives

/-- A result without any tokens. -/
theorem pure {result : α} (holds : value result) : Gives words value (Pure.pure result) :=
  fun _ hold => .ok ⟨holds, hold⟩

/-- One rule behind another, which may depend on the result of the first. -/
theorem bind {next : α → Rule β} (first : Gives words value rule)
    (second : ∀ result, value result → Gives words other (next result)) :
    Gives words other (rule >>= next) := fun cursor hold =>
  (first cursor hold).bind fun answer holds => second answer.1 holds.1 answer.2 holds.2

/-- A changed result. -/
theorem map {change : α → β} (gives : Gives words value rule)
    (holds : ∀ result, value result → other (change result)) :
    Gives words other (change <$> rule) :=
  gives.bind fun result found => pure (holds result found)

/-- A rule behind one whose result does not matter. -/
theorem after {next : α → Rule β} (first : Keeps words rule)
    (second : ∀ result, Gives words other (next result)) : Gives words other (rule >>= next) :=
  first.bind fun result _ => second result

/-- One of two rules. -/
theorem ite {condition : Prop} [Decidable condition] {yes no : Rule α}
    (whenTrue : Gives words value yes) (whenFalse : Gives words value no) :
    Gives words value (if condition then yes else no) := by
  split
  · exact whenTrue
  · exact whenFalse

/-- One of two rules, and then what follows both. -/
theorem either {condition : Prop} [Decidable condition] {yes no : Rule α} {next : α → Rule β}
    (whenTrue : Keeps words yes) (whenFalse : Keeps words no)
    (second : ∀ result, Gives words other (next result)) :
    Gives words other (if condition then yes >>= next else no >>= next) :=
  ite (after whenTrue second) (after whenFalse second)

/-- A rule that may be left out, and then what follows. -/
theorem perhaps {condition : Prop} [Decidable condition] {rest : Rule β} (first : Keeps words rule)
    (second : Gives words other rest) :
    Gives words other (if condition then rule >>= fun _ => rest else rest) :=
  ite (after first fun _ => second) second

/-- A result has every weaker property. -/
theorem mono {weaker : α → Prop} (gives : Gives words value rule)
    (weaken : ∀ result, value result → weaker result) : Gives words weaker rule :=
  fun cursor hold result same =>
    (gives cursor hold result same).imp (weaken result.1) id

theorem keeps (gives : Gives words value rule) : Keeps words rule :=
  gives.mono fun _ _ => trivial

theorem refuseAt (fault : Fault) (offset : Nat) : Gives words value (Rule.refuseAt fault offset) :=
  fun _ _ => .error _

theorem refuse : Gives words value Rule.refuse := fun _ _ => .error _

/-- A result that takes no tokens. -/
theorem done {result : Except SyntaxFault α} (yields : Yields value result) :
    Gives words value (Rule.done result) := fun _ hold =>
  yields.map fun _ holds => ⟨holds, hold⟩

/-- The token that comes next may stand among the words. -/
theorem peek : Gives words (fun token => ∀ found ∈ token, words.Allow found) Rule.peek := by
  intro cursor hold
  refine .ok ⟨?_, hold⟩
  intro token found
  obtain ⟨lexeme, first, rfl⟩ := Option.map_eq_some_iff.mp found
  exact words.allow_of_mem hold (List.mem_of_head? first)

/-- A token that is taken is left out of those ahead. -/
theorem take : Gives words (fun lexeme => words.Allow lexeme.token) Rule.take := by
  intro cursor hold
  unfold Rule.take
  split
  · exact .error _
  · rename_i lexeme ahead same
    rw [same] at hold
    refine .ok ⟨words.allow_of_mem hold List.mem_cons_self, ?_⟩
    exact words.sublist (List.sublist_cons_self lexeme ahead) hold

/-- A name that is taken is a name among the words. -/
theorem name : Gives words (fun id => words.Allow (.name id)) Rule.name := by
  refine peek.bind fun token allowed => ?_
  split
  · exact .after take.keeps fun _ => .pure (allowed _ rfl)
  · exact refuse

end Gives

/-! Rules that look at tokens or pass over them. -/

namespace Keeps

theorem get : Keeps words (get : Rule Cursor) := fun _ hold => .ok ⟨trivial, hold⟩

theorem peekSecond : Keeps words Rule.peekSecond := fun _ hold => .ok ⟨trivial, hold⟩

theorem offset : Keeps words Rule.offset := fun _ hold => .ok ⟨trivial, hold⟩

theorem spanFrom (start : Nat) : Keeps words (Rule.spanFrom start) :=
  fun _ hold => .ok ⟨trivial, hold⟩

theorem isNext (token : Token) : Keeps words (Rule.isNext token) :=
  fun _ hold => .ok ⟨trivial, hold⟩

/-- A token is taken or not. -/
theorem accept (token : Token) : Keeps words (Rule.accept token) := by
  intro cursor hold
  unfold Rule.accept
  split
  · rename_i lexeme ahead same
    split
    · rw [same] at hold
      exact .ok ⟨trivial, words.sublist (List.sublist_cons_self lexeme ahead) hold⟩
    · exact .ok ⟨trivial, hold⟩
  · exact .ok ⟨trivial, hold⟩

theorem expect (token : Token) : Keeps words (Rule.expect token) :=
  .after (accept token) fun _ => .ite .refuse (.pure trivial)

theorem symbol (text : String) : Keeps words (Rule.symbol text) := expect _

theorem keyword (text : String) : Keeps words (Rule.keyword text) := expect _

end Keeps

namespace Gives

/-- What one application gives, every one of them gives. -/
theorem repeatBounded {condition : Cursor → Bool} (gives : Gives words value rule) (bound : Nat) :
    Gives words (fun results => ∀ result ∈ results, value result)
      (Rule.repeatBounded condition rule bound) := by
  induction bound with
  | zero => exact .pure (by simp)
  | succ bound ih =>
    refine .after .get fun cursor => .ite ?_ (.pure (by simp))
    refine gives.bind fun first holds => ih.bind fun rest others => ?_
    exact .pure (List.forall_mem_cons.mpr ⟨holds, others⟩)

theorem repeatWhile (gives : Gives words value rule) (condition : Cursor → Bool) :
    Gives words (fun results => ∀ result ∈ results, value result)
      (Rule.repeatWhile condition rule) := by
  intro cursor hold
  unfold Rule.repeatWhile
  split
  · exact repeatBounded gives _ cursor hold
  · exact .ok ⟨by simp, hold⟩

/-- Tokens that are taken one after another are the first of those ahead. -/
theorem yields_repeatBounded_take (condition : Cursor → Bool) (bound : Nat) (cursor : Cursor) :
    Yields (fun answer => answer.1 ++ answer.2.ahead = cursor.ahead)
      (Rule.repeatBounded condition Rule.take bound cursor) := by
  induction bound generalizing cursor with
  | zero => exact .ok rfl
  | succ bound ih =>
    change Yields _ ((if condition cursor then
      Rule.take >>= fun first => Rule.repeatBounded condition Rule.take bound >>= fun rest =>
        Pure.pure (first :: rest)
      else Pure.pure [] : Rule (List Lexeme)) cursor)
    split
    · have first : Yields (fun answer => answer.1 :: answer.2.ahead = cursor.ahead)
          (Rule.take cursor) := by
        unfold Rule.take
        split
        · exact .error _
        · rename_i same
          exact .ok same.symm
      refine first.bind fun answer taken => (ih answer.2).bind fun rest others => ?_
      refine .ok ?_
      rw [← taken, ← others]
      rfl
    · exact .ok rfl

/-- Tokens that are taken one after another have what is known of all. -/
theorem takeWhile (condition : Cursor → Bool) :
    Gives words words.Hold (Rule.repeatWhile condition Rule.take) := by
  intro cursor hold
  have taken : Yields (fun answer => answer.1 ++ answer.2.ahead = cursor.ahead)
      (Rule.repeatWhile condition Rule.take cursor) := by
    unfold Rule.repeatWhile
    split
    · exact yields_repeatBounded_take condition _ cursor
    · exact .ok rfl
  intro answer success
  rw [← taken answer success] at hold
  exact ⟨words.sublist (List.sublist_append_left _ _) hold,
    words.sublist (List.sublist_append_right _ _) hold⟩

/-- A rule that is applied or not. -/
theorem optionally {condition : Rule Bool} (test : Keeps words condition)
    (gives : Gives words value rule) :
    Gives words (fun result => ∀ found ∈ result, value found) (Rule.optionally condition rule) := by
  refine .after test fun _ => .ite ?_ (.pure (by simp))
  refine gives.bind fun result holds => .pure ?_
  rintro _ ⟨⟩
  exact holds

/-- Items with commas between them. -/
theorem oneOrMore {item : Rule α} (gives : Gives words value item) :
    Gives words (fun results => ∀ result ∈ results, value result) (Rule.oneOrMore item) := by
  have next : Gives words value (do Rule.symbol ","; item) := .after (.symbol _) fun _ => gives
  refine gives.bind fun first holds => (next.repeatWhile _).bind fun rest others => ?_
  exact .pure (List.forall_mem_cons.mpr ⟨holds, others⟩)

/-- Items with commas between them and possibly one at the end. -/
theorem commaList {item : Rule α} (gives : Gives words value item) (startsItem : Token → Bool) :
    Gives words (fun results => ∀ result ∈ results.1, value result)
      (Rule.commaList startsItem item) := by
  have next : Gives words value (do Rule.symbol ","; item) := .after (.symbol _) fun _ => gives
  refine gives.bind fun first holds => (next.repeatWhile _).bind fun rest others => ?_
  exact .after (.accept _) fun _ => .pure (List.forall_mem_cons.mpr ⟨holds, others⟩)

/-- Items up to a closing token. -/
theorem listUntil {item : Rule α} (gives : Gives words value item) (closing : Token) :
    Gives words (fun results => ∀ result ∈ results, value result)
      (Rule.listUntil closing item) := by
  unfold Rule.listUntil
  refine .bind (.repeatWhile ?_ _) fun items holds => .after (.expect _) fun _ => .pure holds
  refine gives.bind fun result holds => .after (.isNext _) fun _ => ?_
  exact .perhaps (.symbol _) (.pure holds)

/-- The names behind the first part of a dotted name are names among the words. -/
theorem attributes :
    Gives words (fun names => ∀ name ∈ names, words.Allow (.name name)) Rule.attributes :=
  .repeatWhile (.after (.symbol _) fun _ => .name) _

/-- What a rule makes of a whole list of tokens. -/
theorem run (gives : Gives words value rule) {lexemes : List Lexeme} (hold : words.Hold lexemes) :
    Yields value (rule.run lexemes) := by
  unfold Rule.run
  split
  · exact .error _
  · rename_i result cursor same
    split
    · exact .ok (gives ⟨lexemes, 0⟩ hold _ same).1
    · exact .error _

end Gives

end Rule

end Callwise
