import Callwise.Proofs.Source.PlainWords
import Callwise.Source.ExprGrammar
import Mathlib.Data.List.Forall2

/-!
# Parsing operands without operators

The grammar descends through a rule for every rank of operators. A rule `Passes` what the rule below
it gives when none of its own operators follows, so a name, `None` or a subscript comes up through
all of them unchanged, and a chain of these with bars between them from the rule for `|` on. `Takes`
says what a rule makes of some tokens wherever they stand, as long as one of a few tokens follows.
The repetitions of the grammar are bounded, and `Repeats` describes them without their bound.
-/

namespace Callwise

open Rule

variable {cursor : Cursor} {token : Token}

namespace Rule

variable {α β : Type}

/-- From this cursor the rule gives the value and leaves the cursor `after`. -/
def Runs (rule : Rule α) (cursor : Cursor) (value : α) (after : Cursor) : Prop :=
  rule cursor = .ok (value, after)

namespace Runs

theorem pure (value : α) (cursor : Cursor) : Runs (Pure.pure value) cursor value cursor := rfl

/-- A rule and the one that follows it. -/
theorem bind {rule : Rule α} {next : α → Rule β} {cursor middle after : Cursor} {value : α}
    {result : β} (first : Runs rule cursor value middle)
    (second : Runs (next value) middle result after) :
    Runs (rule >>= next) cursor result after := by
  simp only [Runs] at first second
  simp only [Runs, Bind.bind, StateT.bind, first, Except.bind, second]

theorem offset (cursor : Cursor) : Runs Rule.offset cursor cursor.offset cursor := rfl

theorem peek {next : Option Token} (isNext : cursor.token? = next) :
    Runs Rule.peek cursor next cursor := by
  rw [← isNext]
  rfl

theorem get (cursor : Cursor) : Runs get cursor cursor cursor := rfl

theorem spanFrom (start : Nat) (cursor : Cursor) :
    Runs (Rule.spanFrom start) cursor ⟨start, cursor.behind⟩ cursor := rfl

theorem take (lexeme : Lexeme) (ahead : List Lexeme) (behind : Nat) :
    Runs Rule.take ⟨lexeme :: ahead, behind⟩ lexeme ⟨ahead, lexeme.span.stop⟩ := rfl

theorem isNext_of_ne (other : cursor.token? ≠ some token) :
    Runs (Rule.isNext token) cursor false cursor := by
  simp only [Runs, Rule.isNext, beq_false_of_ne other]

/-- A token that does not come next is not accepted. -/
theorem accept_of_ne (other : cursor.token? ≠ some token) :
    Runs (Rule.accept token) cursor false cursor := by
  obtain ⟨ahead, behind⟩ := cursor
  cases ahead with
  | nil => rfl
  | cons lexeme ahead =>
    have differs : (lexeme.token == token) = false := by simpa [Cursor.token?] using other
    simp only [Runs, Rule.accept, differs]
    rfl

/-- The token that comes next is accepted. -/
theorem accept_of_eq {lexeme : Lexeme} (same : lexeme.token = token) (ahead : List Lexeme)
    (behind : Nat) :
    Runs (Rule.accept token) ⟨lexeme :: ahead, behind⟩ true ⟨ahead, lexeme.span.stop⟩ := by
  simp [Runs, Rule.accept, same]

theorem symbol {text : String} {lexeme : Lexeme} (same : lexeme.token = .symbol text)
    (ahead : List Lexeme) (behind : Nat) :
    Runs (Rule.symbol text) ⟨lexeme :: ahead, behind⟩ () ⟨ahead, lexeme.span.stop⟩ :=
  bind (accept_of_eq same ahead behind) (pure () _)

end Runs

/-- The rule is applied as long as the condition holds. Every application takes a token. -/
inductive Repeats (condition : Cursor → Bool) (rule : Rule α) :
    Cursor → List α → Cursor → Prop where
  | stop {cursor : Cursor} (ends : condition cursor = false) :
      Repeats condition rule cursor [] cursor
  | step {cursor middle after : Cursor} {value : α} {values : List α}
      (goesOn : condition cursor = true) (first : Runs rule cursor value middle)
      (shorter : middle.ahead.length < cursor.ahead.length)
      (rest : Repeats condition rule middle values after) :
      Repeats condition rule cursor (value :: values) after

namespace Repeats

variable {condition : Cursor → Bool} {rule : Rule α} {cursor after : Cursor} {values : List α}

/-- A bound of as many tokens as are left is enough. -/
theorem repeatBounded (repeats : Repeats condition rule cursor values after) {bound : Nat}
    (enough : cursor.ahead.length ≤ bound) :
    Runs (Rule.repeatBounded condition rule bound) cursor values after := by
  induction repeats generalizing bound with
  | stop ends =>
    cases bound with
    | zero => rfl
    | succ bound =>
      refine .bind (.get _) ?_
      rw [ends]
      rfl
  | step goesOn first shorter _ ih =>
    cases bound with
    | zero => omega
    | succ bound =>
      refine .bind (.get _) ?_
      rw [goesOn]
      exact .bind first (.bind (ih (by omega)) rfl)

/-- The bound on repetitions is never what ends them. -/
theorem repeatWhile (repeats : Repeats condition rule cursor values after) :
    Runs (Rule.repeatWhile condition rule) cursor values after := by
  have bounded := repeats.repeatBounded (Nat.le_refl _)
  simp only [Runs, Rule.repeatWhile]
  cases repeats with
  | stop ends => rw [ends]; rfl
  | step goesOn => rw [goesOn]; exact bounded

end Repeats

/-- One of the tokens comes next. -/
def Follows (ends : List Token) (rest : List Lexeme) : Prop :=
  ∃ next ∈ rest.head?, next.token ∈ ends

section Follows

variable {ends : List Token} {cursor : Cursor}

theorem Follows.mono {wider : List Token} {rest : List Lexeme} (follows : Follows ends rest)
    (within : ends ⊆ wider) : Follows wider rest := by
  obtain ⟨next, isNext, isEnd⟩ := follows
  exact ⟨next, isNext, within isEnd⟩

/-- The token that comes next. -/
theorem Follows.token? (follows : Follows ends cursor.ahead) :
    ∃ next ∈ ends, cursor.token? = some next := by
  obtain ⟨next, isNext, isEnd⟩ := follows
  exact ⟨next.token, isEnd, by rw [Cursor.token?, Option.mem_def.mp isNext]; rfl⟩

/-- Other tokens do not come next. -/
theorem Follows.token?_ne (follows : Follows ends cursor.ahead) (other : token ∉ ends) :
    cursor.token? ≠ some token := by
  obtain ⟨next, isEnd, isNext⟩ := follows.token?
  rintro same
  rw [isNext, Option.some.injEq] at same
  exact other (same ▸ isEnd)

end Follows

/-- Where one of the tokens `ends` follows, the rule takes the tokens and gives a value with the
property. -/
def Takes (rule : Rule α) (tokens ends : List Token) (holds : α → Prop) : Prop :=
  ∀ (lexemes rest : List Lexeme) (behind : Nat), lexemes.map Lexeme.token = tokens →
    Follows ends rest →
      ∃ value after, Runs rule ⟨lexemes ++ rest, behind⟩ value ⟨rest, after⟩ ∧ holds value

/-! ### Rules that let plain operands pass -/

/-- A word comes next, and no assignment. -/
structure AtWord (cursor : Cursor) : Prop where
  word : ∃ first ∈ cursor.token?, first.isWord = true
  noAssignment : cursor.second? ≠ some (.symbol ":=")

/-- Tokens that are no words do not come next. -/
theorem AtWord.token?_ne (atWord : AtWord cursor) (other : token.isWord = false) :
    cursor.token? ≠ some token := by
  obtain ⟨first, isFirst, isWord⟩ := atWord.word
  rintro same
  rw [Option.mem_def.mp isFirst, Option.some.injEq] at same
  rw [same, other] at isWord
  cases isWord

/-- What begins here is a name or `None`. -/
theorem AtWord.cases (atWord : AtWord cursor) :
    (∃ id, cursor.token? = some (.name id)) ∨ cursor.token? = some (.keyword "None") := by
  obtain ⟨first, isFirst, isWord⟩ := atWord.word
  unfold Token.isWord at isWord
  split at isWord
  · exact .inl ⟨_, isFirst⟩
  · exact .inr isFirst
  · cases isWord

/-- Plain tokens begin with a word that is not assigned to. -/
theorem AtWord.of_arePlain {tokens ends : List Token} (plain : Token.ArePlain tokens)
    (noAssignment : .symbol ":=" ∉ ends) {lexemes rest : List Lexeme}
    (same : lexemes.map Lexeme.token = tokens) (follows : Follows ends rest) (behind : Nat) :
    AtWord ⟨lexemes ++ rest, behind⟩ := by
  subst same
  obtain ⟨first, isFirst, isWord⟩ := plain.begins
  cases lexemes with
  | nil => cases isFirst
  | cons lexeme others =>
    refine ⟨⟨first, isFirst, isWord⟩, ?_⟩
    cases others with
    | nil =>
      have later : (Cursor.mk rest behind).token? ≠ some (.symbol ":=") :=
        follows.token?_ne noAssignment
      simpa [Cursor.second?, Cursor.token?, List.head?_eq_getElem?] using later
    | cons second others =>
      have isPlain := plain.plain second.token (by simp)
      intro isAssignment
      have isSymbol : second.token = .symbol ":=" := by
        simpa [Cursor.second?] using isAssignment
      rw [isSymbol] at isPlain
      exact absurd isPlain (by decide)

/-- At a word, the outer rule gives what the inner one gives, if one of the tokens follows. -/
def Passes (outer inner : Rule α) (ends : List Token) : Prop :=
  ∀ (cursor after : Cursor) (value : α), AtWord cursor → Runs inner cursor value after →
    Follows ends after.ahead → Runs outer cursor value after

section Passing

variable {outer middle inner : Rule α} {tokens ends fewer : List Token} {holds weaker : α → Prop}

/-- Rules pass on what passes through the rules inside. -/
theorem Passes.trans (first : Passes outer middle ends) (second : Passes middle inner ends) :
    Passes outer inner ends := fun cursor after value atWord runs follows =>
  first cursor after value atWord (second cursor after value atWord runs follows) follows

theorem Passes.mono (passes : Passes outer inner ends) (within : fewer ⊆ ends) :
    Passes outer inner fewer :=
  fun cursor after value atWord runs follows =>
    passes cursor after value atWord runs (follows.mono within)

/-- Fewer tokens may follow. -/
theorem Takes.mono (takes : Takes inner tokens ends holds) (within : fewer ⊆ ends) :
    Takes inner tokens fewer holds :=
  fun lexemes rest behind same follows => takes lexemes rest behind same (follows.mono within)

theorem Takes.imp (takes : Takes inner tokens ends holds)
    (implies : ∀ value, holds value → weaker value) : Takes inner tokens ends weaker := by
  intro lexemes rest behind same follows
  obtain ⟨value, after, runs, property⟩ := takes lexemes rest behind same follows
  exact ⟨value, after, runs, implies value property⟩

/-- What the inner rule takes is taken by the outer one. -/
theorem Passes.takes (passes : Passes outer inner ends) (plain : Token.ArePlain tokens)
    (noAssignment : .symbol ":=" ∉ ends) (takes : Takes inner tokens ends holds) :
    Takes outer tokens ends holds := by
  intro lexemes rest behind same follows
  obtain ⟨value, after, runs, property⟩ := takes lexemes rest behind same follows
  have atWord := AtWord.of_arePlain plain noAssignment same follows behind
  exact ⟨value, after, passes _ _ value atWord runs follows, property⟩

end Passing

/-- Behind an item comes the mark of the next one, or what follows them all. -/
theorem follows_later {mark : Token} {tokens : α → List Token} {ends : List Token}
    {items : List α} {later rest : List Lexeme}
    (same : later.map Lexeme.token = items.flatMap fun item => mark :: tokens item)
    (follows : Follows ends rest) : Follows (mark :: ends) (later ++ rest) := by
  cases items with
  | nil =>
    obtain rfl := List.map_eq_nil_iff.mp same
    exact follows.mono fun _ => List.mem_cons_of_mem mark
  | cons =>
    obtain ⟨next, -, rfl, isMark, -⟩ := List.map_eq_cons_iff.mp same
    exact ⟨next, rfl, isMark ▸ List.mem_cons_self⟩

/-- Items with a mark before each are taken one after the other. -/
theorem takes_repeatWhile {condition : Cursor → Bool} {step : Rule β} {mark : Token}
    {tokens : α → List Token} {ends : List Token} {holds : α → β → Prop}
    (goesOn : ∀ cursor : Cursor, cursor.token? = some mark →
      (∃ second ∈ cursor.second?, second.isWord = true) → condition cursor = true)
    (stops : ∀ cursor : Cursor, Follows ends cursor.ahead → condition cursor = false)
    {items : List α} (plain : ∀ item ∈ items, Token.ArePlain (tokens item))
    (each : ∀ item ∈ items, Takes step (mark :: tokens item) (mark :: ends) (holds item)) :
    Takes (repeatWhile condition step) (items.flatMap fun item => mark :: tokens item) ends
      (List.Forall₂ holds items) := by
  -- The bound of `repeatWhile` is taken where it begins, so the induction is on `Repeats`.
  suffices repeats : ∀ (lexemes rest : List Lexeme) (behind : Nat),
      lexemes.map Lexeme.token = (items.flatMap fun item => mark :: tokens item) →
      Follows ends rest → ∃ values after,
        Repeats condition step ⟨lexemes ++ rest, behind⟩ values ⟨rest, after⟩ ∧
          List.Forall₂ holds items values by
    intro lexemes rest behind same follows
    obtain ⟨values, after, repeated, holds⟩ := repeats lexemes rest behind same follows
    exact ⟨values, after, repeated.repeatWhile, holds⟩
  induction items with
  | nil =>
    intro lexemes rest behind same follows
    obtain rfl := List.map_eq_nil_iff.mp same
    exact ⟨[], behind, .stop (stops _ follows), .nil⟩
  | cons item others ih =>
    intro lexemes rest behind same follows
    rw [List.forall_mem_cons] at plain each
    obtain ⟨taken, later, rfl, sameTaken, sameLater⟩ := List.map_eq_append_iff.mp same
    obtain ⟨value, middle, runs, property⟩ :=
      each.1 taken (later ++ rest) behind sameTaken (follows_later sameLater follows)
    obtain ⟨values, after, repeated, properties⟩ :=
      ih plain.2 each.2 later rest middle sameLater follows
    obtain ⟨first, words, rfl, isMark, sameWords⟩ := List.map_eq_cons_iff.mp sameTaken
    rw [List.append_assoc]
    refine ⟨value :: values, after, .step (goesOn _ ?_ ?_) runs ?_ repeated,
      .cons property properties⟩
    · exact congrArg some isMark
    · obtain ⟨word, isFirst, isWord⟩ := plain.1.begins
      rw [← sameWords, List.head?_map] at isFirst
      refine ⟨word, ?_, isWord⟩
      cases words with
      | nil => cases isFirst
      | cons => exact isFirst
    · simp only [List.length_append, List.length_cons]
      omega

/-- Marks between items are marks before all items but the first. -/
theorem intercalate_map_cons (mark : Token) (tokens : α → List Token) (first : α) (rest : List α) :
    [mark].intercalate ((first :: rest).map tokens) =
      tokens first ++ rest.flatMap fun item => mark :: tokens item := by
  induction rest generalizing first with
  | nil => simp
  | cons second others ih =>
    rw [List.map_cons, List.map_cons, List.intercalate_cons_cons, ← List.map_cons,
      ih]
    simp

/-- Each item has at most as many tokens as all of them with their marks. -/
theorem length_le_intercalate (mark : Token) (tokens : α → List Token) {item : α} {items : List α}
    (member : item ∈ items) :
    (tokens item).length ≤ ([mark].intercalate (items.map tokens)).length := by
  cases items with
  | nil => cases member
  | cons first rest =>
    rw [intercalate_map_cons, List.length_append]
    rcases List.mem_cons.mp member with rfl | later
    · omega
    · have within : (mark :: tokens item).Sublist (rest.flatMap fun item => mark :: tokens item) :=
        List.sublist_flatten_of_mem (List.mem_map_of_mem later)
      have shorter := within.length_le
      rw [List.length_cons] at shorter
      omega

/-- Items with a mark between them: the first is taken by itself, the others with their marks. -/
theorem runs_separated {γ : Type} {item : Rule β} {condition : Cursor → Bool} {step : Rule γ}
    {mark : Token} {tokens : α → List Token} {ends : List Token} {holds : α → β → Prop}
    {holdsBehind : α → γ → Prop}
    (goesOn : ∀ cursor : Cursor, cursor.token? = some mark →
      (∃ second ∈ cursor.second?, second.isWord = true) → condition cursor = true)
    (stops : ∀ cursor : Cursor, Follows ends cursor.ahead → condition cursor = false)
    {first : α} {rest : List α} (plain : ∀ item ∈ rest, Token.ArePlain (tokens item))
    (takesFirst : Takes item (tokens first) (mark :: ends) (holds first))
    (each : ∀ item ∈ rest, Takes step (mark :: tokens item) (mark :: ends) (holdsBehind item))
    {lexemes follow : List Lexeme} (behind : Nat)
    (same : lexemes.map Lexeme.token = [mark].intercalate ((first :: rest).map tokens))
    (follows : Follows ends follow) :
    ∃ value middle values after, Runs item ⟨lexemes ++ follow, behind⟩ value middle ∧
      Runs (repeatWhile condition step) middle values ⟨follow, after⟩ ∧ holds first value ∧
        List.Forall₂ holdsBehind rest values := by
  rw [intercalate_map_cons] at same
  obtain ⟨taken, later, rfl, sameTaken, sameLater⟩ := List.map_eq_append_iff.mp same
  obtain ⟨value, middle, runs, property⟩ :=
    takesFirst taken (later ++ follow) behind sameTaken (follows_later sameLater follows)
  obtain ⟨values, after, repeated, properties⟩ :=
    takes_repeatWhile goesOn stops plain each later follow middle sameLater follows
  rw [List.append_assoc]
  exact ⟨value, _, values, after, runs, repeated, property, properties⟩

end Rule

/-- Expressions with `|` between them, grouped from the left. Each further one comes with the span
of the union that it completes. -/
def Expr.orChain (first : Expr) (rest : List (Span × Expr)) : Expr :=
  rest.foldl (fun left entry => .binary entry.1 .bitOr left entry.2) first

/-- A chain of several parts is a union of two. -/
theorem Expr.orChain_eq_binary (first : Expr) {rest : List (Span × Expr)} (several : rest ≠ []) :
    ∃ span left right, Expr.orChain first rest = .binary span .bitOr left right := by
  obtain ⟨others, last, rfl⟩ := (List.eq_nil_or_concat' rest).resolve_left several
  exact ⟨last.1, .orChain first others, last.2, by simp [Expr.orChain]⟩

/-- The index of a subscript is its only item or a tuple of items. -/
inductive Expr.IsIndexOf : Expr → List Expr → Prop where
  | single (item : Expr) : IsIndexOf item [item]
  | several (span : Span) (items : List Expr) : IsIndexOf (.tuple span items) items

namespace ExprGrammar

/-- The tokens that come behind an expression. -/
def testEnds : List Token := [.newline, .symbol "]", .symbol ","]

/-- The tokens that come behind an operand of `|`. -/
def operandEnds : List Token := .symbol "|" :: testEnds

variable {inner : ExprRules}

/-- At a word there is nothing to wait for. -/
theorem passes_awaited (ends : List Token) : Passes (awaited inner) (primary inner) ends :=
  fun _ _ _ atWord runs _ => .bind (.offset _) (.bind (.accept_of_ne (atWord.token?_ne rfl)) runs)

/-- What has no exponent behind it. -/
theorem passes_power {ends : List Token} (noPower : .symbol "**" ∉ ends) :
    Passes (power inner) (awaited inner) ends := fun _ _ _ _ runs follows =>
  .bind (.offset _) (.bind runs (.bind (.accept_of_ne (follows.token?_ne noPower)) (.pure _ _)))

/-- At a word there is no sign. -/
theorem passes_factor (ends : List Token) : Passes (factor inner) (power inner) ends := by
  intro cursor after value atWord runs _
  refine .bind (.offset _) ?_
  rcases atWord.cases with ⟨id, isName⟩ | isNone
  · exact .bind (.peek isName) runs
  · exact .bind (.peek isNone) runs

/-- What has no operator of the rank behind it. -/
theorem passes_leftAssociative {operators : List (String × BinaryOp)} {operand : Rule Expr}
    {ends : List Token} (noOperator : ∀ next ∈ ends, operatorIn? operators (some next) = none) :
    Passes (leftAssociative operators operand) operand ends := by
  intro cursor after value _ runs follows
  obtain ⟨next, isEnd, isNext⟩ := follows.token?
  have stops : (operatorIn? operators after.token?).isSome = false := by
    rw [isNext, noOperator next isEnd]
    rfl
  exact .bind (.offset _) (.bind runs (.bind (Repeats.stop stops).repeatWhile (.pure _ _)))

/-- What has no operators but `|` is read as an operand of that. -/
theorem passes_xor :
    Passes (leftAssociative [("^", .bitXor)] (leftAssociative [("&", .bitAnd)] (shift inner)))
      (primary inner) operandEnds :=
  .trans (passes_leftAssociative (by decide)) <| .trans (passes_leftAssociative (by decide)) <|
    .trans (passes_leftAssociative (by decide)) <| .trans (passes_leftAssociative (by decide)) <|
      .trans (passes_leftAssociative (by decide)) <| .trans (passes_factor _) <|
        .trans (passes_power (by decide)) (passes_awaited _)

/-- What is not compared. -/
theorem passes_comparison : Passes (comparison inner) (operand inner) testEnds := by
  intro cursor after value _ runs follows
  have stops : isComparisonNext after = false := by
    obtain ⟨next, isEnd, isNext⟩ := follows.token?
    simp only [testEnds, List.mem_cons, List.not_mem_nil, or_false] at isEnd
    rcases isEnd with rfl | rfl | rfl <;> simp [isComparisonNext, isNext]
  exact .bind (.offset _) (.bind runs (.bind (Repeats.stop stops).repeatWhile (.pure _ _)))

/-- At a word there is no `not`. -/
theorem passes_negation (ends : List Token) : Passes (negation inner) (comparison inner) ends :=
  fun _ _ _ atWord runs _ =>
    .bind (.offset _) (.bind (.accept_of_ne (atWord.token?_ne rfl)) runs)

/-- What has no `and` or `or` behind it. -/
theorem passes_joined {word : String} {operand : Rule Expr} {ends : List Token}
    (noWord : .keyword word ∉ ends) : Passes (joined word operand) operand ends := by
  intro cursor after value _ runs follows
  have stops : (after.token? == some (.keyword word)) = false :=
    beq_false_of_ne (follows.token?_ne noWord)
  exact .bind (.offset _) (.bind runs (.bind (Repeats.stop stops).repeatWhile (.pure _ _)))

/-- What is no conditional. -/
theorem passes_test : Passes (test inner) (disjunction inner) testEnds :=
  fun _ _ _ atWord runs follows =>
    .bind (.isNext_of_ne (atWord.token?_ne rfl)) (.bind (.offset _) (.bind runs
      (.bind (.accept_of_ne (follows.token?_ne (by decide))) (.pure _ _))))

/-- What has no operators but those on bits is read as any expression. -/
theorem passes_operand : Passes (test inner) (operand inner) testEnds :=
  .trans passes_test <| .trans (passes_joined (by decide)) <| .trans (passes_joined (by decide)) <|
    .trans (passes_negation _) passes_comparison

/-- What has no operators at all is read as any expression. -/
theorem passes_primary : Passes (test inner) (primary inner) testEnds :=
  .trans passes_operand <| .trans (passes_leftAssociative (by decide)) <|
    passes_xor.mono (List.subset_cons_self _ _)

/-- The items of a subscript are plain expressions. -/
theorem passes_subscriptItem : Passes (subscriptItem inner) inner.test testEnds := by
  intro cursor after value atWord runs follows
  have noAssignment : isAssignmentNext cursor = false := by
    unfold isAssignmentNext
    split
    · rename_i ahead
      exact absurd (by simp [Cursor.second?, ahead]) atWord.noAssignment
    · rfl
  have named : Runs (starredNamedTest inner) cursor value after := by
    refine .bind (.isNext_of_ne (atWord.token?_ne rfl)) (.bind (.get _) ?_)
    rw [noAssignment]
    exact runs
  refine .bind (.offset _) (.bind (.isNext_of_ne (atWord.token?_ne rfl))
    (.bind (.isNext_of_ne (atWord.token?_ne rfl)) (.bind (.get _) (.bind named ?_))))
  rw [noAssignment]
  exact .bind (.isNext_of_ne (follows.token?_ne (by decide))) (.pure _ _)

/-! ### Chains and lists -/

/-- An operator and the operand behind it, in an expression that begins at the offset. -/
def operation (operators : List (String × BinaryOp)) (operand : Rule Expr) (start : Nat) :
    Rule (BinaryOp × Expr × Span) := do
  let op := (operatorIn? operators (← peek)).getD .add
  let _ ← take
  let right ← operand
  pure (op, right, (← spanFrom start))

/-- A bar and the operand behind it. -/
theorem takes_operation {operand : Rule Expr} {tokens ends : List Token} {holds : Expr → Prop}
    (takes : Takes operand tokens ends holds) (start : Nat) :
    Takes (operation [("|", .bitOr)] operand start) (.symbol "|" :: tokens) ends
      fun step => step.1 = .bitOr ∧ holds step.2.1 := by
  intro lexemes rest behind same follows
  obtain ⟨bar, others, rfl, isBar, sameOthers⟩ := List.map_eq_cons_iff.mp same
  obtain ⟨value, after, runs, property⟩ := takes others rest bar.span.stop sameOthers follows
  refine ⟨(.bitOr, value, ⟨start, after⟩), after, ?_, rfl, property⟩
  exact .bind (.peek (congrArg some isBar))
    (.bind (.take bar _ behind) (.bind runs (.bind (.spanFrom start _) (.pure _ _))))

/-- What bars and operands give is a chain. -/
theorem foldl_eq_orChain {α : Type} {holds : α → Expr → Prop} {items : List α}
    {steps : List (BinaryOp × Expr × Span)}
    (bars : List.Forall₂ (fun item step => step.1 = .bitOr ∧ holds item step.2.1) items steps)
    (first : Expr) :
    steps.foldl (fun left step => Expr.binary step.2.2 step.1 left step.2.1) first =
      .orChain first (steps.map fun step => (step.2.2, step.2.1)) := by
  induction bars generalizing first with
  | nil => rfl
  | cons bar _ ih =>
    rw [List.foldl_cons, bar.1]
    exact ih _

/-- Operands with bars between them are taken as a chain. -/
theorem takes_operand {α : Type} {tokens : α → List Token} {holds : α → Expr → Prop} {first : α}
    {rest : List α} (plain : ∀ item ∈ first :: rest, Token.ArePlain (tokens item))
    (each : ∀ item ∈ first :: rest, Takes (primary inner) (tokens item) operandEnds (holds item)) :
    Takes (operand inner) ([.symbol "|"].intercalate ((first :: rest).map tokens)) testEnds
      fun hint => ∃ head tail, hint = .orChain head tail ∧
        List.Forall₂ holds (first :: rest) (head :: tail.map Prod.snd) := by
  intro lexemes follow behind same follows
  have parts := fun item member =>
    passes_xor.takes (plain item member) (by decide) (each item member)
  rw [List.forall_mem_cons] at plain parts
  have noBar : ∀ next ∈ testEnds, (operatorIn? [("|", .bitOr)] (some next)).isSome = false := by
    decide
  have stops : ∀ cursor : Cursor, Follows testEnds cursor.ahead →
      (operatorIn? [("|", .bitOr)] cursor.token?).isSome = false := by
    intro cursor follows
    obtain ⟨next, isEnd, isNext⟩ := follows.token?
    rw [isNext, noBar next isEnd]
  obtain ⟨value, middle, steps, after, runs, repeated, property, properties⟩ :=
    runs_separated (fun cursor isBar _ => by rw [isBar]; rfl) stops plain.2 parts.1
      (fun item member => takes_operation (parts.2 item member) _) behind same follows
  refine ⟨_, after, .bind (.offset _) (.bind runs (.bind repeated (.pure _ _))), value,
    steps.map fun step => (step.2.2, step.2.1), foldl_eq_orChain properties value,
    .cons property ?_⟩
  rw [List.map_map, List.forall₂_map_right_iff]
  exact properties.imp fun _ _ step => step.2

/-- Items with commas between them, and no comma behind the last. -/
theorem takes_commaList {α : Type} {startsItem : Token → Bool} {item : Rule Expr}
    {tokens : α → List Token} {ends : List Token} {holds : α → Expr → Prop}
    (starts : ∀ token, token.isWord = true → startsItem token = true)
    (noComma : .symbol "," ∉ ends) {first : α} {rest : List α}
    (plain : ∀ item ∈ rest, Token.ArePlain (tokens item))
    (each : ∀ part ∈ first :: rest,
      Takes item (tokens part) (.symbol "," :: ends) (holds part)) :
    Takes (commaList startsItem item) ([.symbol ","].intercalate ((first :: rest).map tokens)) ends
      fun found => found.2 = false ∧ List.Forall₂ holds (first :: rest) found.1 := by
  intro lexemes follow behind same follows
  rw [List.forall_mem_cons] at each
  have goesOn : ∀ cursor : Cursor, cursor.token? = some (.symbol ",") →
      (∃ second ∈ cursor.second?, second.isWord = true) →
        (cursor.token? == some (.symbol ",") && cursor.second?.any startsItem) = true := by
    rintro cursor isComma ⟨second, isSecond, isWord⟩
    rw [isComma, Option.mem_def.mp isSecond]
    exact starts second isWord
  have stops : ∀ cursor : Cursor, Follows ends cursor.ahead →
      (cursor.token? == some (.symbol ",") && cursor.second?.any startsItem) = false := by
    intro cursor follows
    rw [beq_false_of_ne (follows.token?_ne noComma), Bool.false_and]
  have further : ∀ part ∈ rest, Takes (do symbol ","; item) (.symbol "," :: tokens part)
      (.symbol "," :: ends) (holds part) := by
    intro part member lexemes rest behind same follows
    obtain ⟨comma, others, rfl, isComma, sameOthers⟩ := List.map_eq_cons_iff.mp same
    obtain ⟨value, after, runs, property⟩ :=
      each.2 part member others rest comma.span.stop sameOthers follows
    exact ⟨value, after, .bind (.symbol isComma _ behind) runs, property⟩
  obtain ⟨value, middle, values, after, runs, repeated, property, properties⟩ :=
    runs_separated goesOn stops plain each.1 further behind same follows
  exact ⟨(value :: values, false), after, .bind runs (.bind repeated
    (.bind (.accept_of_ne (follows.token?_ne noComma)) (.pure _ _))), rfl,
    .cons property properties⟩

/-- Words begin expressions. -/
theorem startsStarredTest_of_isWord (isWord : token.isWord = true) :
    startsStarredTest token = true := by
  unfold Token.isWord at isWord
  split at isWord
  · rfl
  · rfl
  · cases isWord

/-- The items of a subscript. -/
theorem takes_subscriptIndex {α : Type} {tokens : α → List Token} {holds : α → Expr → Prop}
    {first : α} {rest : List α} (plain : ∀ item ∈ first :: rest, Token.ArePlain (tokens item))
    (each : ∀ item ∈ first :: rest, Takes inner.test (tokens item) testEnds (holds item)) :
    Takes (subscriptIndex inner) ([.symbol ","].intercalate ((first :: rest).map tokens))
      [.symbol "]"] fun index => ∃ items, index.IsIndexOf items ∧
        List.Forall₂ holds (first :: rest) items := by
  intro lexemes follow behind same follows
  have items : ∀ item ∈ first :: rest,
      Takes (subscriptItem inner) (tokens item) [.symbol ",", .symbol "]"] (holds item) :=
    fun item member => (passes_subscriptItem.takes (plain item member) (by decide)
      (each item member)).mono (by decide)
  have starts : ∀ token : Token, token.isWord = true →
      (startsStarredTest token || token == .symbol ":") = true := fun token isWord => by
    rw [startsStarredTest_of_isWord isWord, Bool.true_or]
  obtain ⟨⟨found, trailing⟩, after, runs, noTrailing, properties⟩ :=
    takes_commaList starts (by decide) (List.forall_mem_cons.mp plain).2 items lexemes follow behind
      same follows
  subst noTrailing
  rcases found with _ | ⟨single, _ | ⟨second, others⟩⟩
  · cases properties
  · exact ⟨single, after, .bind (.offset _) (.bind runs (.pure _ _)), _, .single single, properties⟩
  · exact ⟨_, after, .bind (.offset _) (.bind runs (.bind (.spanFrom _ _) (.pure _ _))), _,
      .several _ _, properties⟩

/-! ### Words and subscripts -/

/-- Behind an operand nothing is attached to it. -/
theorem isTrailerNext_of_follows (follows : Follows operandEnds cursor.ahead) :
    isTrailerNext cursor = false := by
  obtain ⟨next, isEnd, isNext⟩ := follows.token?
  simp only [operandEnds, testEnds, List.mem_cons, List.not_mem_nil, or_false] at isEnd
  rcases isEnd with rfl | rfl | rfl | rfl <;> simp [isTrailerNext, isNext]

/-- An atom with nothing attached to it. -/
theorem takes_primary {tokens : List Token} {holds : Expr → Prop}
    (takes : Takes (atom inner) tokens operandEnds holds) :
    Takes (primary inner) tokens operandEnds holds := by
  intro lexemes rest behind same follows
  obtain ⟨value, after, runs, property⟩ := takes lexemes rest behind same follows
  exact ⟨value, after, .bind (.offset _) (.bind runs (.bind
    (Repeats.stop (isTrailerNext_of_follows follows)).repeatWhile (.pure _ _))), property⟩

/-- A name by itself, whatever follows. -/
theorem runs_atom_name {lexeme : Lexeme} {id : String} (isName : lexeme.token = .name id)
    (ahead : List Lexeme) (behind : Nat) :
    ∃ span, Runs (atom inner) ⟨lexeme :: ahead, behind⟩ (.name span id) ⟨ahead, lexeme.span.stop⟩ :=
  ⟨_, .bind (.offset _) (.bind (.peek (congrArg some isName))
    (.bind (.take lexeme ahead behind) (.bind (.spanFrom _ _) (.pure _ _))))⟩

/-- A name that is an operand. -/
theorem takes_name (id : String) :
    Takes (primary inner) [.name id] operandEnds fun hint => ∃ span, hint = .name span id := by
  refine takes_primary ?_
  intro lexemes rest behind same _
  obtain ⟨lexeme, rfl, isName⟩ := List.map_eq_singleton_iff.mp same
  obtain ⟨span, runs⟩ := runs_atom_name isName rest behind
  exact ⟨_, _, runs, span, rfl⟩

/-- `None` as an operand. -/
theorem takes_none :
    Takes (primary inner) [.keyword "None"] operandEnds
      fun hint => ∃ span, hint = .literal span .none := by
  refine takes_primary ?_
  intro lexemes rest behind same _
  obtain ⟨lexeme, rfl, isNone⟩ := List.map_eq_singleton_iff.mp same
  exact ⟨_, _, .bind (.offset _) (.bind (.peek (congrArg some isNone))
    (.bind (.take lexeme rest behind) (.bind (.spanFrom _ _) (.pure _ _)))), _, rfl⟩

/-- A name with an index in brackets. -/
theorem takes_subscript (base : String) {tokens : List Token} {holds : Expr → Prop}
    (takes : Takes (subscriptIndex inner) tokens [.symbol "]"] holds) :
    Takes (primary inner) ([.name base] ++ ([.symbol "["] ++ (tokens ++ [.symbol "]"])))
      operandEnds fun hint => ∃ span baseSpan index,
        hint = .subscript span (.name baseSpan base) index ∧ holds index := by
  intro lexemes rest behind same follows
  rw [List.singleton_append, List.singleton_append] at same
  obtain ⟨name, lexemes, rfl, isName, same⟩ := List.map_eq_cons_iff.mp same
  obtain ⟨opening, lexemes, rfl, isOpening, same⟩ := List.map_eq_cons_iff.mp same
  obtain ⟨inside, lexemes, rfl, sameInside, same⟩ := List.map_eq_append_iff.mp same
  obtain ⟨closing, rfl, isClosing⟩ := List.map_eq_singleton_iff.mp same
  have together : (name :: opening :: (inside ++ [closing])) ++ rest =
      name :: opening :: (inside ++ closing :: rest) := by simp
  rw [together]
  obtain ⟨span, runsName⟩ := runs_atom_name isName (opening :: (inside ++ closing :: rest)) behind
  obtain ⟨index, after, runsIndex, property⟩ := takes inside (closing :: rest) opening.span.stop
    sameInside ⟨closing, rfl, isClosing ▸ List.mem_singleton_self _⟩
  have isBracket :
      isTrailerNext ⟨opening :: (inside ++ closing :: rest), name.span.stop⟩ = true := by
    simp [isTrailerNext, Cursor.token?, isOpening]
  have noCall : opening.token ≠ .symbol "(" := by
    rw [isOpening]
    decide
  have runsTrailer : Runs (trailer inner) ⟨opening :: (inside ++ closing :: rest), name.span.stop⟩
      (.subscript index closing.span.stop) ⟨rest, closing.span.stop⟩ :=
    .bind (.accept_of_ne (by simpa [Cursor.token?] using noCall))
      (.bind (.accept_of_eq isOpening _ _) (.bind runsIndex
        (.bind (.symbol isClosing rest after) (.bind (.spanFrom 0 _) (.pure _ _)))))
  have trailers := Repeats.step isBracket runsTrailer
    (by simp only [List.length_append, List.length_cons]; omega)
    (.stop (isTrailerNext_of_follows follows))
  exact ⟨_, _, .bind (.offset _) (.bind runsName (.bind trailers.repeatWhile (.pure _ _))),
    _, span, index, rfl, property⟩

/-- At a word there is no star. -/
theorem passes_starredTest (ends : List Token) : Passes (starredTest inner) inner.test ends :=
  fun _ _ _ atWord runs _ => .bind (.isNext_of_ne (atWord.token?_ne rfl)) runs

/-- A plain expression that is followed by the end of the line. -/
theorem takes_testList {tokens : List Token} {holds : Expr → Prop} (plain : Token.ArePlain tokens)
    (takes : Takes inner.test tokens testEnds holds) :
    Takes (testList inner) tokens [.newline] holds := by
  intro lexemes follow behind same follows
  have starred := ((passes_starredTest _).takes plain (by decide) takes).mono
    (show [.symbol ",", .newline] ⊆ testEnds by decide)
  have joined :
      lexemes.map Lexeme.token = [.symbol ","].intercalate ([()].map fun _ => tokens) := by
    simpa using same
  obtain ⟨⟨found, trailing⟩, after, runs, noTrailing, properties⟩ :=
    takes_commaList (fun _ => startsStarredTest_of_isWord) (by decide) (by simp)
      (fun _ _ => starred) lexemes follow behind joined follows
  subst noTrailing
  obtain ⟨single, none, property, isNone, rfl⟩ := List.forall₂_cons_left_iff.mp properties
  obtain rfl := List.forall₂_nil_left_iff.mp isNone
  exact ⟨single, after, .bind (.offset _) (.bind runs (.pure _ _)), property⟩

/-- A plain text is read to its end. -/
theorem run_wholeText {tokens : List Token} {holds : Expr → Prop} (plain : Token.ArePlain tokens)
    (takes : Takes inner.test tokens testEnds holds) {lexemes : List Lexeme}
    (same : lexemes.map Lexeme.token = tokens ++ [.newline]) :
    ∃ hint, (wholeText inner).run lexemes = .ok hint ∧ holds hint := by
  obtain ⟨taken, ending, rfl, sameTaken, sameEnding⟩ := List.map_eq_append_iff.mp same
  obtain ⟨lineEnd, rfl, isLineEnd⟩ := List.map_eq_singleton_iff.mp sameEnding
  obtain ⟨hint, after, runs, property⟩ := takes_testList plain takes taken [lineEnd] 0 sameTaken
    ⟨lineEnd, rfl, isLineEnd ▸ List.mem_singleton_self _⟩
  have atLineEnd : (Cursor.token? ⟨[lineEnd], after⟩ == some .newline) = true := by
    simp [Cursor.token?, isLineEnd]
  have lineEnds : Repeats (fun cursor => cursor.token? == some .newline) take ⟨[lineEnd], after⟩
      [lineEnd] ⟨[], lineEnd.span.stop⟩ :=
    .step atLineEnd (.take lineEnd [] after) (by simp) (.stop rfl)
  have whole : Runs (wholeText inner) ⟨taken ++ [lineEnd], 0⟩ hint ⟨[], lineEnd.span.stop⟩ :=
    .bind runs (.bind lineEnds.repeatWhile (.pure _ _))
  refine ⟨hint, ?_, property⟩
  rw [Runs] at whole
  simp only [run, whole]

end ExprGrammar

end Callwise
