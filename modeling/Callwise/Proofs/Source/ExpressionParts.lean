import Callwise.Proofs.Source.TokenRules
import Callwise.Source.ExprGrammar

/-!
# What the rules for expressions build

Every rule of the grammar of expressions builds its result from the results of other rules and from
the tokens that it takes. So a property of expressions holds of everything that is parsed if it
passes from the parts to the whole, and if names and strings have it by what is known of the tokens.
A rule is built from the rules for what stands inside, so this is shown for one level of nesting and
then for all of them. Expressions between the braces of a formatted string are scanned anew from
their own text, so that nothing is known of them from the tokens outside, and they may have a
property of their own.
-/

namespace Callwise

/-- The expressions of a part of a dictionary. -/
def DictEntry.parts : DictEntry → List Expr
  | pair key value => [key, value]
  | spread value => [value]

/-- The property passes from the parts of an expression to the whole, and names and strings have it
if they come from such words. -/
structure Expr.Grows (words : Words) (kept embedded : Expr → Prop) : Prop where
  literal : ∀ (span : Span) (value : Literal), (∀ text, value ≠ .str text) →
    kept (.literal span value)
  text : ∀ {lexemes : List Lexeme} {texts : List (List Char)} (span : Span), words.Hold lexemes →
    (lexemes.filterMap fun lexeme => ExprGrammar.stringParts? lexeme.token).mapM
      (fun parts => ExprGrammar.literalText parts.1 parts.2.1 parts.2.2) = .ok texts →
    kept (.literal span (.str (String.ofList texts.flatten)))
  name : ∀ {id : String} (span : Span), words.Allow (.name id) → kept (.name span id)
  access : ∀ {value : Expr} (span : Span) (attr : String), kept value →
    kept (.access span value attr)
  call : ∀ {callee : Expr} {args : List Expr} {keywords : List Keyword} (span : Span),
    kept callee → (∀ arg ∈ args, kept arg) → (∀ keyword ∈ keywords, kept keyword.value) →
    kept (.call span callee args keywords)
  await : ∀ {value : Expr} (span : Span), kept value → kept (.await span value)
  list : ∀ {items : List Expr} (span : Span), (∀ item ∈ items, kept item) → kept (.list span items)
  tuple : ∀ {items : List Expr} (span : Span), (∀ item ∈ items, kept item) →
    kept (.tuple span items)
  set : ∀ {items : List Expr} (span : Span), (∀ item ∈ items, kept item) → kept (.set span items)
  dict : ∀ {entries : List DictEntry} (span : Span),
    (∀ entry ∈ entries, ∀ part ∈ entry.parts, kept part) → kept (.dict span entries)
  binary : ∀ {left right : Expr} (span : Span) (op : BinaryOp), kept left → kept right →
    kept (.binary span op left right)
  unary : ∀ {operand : Expr} (span : Span) (op : UnaryOp), kept operand →
    kept (.unary span op operand)
  boolean : ∀ {operands : List Expr} (span : Span), (∀ operand ∈ operands, kept operand) →
    kept (.boolean span operands)
  compare : ∀ {left : Expr} {others : List Expr} (span : Span), kept left →
    (∀ other ∈ others, kept other) → kept (.compare span left others)
  conditional : ∀ {test body orElse : Expr} (span : Span), kept test → kept body → kept orElse →
    kept (.conditional span test body orElse)
  lambda : ∀ {body : Expr} (span : Span) (params : List (Parameter Unit)), kept body →
    kept (.lambda span params body)
  subscript : ∀ {value index : Expr} (span : Span), kept value → kept index →
    kept (.subscript span value index)
  formatted : ∀ {values : List Expr} (span : Span), (∀ value ∈ values, embedded value) →
    kept (.formatted span values)
  starred : ∀ {value : Expr} (span : Span), kept value → kept (.starred span value)
  assignment : ∀ {target : String} {value : Expr} (span : Span), words.Allow (.name target) →
    kept value → kept (.assignment span target value)
  comprehension : ∀ (span : Span) (kind : ComprehensionKind), kept (.comprehension span kind)
  slice : ∀ span : Span, kept (.slice span)
  yield : ∀ span : Span, kept (.yield span)

/-- The value of an argument. -/
def ExprGrammar.RawArgument.value : ExprGrammar.RawArgument → Expr
  | positional value => value
  | keyword argument => argument.value

/-- The rules build expressions with the property from such words. -/
structure ExprRules.Build (words : Words) (kept embedded : Expr → Prop) (rules : ExprRules) : Prop
    extends Expr.Grows words kept embedded where
  test : rules.test.Gives words kept
  disjunction : rules.disjunction.Gives words kept
  negation : rules.negation.Gives words kept
  operand : rules.operand.Gives words kept
  factor : rules.factor.Gives words kept
  ofText : ∀ text offset, Yields embedded (rules.ofText text offset)

namespace ExprGrammar

open Rule

/-- Positional and named arguments have the property. -/
def AllArguments (kept : Expr → Prop) (arguments : List Expr × List Keyword) : Prop :=
  (∀ arg ∈ arguments.1, kept arg) ∧ ∀ keyword ∈ arguments.2, kept keyword.value

/-- The expressions in a call or a subscript have the property. -/
def Trailer.All (kept : Expr → Prop) : Trailer → Prop
  | call args keywords _ => AllArguments kept (args, keywords)
  | subscript index _ => kept index
  | access .. => True

section Level

variable {words : Words} {kept embedded : Expr → Prop} {inner : ExprRules}
  (build : inner.Build words kept embedded)

include build

/-- A name and the value it gets inside an expression. -/
theorem gives_assignment : Gives words kept (assignment inner) := by
  refine .after .offset fun start => .bind .name fun target holds => ?_
  refine .after (.symbol _) fun _ => build.test.bind fun value inside => ?_
  exact .pure (build.assignment _ holds inside)

/-- An expression, or an assignment inside one. -/
theorem gives_namedTest : Gives words kept (namedTest inner) :=
  .after .get fun _ => .ite (gives_assignment build) build.test

/-- An operand behind a star. -/
theorem gives_starred : Gives words kept (starred inner) := by
  refine .after .offset fun start => .after (.symbol _) fun _ => ?_
  refine build.operand.bind fun value inside => .after (.spanFrom _) fun span => ?_
  exact .pure (build.starred span inside)

theorem gives_starredTest : Gives words kept (starredTest inner) :=
  .after (.isNext _) fun _ => .ite (gives_starred build) build.test

theorem gives_starredNamedTest : Gives words kept (starredNamedTest inner) :=
  .after (.isNext _) fun _ => .ite (gives_starred build) (gives_namedTest build)

/-- A tuple of items without parentheses, or one item. -/
theorem gives_tupleOf {item : Rule Expr} (each : Gives words kept item) :
    Gives words kept (tupleOf item) := by
  refine .after .offset fun start => (each.commaList _).bind fun items holds => ?_
  split
  · exact .pure (holds _ (by simp))
  · exact .after (.spanFrom _) fun span => .pure (build.tuple span holds)

/-- Expressions, with or without stars, that are one expression or a tuple. -/
theorem gives_testList : Gives words kept (testList inner) :=
  gives_tupleOf build (gives_starredTest build)

theorem gives_starredOperand : Gives words kept (starredOperand inner) :=
  .after (.isNext _) fun _ => .ite (gives_starred build) build.operand

/-- What is assigned to: one target or a tuple of targets. -/
theorem gives_targetList : Gives words kept (targetList inner) :=
  gives_tupleOf build (gives_starredOperand build)

/-- Nothing is left of what is yielded. -/
theorem gives_yieldExpr : Gives words kept (yieldExpr inner) := by
  have last (start : Nat) : Gives words kept (do pure (.yield (← spanFrom start))) :=
    .after (.spanFrom _) fun span => .pure (build.yield span)
  refine .after .offset fun start => .after (.keyword _) fun _ => ?_
  refine .after (.accept _) fun _ => .ite (.after build.test.keeps fun _ => last start) ?_
  refine .after Gives.peek.keeps fun _ => .ite ?_ (last start)
  exact .after (gives_testList build).keeps fun _ => last start

theorem gives_testListOrYield : Gives words kept (testListOrYield inner) :=
  .after (.isNext _) fun _ => .ite (gives_yieldExpr build) (gives_testList build)

/-! ### Comprehensions and calls -/

/-- Nothing is left of a comprehension but its kind. -/
theorem keeps_comprehensionTail : Keeps words (comprehensionTail inner) := by
  have condition : Gives words kept (do keyword "if"; inner.disjunction) :=
    .after (.keyword _) fun _ => build.disjunction
  have clause : Keeps words (do
      let _ ← accept (.keyword "async")
      keyword "for"
      let _ ← targetList inner
      keyword "in"
      let _ ← inner.disjunction
      let _ ← repeatWhile (fun cursor => cursor.token? == some (.keyword "if")) do
        keyword "if"
        inner.disjunction) := by
    refine .after (.accept _) fun _ => .after (.keyword _) fun _ => ?_
    refine .after (gives_targetList build).keeps fun _ => .after (.keyword _) fun _ => ?_
    refine .after build.disjunction.keeps fun _ => ?_
    exact .after (condition.repeatWhile _).keeps fun _ => .pure trivial
  exact .after clause fun _ => .after (clause.repeatWhile _).keeps fun _ => .pure trivial

/-- A comprehension that begins at the offset, from its first `for` to the closing bracket. -/
theorem gives_comprehension (start : Nat) (closing : String) (kind : ComprehensionKind) :
    Gives words kept (do
      comprehensionTail inner
      symbol closing
      pure (.comprehension (← spanFrom start) kind)) := by
  refine .after (keeps_comprehensionTail build) fun _ => .after (.symbol _) fun _ => ?_
  exact .after (.spanFrom _) fun span => .pure (build.comprehension span kind)

/-- One argument, with a name, with stars, or with neither. -/
theorem gives_argument : Gives words (fun raw => kept raw.value) (argument inner) := by
  refine .after .offset fun start => .after Gives.peek.keeps fun _ => ?_
  refine .after .peekSecond fun _ => ?_
  split
  · refine .after Gives.take.keeps fun _ => .after Gives.take.keeps fun _ => ?_
    exact build.test.bind fun value inside => .pure inside
  · refine .after Gives.take.keeps fun _ => build.test.bind fun value inside => ?_
    exact .after (.spanFrom _) fun span => .pure (build.starred span inside)
  · refine .after Gives.take.keeps fun _ => ?_
    exact build.test.bind fun value inside => .pure inside
  · refine (gives_namedTest build).bind fun value inside => .after .get fun _ => ?_
    refine .ite (.after (keeps_comprehensionTail build) fun _ => ?_) (.pure inside)
    exact .after (.spanFrom _) fun span => .pure (build.comprehension span _)

omit build in
/-- Every separated argument is one of those given. -/
theorem yields_separate {raw : List RawArgument}
    (inRaw : ∀ argument ∈ raw, kept argument.value) (names : List String)
    (hasKeyword hasSpread : Bool) :
    Yields (AllArguments kept) (separate raw names hasKeyword hasSpread) := by
  induction raw generalizing names hasKeyword hasSpread with
  | nil => exact .ok ⟨by simp, by simp⟩
  | cons first rest ih =>
    obtain ⟨inFirst, inRest⟩ := List.forall_mem_cons.mp inRaw
    cases first with
    | positional value =>
      refine .ite (fun _ => .error _) fun _ => ?_
      refine (ih inRest _ _ _).map fun separated holds => ⟨?_, holds.2⟩
      exact List.forall_mem_cons.mpr ⟨inFirst, holds.1⟩
    | keyword argument =>
      have add (separated : List Expr × List Keyword) (holds : (AllArguments kept) separated) :
          (AllArguments kept) (separated.1, argument :: separated.2) :=
        ⟨holds.1, List.forall_mem_cons.mpr ⟨inFirst, holds.2⟩⟩
      unfold separate
      split
      · exact .ite (fun _ => .error _) fun _ => (ih inRest _ _ _).map add
      · exact (ih inRest _ _ _).map add

/-- The arguments of a call. -/
theorem gives_arguments : Gives words (AllArguments kept) (arguments inner) := by
  refine .after .offset fun start => ?_
  refine ((gives_argument build).listUntil _).bind fun raw inRaw => ?_
  split
  · rename_i separated success
    exact .pure (yields_separate inRaw [] false false _ success)
  · exact .refuseAt _ _

/-! ### Parameters -/

omit build in
/-- A parameter, whose annotation is not looked into. -/
theorem keeps_annotatedName {hint : Rule Expr} (keeps : Keeps words hint) (isAnnotated : Bool) :
    Keeps words (annotatedName isAnnotated hint) := by
  refine .after Gives.name.keeps fun id => .ite ?_ (.pure trivial)
  refine .after (.accept _) fun _ => .ite ?_ (.pure trivial)
  exact .after keeps fun _ => .pure trivial

omit build in
theorem keeps_starName {hint : Rule Expr} (keeps : Keeps words hint) (isAnnotated : Bool) :
    Keeps words (starName isAnnotated hint) := by
  refine .after Gives.peek.keeps fun _ => ?_
  split
  · exact .after (keeps_annotatedName keeps isAnnotated) fun _ => .pure trivial
  · exact .pure trivial

/-- A part of a list of parameters. Defaults leave nothing but that they are there. -/
theorem keeps_rawParameter (isAnnotated : Bool) : Keeps words (rawParameter inner isAnnotated) := by
  refine .after (.accept _) fun _ => .ite (.pure trivial) (.after (.accept _) fun _ => .ite ?_ ?_)
  · refine .after (keeps_starName ?_ isAnnotated) fun _ => .pure trivial
    exact (gives_starredTest build).keeps
  refine .after (.accept _) fun _ => .ite ?_ ?_
  · exact .after (keeps_starName build.test.keeps isAnnotated) fun _ => .pure trivial
  · refine .after (keeps_annotatedName build.test.keeps isAnnotated) fun _ => ?_
    refine .after (.accept _) fun _ => .ite ?_ (.pure trivial)
    exact .after build.test.keeps fun _ => .pure trivial

/-- The parameters of a function. -/
theorem keeps_parameters (isAnnotated : Bool) (closing : Token) :
    Keeps words (parameters inner isAnnotated closing) := by
  refine .after .offset fun start => ?_
  refine .after ((keeps_rawParameter build isAnnotated).listUntil closing).keeps fun raw => ?_
  split
  · exact .refuseAt _ _
  · split
    · exact .refuseAt _ _
    · exact .pure trivial

/-! ### Atoms -/

/-- The expressions between the braces of one literal. -/
theorem yields_interpolated (style : StringStyle) (body : List Char) (bodyStart : Nat) :
    Yields (fun values => ∀ value ∈ values, embedded value)
      (interpolated inner style body bodyStart) := by
  refine .ite (fun _ => ?_) fun _ => (Yields.any _).bind fun _ _ => .ok (by simp)
  refine (Yields.any _).bind fun found _ => ?_
  have each (interpolation : StringLiteral.Interpolation) :
      Yields (fun entry => embedded entry.1) (do
        let value ← inner.ofText interpolation.text interpolation.offset
        pure (value, interpolation.inSpecification)) :=
    (build.ofText _ _).bind fun value inside => .ok inside
  refine (Yields.mapM each).bind fun read inRead => .ok ?_
  intro value member
  obtain ⟨entry, filtered, rfl⟩ := List.mem_map.mp member
  exact inRead entry (List.mem_filter.mp filtered).1

/-- String literals side by side. -/
theorem gives_strings : Gives words kept (strings inner) := by
  refine .after .offset fun start => .bind (.takeWhile _) fun lexemes hold => ?_
  refine .after (.spanFrom _) fun span => .ite (.refuseAt _ _) ?_
  have each (literal : StringStyle × List Char × Nat) :
      Yields (fun values => ∀ value ∈ values, embedded value)
        (interpolated inner literal.1 literal.2.1 literal.2.2) :=
    yields_interpolated build literal.1 literal.2.1 literal.2.2
  refine .bind (.done (.mapM each)) fun values inValues => ?_
  refine .bind (.done fun _ => id) fun texts read => ?_
  refine .ite (.pure (build.formatted span ?_)) (.ite (.pure (build.literal _ _ (by simp))) ?_)
  · intro value member
    obtain ⟨found, inFound, member⟩ := List.mem_flatten.mp member
    exact inValues found inFound value member
  · exact .pure (build.text span hold read)

/-- A tuple in parentheses, up to the closing one. -/
theorem gives_closedTuple (start : Nat) {items : List Expr}
    (inItems : ∀ item ∈ items, kept item) :
    Gives words kept (do
      symbol ")"
      pure (.tuple (← spanFrom start) items)) :=
  .after (.symbol _) fun _ => .after (.spanFrom _) fun span => .pure (build.tuple span inItems)

/-- What parentheses hold: nothing, a tuple, one expression or a comprehension. -/
theorem gives_parenthesized : Gives words kept (parenthesized inner) := by
  refine .after .offset fun start => .after (.symbol _) fun _ => ?_
  refine .after Gives.peek.keeps fun _ => ?_
  split
  · exact gives_closedTuple build start (by simp)
  · refine (gives_yieldExpr build).bind fun value inside => ?_
    exact .after (.symbol _) fun _ => .pure inside
  · refine .after (.isNext _) fun isStar => ?_
    refine ((gives_starredNamedTest build).commaList _).bind ?_
    rintro ⟨items, hasTrailing⟩ inItems
    simp only
    split
    · rename_i single
      have inSingle : kept single := inItems single (by simp)
      have inTuple : ∀ item ∈ [single], kept item := by simpa using inSingle
      refine .ite (gives_closedTuple build start inTuple) (.ite (.refuseAt _ _) ?_)
      refine .after .get fun _ => .ite (gives_comprehension build _ _ _) ?_
      exact .after (.symbol _) fun _ => .pure inSingle
    · exact gives_closedTuple build start inItems

/-- A list, or a comprehension in brackets. -/
theorem gives_bracketed : Gives words kept (bracketed inner) := by
  refine .after .offset fun start => .after (.symbol _) fun _ => .after (.accept _) fun _ => ?_
  refine .ite (.after (.spanFrom _) fun span => .pure (build.list span (by simp))) ?_
  refine ((gives_starredNamedTest build).commaList _).bind fun items inItems => ?_
  refine .after .get fun _ => .ite (gives_comprehension build _ _ _) ?_
  refine .after (.symbol _) fun _ => .after (.spanFrom _) fun span => ?_
  exact .pure (build.list span inItems)

/-- A key and its value, or a dictionary that is spread. -/
theorem gives_dictEntry :
    Gives words (fun entry => ∀ part ∈ entry.parts, kept part) (dictEntry inner) := by
  refine .after (.accept _) fun _ => .ite ?_ ?_
  · exact build.operand.bind fun value inside => .pure (by simpa [DictEntry.parts] using inside)
  · refine build.test.bind fun key inKey => .after (.symbol _) fun _ => ?_
    refine build.test.bind fun value inValue => .pure ?_
    simpa [DictEntry.parts] using ⟨inKey, inValue⟩

/-- A dictionary behind its first part. -/
theorem gives_dictRest (start : Nat) {first : DictEntry}
    (inFirst : ∀ part ∈ first.parts, kept part) :
    Gives words kept (dictRest inner start first) := by
  refine .after (.isNext _) fun _ => .perhaps (.symbol _) ?_
  refine ((gives_dictEntry build).listUntil _).bind fun rest inRest => ?_
  refine .after (.spanFrom _) fun span => .pure (build.dict span ?_)
  exact List.forall_mem_cons.mpr ⟨inFirst, inRest⟩

/-- A dictionary, a set, or a comprehension in braces. -/
theorem gives_braced : Gives words kept (braced inner) := by
  refine .after .offset fun start => .after (.symbol _) fun _ => .after (.accept _) fun _ => ?_
  refine .ite (.after (.spanFrom _) fun span => .pure (build.dict span (by simp))) ?_
  refine .after (.isNext _) fun _ => .ite ?_ ?_
  · exact (gives_dictEntry build).bind fun first inFirst => gives_dictRest build start inFirst
  refine .after (.isNext _) fun isStar => .after .get fun _ => ?_
  refine (gives_starredNamedTest build).bind fun first inFirst => ?_
  refine .either (.pure trivial) (.accept _) fun isPair => .ite ?_ ?_
  · refine build.test.bind fun value inValue => .after .get fun _ => ?_
    refine .ite (gives_comprehension build _ _ _) (gives_dictRest build start ?_)
    simpa [DictEntry.parts] using ⟨inFirst, inValue⟩
  · refine .after .get fun _ => .ite (gives_comprehension build _ _ _) ?_
    refine .after (.isNext _) fun _ => .perhaps (.symbol _) ?_
    refine ((gives_starredNamedTest build).listUntil _).bind fun rest inRest => ?_
    refine .after (.spanFrom _) fun span => .pure (build.set span ?_)
    exact List.forall_mem_cons.mpr ⟨inFirst, inRest⟩

/-- An expression without operators and trailers. -/
theorem gives_atom : Gives words kept (atom inner) := by
  refine .after .offset fun start => ?_
  have literal {value : Literal} (noText : ∀ text, value ≠ .str text) : Gives words kept (do
      let _ ← take
      pure (.literal (← spanFrom start) value)) :=
    .after Gives.take.keeps fun _ => .after (.spanFrom _) fun span =>
      .pure (build.literal span value noText)
  -- The cases are the tokens with which an atom begins; a name is known by the token alone.
  refine Gives.peek.bind fun token holds => ?_
  split
  · refine .after Gives.take.keeps fun _ => .after (.spanFrom _) fun span => ?_
    exact .pure (build.name span (holds _ rfl))
  · exact literal (by simp)
  · exact literal (by simp)
  · exact literal (by simp)
  · exact gives_strings build
  · exact literal (by simp)
  · exact literal (by simp)
  · exact literal (by simp)
  · exact literal (by simp)
  · exact gives_parenthesized build
  · exact gives_bracketed build
  · exact gives_braced build
  · exact .refuse

/-! ### Calls, subscripts and attributes -/

theorem keeps_sliceBound : Keeps words (sliceBound inner) :=
  .after Gives.peek.keeps fun _ =>
    .ite (.after build.test.keeps fun _ => .pure trivial) (.pure trivial)

/-- A slice from its first colon on. -/
theorem gives_sliceRest (start : Nat) : Gives words kept (sliceRest inner start) := by
  refine .after (.symbol _) fun _ => .after (keeps_sliceBound build) fun _ => ?_
  refine .after (.accept _) fun _ => .perhaps (keeps_sliceBound build) ?_
  exact .after (.spanFrom _) fun span => .pure (build.slice span)

theorem gives_subscriptItem : Gives words kept (subscriptItem inner) := by
  refine .after .offset fun start => .after (.isNext _) fun _ => ?_
  refine .ite (gives_sliceRest build start) ?_
  refine .after (.isNext _) fun _ => .after .get fun _ => ?_
  refine (gives_starredNamedTest build).bind fun value inside => .after (.isNext _) fun _ => ?_
  exact .ite (gives_sliceRest build start) (.pure inside)

/-- The index of a subscript: one item or a tuple of items. -/
theorem gives_subscriptIndex : Gives words kept (subscriptIndex inner) := by
  refine .after .offset fun start => ?_
  refine ((gives_subscriptItem build).commaList _).bind fun items inItems => ?_
  split
  · exact .pure (inItems _ (by simp))
  · exact .after (.spanFrom _) fun span => .pure (build.tuple span inItems)

/-- What is attached to an expression: arguments, an index or an attribute. -/
theorem gives_trailer : Gives words (Trailer.All kept) (trailer inner) := by
  refine .after (.accept _) fun _ => .ite ?_ (.after (.accept _) fun _ => .ite ?_ ?_)
  · refine (gives_arguments build).bind fun arguments holds => ?_
    exact .after (.spanFrom _) fun _ => .pure holds
  · refine (gives_subscriptIndex build).bind fun index inside => ?_
    exact .after (.symbol _) fun _ => .after (.spanFrom _) fun _ => .pure inside
  · refine .after (.symbol _) fun _ => .after Gives.name.keeps fun attr => ?_
    exact .after (.spanFrom _) fun _ => .pure trivial

/-- Trailers are attached one after another. -/
theorem kept_attachAll {first : Expr} {trailers : List Trailer} (start : Nat)
    (inFirst : kept first) (inTrailers : ∀ trailer ∈ trailers, trailer.All kept) :
    kept (trailers.foldl (Trailer.attach start) first) := by
  induction trailers generalizing first with
  | nil => exact inFirst
  | cons trailer rest ih =>
    obtain ⟨inTrailer, inRest⟩ := List.forall_mem_cons.mp inTrailers
    refine ih ?_ inRest
    cases trailer with
    | call args keywords stop => exact build.call _ inFirst inTrailer.1 inTrailer.2
    | subscript index stop => exact build.subscript _ inFirst inTrailer
    | access attr stop => exact build.access _ attr inFirst

/-- An atom with all that is attached to it. -/
theorem gives_primary : Gives words kept (primary inner) := by
  refine .after .offset fun start => (gives_atom build).bind fun first inFirst => ?_
  refine ((gives_trailer build).repeatWhile _).bind fun trailers inTrailers => ?_
  exact .pure (kept_attachAll build start inFirst inTrailers)

/-! ### Operators -/

theorem gives_awaited : Gives words kept (awaited inner) := by
  refine .after .offset fun start => .after (.accept _) fun _ => ?_
  refine .ite ((gives_primary build).bind fun value inside => ?_) (gives_primary build)
  exact .after (.spanFrom _) fun span => .pure (build.await span inside)

theorem gives_power : Gives words kept (power inner) := by
  refine .after .offset fun start => (gives_awaited build).bind fun base inBase => ?_
  refine .after (.accept _) fun _ => .ite ?_ (.pure inBase)
  refine build.factor.bind fun exponent inExponent => .after (.spanFrom _) fun span => ?_
  exact .pure (build.binary span _ inBase inExponent)

theorem gives_factor : Gives words kept (factor inner) := by
  have signed (start : Nat) : Gives words kept (do
      let _ ← take
      let operand ← inner.factor
      pure (.unary (← spanFrom start) .arithmetic operand)) := by
    refine .after Gives.take.keeps fun _ => build.factor.bind fun operand inside => ?_
    exact .after (.spanFrom _) fun span => .pure (build.unary span _ inside)
  refine .after .offset fun start => .after Gives.peek.keeps fun _ => ?_
  split
  · exact signed start
  · exact signed start
  · exact signed start
  · exact gives_power build

/-- Operands are grouped from the left. -/
theorem kept_groupAll {first : Expr} {rest : List (BinaryOp × Expr × Span)}
    (inFirst : kept first) (inRest : ∀ entry ∈ rest, kept entry.2.1) :
    kept (rest.foldl (fun left entry => .binary entry.2.2 entry.1 left entry.2.1) first) := by
  induction rest generalizing first with
  | nil => exact inFirst
  | cons entry rest ih =>
    obtain ⟨inEntry, others⟩ := List.forall_mem_cons.mp inRest
    exact ih (build.binary _ _ inFirst inEntry) others

/-- Operands with operators of one rank between them. -/
theorem gives_leftAssociative {operand : Rule Expr} (gives : Gives words kept operand)
    (operators : List (String × BinaryOp)) :
    Gives words kept (leftAssociative operators operand) := by
  refine .after .offset fun start => gives.bind fun first inFirst => ?_
  have next : Gives words (fun entry : BinaryOp × Expr × Span => kept entry.2.1) (do
      let op := (operatorIn? operators (← peek)).getD .add
      let _ ← take
      let right ← operand
      pure (op, right, (← spanFrom start))) := by
    refine .after Gives.peek.keeps fun _ => .after Gives.take.keeps fun _ => ?_
    exact gives.bind fun right inRight => .after (.spanFrom _) fun span => .pure inRight
  refine (next.repeatWhile _).bind fun rest inRest => ?_
  exact .pure (kept_groupAll build inFirst inRest)

/-- All ranks of operators above the comparisons, one after another. -/
theorem gives_operand : Gives words kept (operand inner) := by
  have term := gives_leftAssociative build (gives_factor build)
    [("*", .mul), ("/", .div), ("//", .floorDiv), ("%", .mod), ("@", .matMul)]
  have sum := gives_leftAssociative build term [("+", .add), ("-", .sub)]
  have shift := gives_leftAssociative build sum [("<<", .shiftLeft), (">>", .shiftRight)]
  have both := gives_leftAssociative build shift [("&", .bitAnd)]
  have oneOf := gives_leftAssociative build both [("^", .bitXor)]
  exact gives_leftAssociative build oneOf [("|", .bitOr)]

omit build in
theorem keeps_comparisonOperator : Keeps words comparisonOperator := by
  refine .after Gives.take.keeps fun lexeme => ?_
  split
  · exact Keeps.keyword _
  · exact .after (.accept _) fun _ => .pure trivial
  · exact .pure trivial

/-- Operands that are compared. -/
theorem gives_comparison : Gives words kept (comparison inner) := by
  have next : Gives words kept (do comparisonOperator; operand inner) :=
    .after keeps_comparisonOperator fun _ => gives_operand build
  refine .after .offset fun start => (gives_operand build).bind fun first inFirst => ?_
  refine (next.repeatWhile _).bind fun others inOthers => .ite (.pure inFirst) ?_
  exact .after (.spanFrom _) fun span => .pure (build.compare span inFirst inOthers)

theorem gives_negation : Gives words kept (negation inner) := by
  refine .after .offset fun start => .after (.accept _) fun _ => ?_
  refine .ite (build.negation.bind fun operand inside => ?_) (gives_comparison build)
  exact .after (.spanFrom _) fun span => .pure (build.unary span _ inside)

/-- Operands joined by `and` or by `or`. -/
theorem gives_joined {operand : Rule Expr} (gives : Gives words kept operand)
    (word : String) : Gives words kept (joined word operand) := by
  have next : Gives words kept (do keyword word; operand) :=
    .after (.keyword _) fun _ => gives
  refine .after .offset fun start => gives.bind fun first inFirst => ?_
  refine (next.repeatWhile _).bind fun others inOthers => .ite (.pure inFirst) ?_
  refine .after (.spanFrom _) fun span => .pure (build.boolean span ?_)
  exact List.forall_mem_cons.mpr ⟨inFirst, inOthers⟩

theorem gives_disjunction : Gives words kept (disjunction inner) :=
  gives_joined build (gives_joined build (gives_negation build) "and") "or"

/-- A function without a name. -/
theorem gives_lambda : Gives words kept (lambda inner) := by
  refine .after .offset fun start => .after (.keyword _) fun _ => ?_
  refine .after (keeps_parameters build _ _) fun params => ?_
  refine build.test.bind fun body inBody => .after (.spanFrom _) fun span => ?_
  exact .pure (build.lambda span _ inBody)

/-- An expression, which may be a conditional. -/
theorem gives_test : Gives words kept (test inner) := by
  refine .after (.isNext _) fun _ => .ite (gives_lambda build) ?_
  refine .after .offset fun start => (gives_disjunction build).bind fun body inBody => ?_
  refine .after (.accept _) fun _ => .ite ?_ (.pure inBody)
  refine build.disjunction.bind fun condition inCondition => .after (.keyword _) fun _ => ?_
  refine build.test.bind fun orElse inElse => .after (.spanFrom _) fun span => ?_
  exact .pure (build.conditional span inCondition inBody inElse)

/-- The only expression of a text. -/
theorem gives_wholeText : Gives words kept (wholeText inner) := by
  refine (gives_testList build).bind fun value inside => ?_
  exact .after (Gives.take.repeatWhile _).keeps fun _ => .pure inside

end Level

end ExprGrammar

/-- Expressions have the property however deep they are nested, if those with a text of their own
have theirs. -/
theorem ExprRules.build_ofDepth {words : Words} {kept embedded : Expr → Prop}
    (grows : Expr.Grows words kept embedded)
    (ofText : ∀ {inner : ExprRules}, inner.Build words kept embedded → ∀ text offset,
      Yields embedded (ExprGrammar.ofParenthesized inner text offset)) (depth : Nat) :
    (ExprRules.ofDepth depth).Build words kept embedded := by
  induction depth with
  | zero => exact ⟨grows, .refuse, .refuse, .refuse, .refuse, .refuse, fun _ _ => .error _⟩
  | succ depth inner =>
    exact {
      toGrows := grows
      test := ExprGrammar.gives_test inner
      disjunction := ExprGrammar.gives_disjunction inner
      negation := ExprGrammar.gives_negation inner
      operand := ExprGrammar.gives_operand inner
      factor := ExprGrammar.gives_factor inner
      ofText := ofText inner }

end Callwise
