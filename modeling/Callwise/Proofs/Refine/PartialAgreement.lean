import Callwise.Proofs.Call.TakenPlaces
import Callwise.Proofs.Refine.PartialSeats
import Mathlib.Data.List.Forall2

/-!
# `partial` and a call fill the same parameters

`partial` walks over the parameters with the positions that it is given and marks the parameters
that it fills, while a call keeps a cursor into the positional parameters and a group of arguments
for each parameter. Where no positional parameter stands behind a star parameter, both take the
places of `Param.takenPlaces`: they fail with the same first error, and otherwise `partial` leaves
the parameters that collect arguments and those that have received nothing.

On its way `partial` also matches types. A match that fails ends the run with a diagnostic about an
argument, whatever a call would do about the places; the step lemmas carry this case as
`CallContext.Refuses`.
-/

namespace Callwise

/-- The cause that a call of the given callee reports. -/
def ArgumentError.cause (error : ArgumentError) (callee : String) : Cause :=
  (error.toDiagnostic callee [] .nowhere).cause

/-- Text between quotes can be read off. -/
theorem quoted_injective {text other : String} (same : quoted text = quoted other) :
    text = other := by
  rw [quoted, quoted, String.append_left_inj, String.append_right_inj] at same
  exact same

/-- The cause tells the errors apart. -/
theorem ArgumentError.cause_injective {callee : String} {error other : ArgumentError}
    (same : error.cause callee = other.cause callee) : error = other := by
  cases error with
  | tooMany =>
    cases other <;> cases same
    rfl
  | tooFew =>
    cases other <;> cases same
    rfl
  | unexpectedKeyword name =>
    cases other <;> cases same
    rfl
  | multipleValues name =>
    cases other with
    | multipleValues otherName =>
      have text := (String.append_right_inj _).mp (Cause.other.inj same)
      rw [quoted_injective text]
    | _ => cases same

/-- The outcome is the diagnostic about an argument that has failed to match its parameter. -/
def CallContext.Refuses {α : Type} (context : CallContext) (outcome : Except Diagnostic α) : Prop :=
  ∃ (subst reached : Substitution) (param : Param) (found : Ty) (index : Nat),
    subst.bind param.ty found = (false, reached) ∧
      outcome = .error (context.invalidArgument index (reached.apply param.ty) found)

namespace PartialCall

variable {α β γ ζ : Type} {context : CallContext} {results : α → β → Prop} {further : γ → ζ → Prop}
  {places : Except ArgumentError β} {fillings : List Filling} {taken : List Nat}

/-! ### Following the places -/

/-- A run fails on a type, or it has the outcome of the places. -/
def Follows (context : CallContext) (results : α → β → Prop) (run : Except Diagnostic α)
    (places : Except ArgumentError β) : Prop :=
  context.Refuses run ∨
    Tracks (fun diagnostic error => diagnostic.cause = error.cause context.shortName) results run
      places

/-- Runs that go on after following places follow them further. -/
theorem Follows.bind {run : Except Diagnostic α} (first : Follows context results run places)
    {runNext : α → Except Diagnostic γ} {placesNext : β → Except ArgumentError ζ}
    (next : ∀ a b, results a b → Follows context further (runNext a) (placesNext b)) :
    Follows context further (run >>= runNext) (places >>= placesNext) := by
  rcases first with ⟨subst, reached, param, found, index, failed, rfl⟩ | alike
  · exact .inl ⟨subst, reached, param, found, index, failed, rfl⟩
  · cases alike with
    | error same => exact .inr (.error same)
    | ok related => exact next _ _ related

/-- Results of runs that follow places may be changed along with the places. -/
theorem Follows.map {run : Except Diagnostic α} (first : Follows context results run places)
    {change : α → γ} {placesChange : β → ζ}
    (next : ∀ a b, results a b → further (change a) (placesChange b)) :
    Follows context further (run.map change) (places.map placesChange) :=
  first.bind fun a b related => .inr (.ok (next a b related))

/-- A run that starts with a match follows the places that it follows after the match. -/
theorem follows_check {subst : Substitution} {param : Param} {found : Ty} {index : Nat}
    {next : Substitution → Except Diagnostic α}
    (follows : ∀ extended, Follows context results (next extended) places) :
    Follows context results (check context subst param found index >>= next) places := by
  rw [check]
  cases tried : subst.bind param.ty found with
  | mk succeeded reached =>
    cases succeeded with
    | true => exact follows reached
    | false => exact .inl ⟨subst, reached, param, found, index, tried, rfl⟩

/-- A run that starts with the matches of one parameter follows the places that it follows after
them. -/
theorem follows_checkAll {param : Param} {types : List Ty} {index : Nat} {subst : Substitution}
    {next : Substitution → Except Diagnostic α}
    (follows : ∀ extended, Follows context results (next extended) places) :
    Follows context results (checkAll context param types index subst >>= next) places := by
  induction types generalizing index subst with
  | nil => exact follows subst
  | cons found types ih =>
    have steps : checkAll context param (found :: types) index subst >>= next =
        check context subst param found index >>= fun extended =>
          checkAll context param types (index + 1) extended >>= next := by
      rw [checkAll]
      cases check context subst param found index <;> rfl
    rw [steps]
    exact follows_check fun _ => ih

/-! ### Marked parameters -/

/-- The parameters that are not free are those at the taken places. -/
structure Marks (params : List Param) (fillings : List Filling) (taken : List Nat) : Prop where
  length : fillings.length = params.length
  free_iff : ∀ place < params.length, fillings[place]? = some .free ↔ place ∉ taken

/-- Before the first argument all parameters are free. -/
theorem marks_free (params : List Param) : Marks params (params.map fun _ => .free) [] where
  length := List.length_map ..
  free_iff := by
    intro place inside
    rw [List.getElem?_map, List.getElem?_eq_getElem inside]
    exact iff_of_true rfl List.not_mem_nil

/-- A further parameter in front moves all places. -/
theorem Marks.cons {params : List Param} (marks : Marks params fillings taken) (param : Param)
    {filling : Filling} (first : List Nat) (alike : filling = .free ↔ 0 ∉ first)
    (only : ∀ place ∈ first, place = 0) :
    Marks (param :: params) (filling :: fillings) (first ++ taken.map (· + 1)) where
  length := by rw [List.length_cons, List.length_cons, marks.length]
  free_iff := by
    intro place inside
    cases place with
    | zero => simp [alike]
    | succ place =>
      have away : place + 1 ∉ first := fun member => by cases only _ member
      have later := marks.free_iff place (Nat.lt_of_succ_lt_succ inside)
      simpa [away] using later

/-- Filling a parameter takes its place. -/
theorem Marks.set {params : List Param} (marks : Marks params fillings taken) (place : Nat)
    {filling : Filling} (filled : filling ≠ .free) :
    Marks params (fillings.set place filling) (taken ++ [place]) where
  length := by rw [List.length_set, marks.length]
  free_iff := by
    intro other inside
    have before := marks.free_iff other inside
    by_cases same : place = other
    · subst same
      simp [marks.length, inside, filled]
    · simp [same, Ne.symm same, before]

/-! ### The two loops -/

/-- The walk over the parameters fills those that so many positions take. -/
theorem fillPositions_follows (context : CallContext) {params : List Param}
    (ordered : params.Pairwise fun earlier later =>
      earlier.kind = .star → later.kind.isPositional = false)
    (types : List Ty) (index : Nat) (subst : Substitution) :
    Follows context (fun filled taken => Marks params filled.1 taken)
      (fillPositions context params types index subst)
      (Param.takePositions params types.length) := by
  induction params generalizing types index subst with
  | nil =>
    cases types with
    | nil =>
      rw [fillPositions, List.length_nil, Param.takePositions_zero]
      exact .inr (.ok (marks_free []))
    | cons found types => exact .inr (.error rfl)
  | cons param params ih =>
    obtain ⟨last, laterOrdered⟩ := List.pairwise_cons.mp ordered
    cases types with
    | nil =>
      rw [fillPositions, List.length_nil, Param.takePositions_zero]
      exact .inr (.ok (marks_free (param :: params)))
    | cons found types =>
      rw [List.length_cons]
      cases positional : param.kind.isPositional with
      | true =>
        rw [fillPositions_cons_of_isPositional context positional,
          Param.takePositions_cons_of_isPositional positional]
        refine follows_check fun extended => ?_
        refine (ih laterOrdered types (index + 1) extended).map ?_
        intro filled taken marks
        exact marks.cons param [0] (by simp) (by simp)
      | false =>
        cases star : param.kind == .star with
        | true =>
          -- The walk ends here, while a call would pass over the star parameter to a positional one
          -- behind it. There is none.
          have isStar : param.kind = .star := beq_iff_eq.mp star
          rw [fillPositions_cons_of_star context isStar, Param.takePositions_cons_of_star isStar
            fun later member => last later member isStar]
          exact follows_checkAll fun extended => .inr (.ok (marks_free (param :: params)))
        | false =>
          rw [fillPositions_cons_of_unreached context positional star,
            Param.takePositions_cons_of_unreached positional star]
          refine (ih laterOrdered (found :: types) index subst).map ?_
          intro filled taken marks
          exact marks.cons param [] (by simp) (by simp)

/-- A name fills the parameter whose place it takes. -/
theorem fillName_follows (context : CallContext) {function : Signature}
    (marks : Marks function.params fillings taken) (name : String) (found : Ty) (index : Nat)
    (subst : Substitution) :
    Follows context (fun filled taken => Marks function.params filled.1 taken)
      (fillName context function name found index fillings subst)
      (Param.takeName function.params taken name) := by
  rw [Param.takeName]
  cases reached : Assignment.indexOfName? function.params name with
  | some place =>
    obtain ⟨param, here, _⟩ := Param.exists_of_indexOfName? reached
    have inside := (List.getElem?_eq_some_iff.mp here).1
    have marked : fillings[place]? = some (fillings[place]?.getD .free) := by
      rw [List.getElem?_eq_getElem (marks.length ▸ inside), Option.getD_some]
    have free := marks.free_iff place inside
    rw [marked, Option.some.injEq] at free
    rw [fillName_of_reached context reached here]
    by_cases within : place ∈ taken
    · have filled : (fillings[place]?.getD .free != .free) = true :=
        bne_iff_ne.mpr fun isFree => free.mp isFree within
      simp only [if_pos filled, if_pos within]
      exact .inr (.error rfl)
    · have unfilled : ¬ (fillings[place]?.getD .free != .free) = true := by
        rw [free.mpr within]
        decide
      simp only [if_neg unfilled, if_neg within]
      exact follows_check fun _ => .inr (.ok (marks.set place (by decide)))
  | none =>
    cases collects : function.doubleStar? with
    | some param =>
      have isDoubleStar := List.find?_some collects
      have starred : Param.isDoubleStarred function.params = true :=
        List.any_eq_true.mpr ⟨param, List.mem_of_find?_eq_some collects, isDoubleStar⟩
      rw [fillName_of_collected context reached collects, if_pos starred]
      exact follows_check fun _ => .inr (.ok marks)
    | none =>
      have unstarred : Param.isDoubleStarred function.params = false :=
        List.any_eq_false.mpr (List.find?_eq_none.mp collects)
      rw [fillName_of_unknown context reached collects, unstarred]
      exact .inr (.error rfl)

/-- Names fill the parameters whose places they take. -/
theorem fillNames_follows (context : CallContext) {function : Signature}
    (marks : Marks function.params fillings taken) (names : List (String × Ty)) (index : Nat)
    (subst : Substitution) :
    Follows context (fun filled taken => Marks function.params filled.1 taken)
      (fillNames context function names index fillings subst)
      ((names.map Prod.fst).foldlM (Param.takeName function.params) taken) := by
  induction names generalizing index fillings taken subst with
  | nil => exact .inr (.ok marks)
  | cons entry names ih =>
    obtain ⟨name, found⟩ := entry
    rw [fillNames_cons, List.map_cons, List.foldlM_cons]
    exact (fillName_follows context marks name found index subst).bind fun filled _ after =>
      ih after (index + 1) filled.2

/-! ### What is left -/

/-- The parameter has been left as it was, with its type instantiated; it may have become one that
only a name reaches. -/
structure IsLeft (subst : Substitution) (left before : Param) : Prop where
  name : left.name = before.name
  ty : left.ty = subst.apply before.ty
  kind : left.kind = before.kind ∨ left.kind = before.kind.toNamed

/-- The free parameters are left, in their order. -/
theorem remaining_isLeft (subst : Substitution) (entries : List (Param × Filling))
    (namesOnly : Bool) :
    List.Forall₂ (IsLeft subst) (remaining subst entries namesOnly)
      ((entries.filter fun entry => entry.2 == .free).map Prod.fst) := by
  induction entries generalizing namesOnly with
  | nil => exact .nil
  | cons entry entries ih =>
    obtain ⟨param, filling⟩ := entry
    cases filling with
    | byPosition => exact ih namesOnly
    | byName => exact ih (namesOnly || param.kind.isPositional)
    | free =>
      refine .cons ⟨rfl, rfl, ?_⟩ (ih namesOnly)
      cases namesOnly with
      | false => exact .inl rfl
      | true => exact .inr rfl

/-- Two lists of marks on the same entries select the same ones, if they agree at each place. -/
theorem filter_zip_eq {entries : List α} {left : List β} {right : List γ}
    (leftLength : left.length = entries.length) (rightLength : right.length = entries.length)
    {selects : α × β → Bool} {selectsRight : α × γ → Bool}
    (agree : ∀ (place : Nat) (entry : α) (mark : β) (markRight : γ), entries[place]? = some entry →
      left[place]? = some mark → right[place]? = some markRight →
      selects (entry, mark) = selectsRight (entry, markRight)) :
    ((entries.zip left).filter selects).map Prod.fst =
      ((entries.zip right).filter selectsRight).map Prod.fst := by
  induction entries generalizing left right with
  | nil => rfl
  | cons entry entries ih =>
    obtain ⟨mark, left, rfl⟩ := List.exists_cons_of_length_eq_add_one leftLength
    obtain ⟨markRight, right, rfl⟩ := List.exists_cons_of_length_eq_add_one rightLength
    have later := ih (Nat.succ.inj leftLength) (Nat.succ.inj rightLength)
      fun place => agree (place + 1)
    have first := agree 0 entry mark markRight rfl rfl rfl
    rw [List.zip_cons_cons, List.zip_cons_cons, List.filter_cons, List.filter_cons, first]
    split
    · rw [List.map_cons, List.map_cons, later]
    · exact later

/-- With the arguments that it has received, a parameter stays open if it collects arguments or has
received none. -/
def isOpen (entry : Param × List Nat) : Bool := entry.1.kind.isVariadic || entry.2.isEmpty

/-- The parameters that `partial` has not marked are those that stay open in a call. -/
theorem Marks.filter_eq {arguments : List Argument} {params : List Param} {assignment : Assignment}
    (marks : Marks params fillings taken)
    (fills : Assignment.Fills arguments params assignment taken) :
    ((params.zip fillings).filter fun entry => entry.2 == .free).map Prod.fst =
      ((params.zip assignment.groups).filter isOpen).map Prod.fst := by
  refine filter_zip_eq marks.length fills.length ?_
  intro place param filling group here filled given
  have inside := (List.getElem?_eq_some_iff.mp here).1
  have free := marks.free_iff place inside
  rw [filled, Option.some.injEq] at free
  rw [Bool.eq_iff_iff, beq_iff_eq, free, isOpen, Bool.or_eq_true, List.isEmpty_iff]
  cases variadic : param.kind.isVariadic with
  | true =>
    have outside : place ∉ taken := by
      intro member
      obtain ⟨other, found, ordinary⟩ := fills.single place member
      rw [here, Option.some.injEq] at found
      rw [found, ordinary] at variadic
      cases variadic
    simp [outside]
  | false =>
    have empty := fills.empty_iff place param here variadic
    rw [given, Option.some.injEq] at empty
    simp [empty]

/-! ### Agreement -/

/-- The arguments as those of a call. -/
def Given.arguments (given : Given) : List Argument :=
  Argument.plain given.positional given.keywords

section

variable (given : Given) (context : CallContext) {function : Signature}
  (explicit : function.isEllipsis = false)
  (ordered : function.params.Pairwise fun earlier later =>
    earlier.kind = .star → later.kind.isPositional = false)

include explicit ordered

/-- `partial` follows the places of the arguments that it is given. -/
theorem Given.apply_follows :
    Follows context (fun result taken => ∃ fillings subst, Marks function.params fillings taken ∧
        result = ⟨remaining subst (function.params.zip fillings) false, subst.apply function.ret⟩)
      (given.apply context function)
      (Param.takenPlaces function.params given.positional.length
        (given.keywords.map Prod.fst)) := by
  simp only [Given.apply, explicit, Bool.false_eq_true, if_false]
  rw [Param.takenPlaces]
  refine (fillPositions_follows context ordered given.positional 2 .empty).bind ?_
  rintro ⟨positions, subst⟩ taken marked
  -- The places have no counterpart of the last step, which builds the signature.
  rw [← bind_pure (List.foldlM _ _ _)]
  refine (fillNames_follows context marked given.keywords _ subst).bind ?_
  rintro ⟨fillings, subst⟩ taken marked
  exact .inr (.ok ⟨fillings, subst, marked, rfl⟩)

variable (matched : ¬ context.Refuses (given.apply context function))

include matched

/-- What `partial` and a call have in common: an error of the same cause, or parameters that stay
open in the call and are left by `partial`. -/
theorem Given.apply_or_distribute :
    (∃ diagnostic error, given.apply context function = .error diagnostic ∧
      Argument.assign given.arguments function.params = .error error ∧ error ≠ .tooFew ∧
      diagnostic.cause = error.cause context.shortName) ∨
    (∃ result assignment subst, given.apply context function = .ok result ∧
      Argument.distribute given.arguments function.params = .ok assignment ∧
      result.ret = subst.apply function.ret ∧
      List.Forall₂ (IsLeft subst) result.params
        (((function.params.zip assignment.groups).filter isOpen).map Prod.fst)) := by
  have following := given.apply_follows context explicit ordered
  have calling := Argument.distribute_plain function.params given.positional given.keywords
  rcases following with refused | alike
  · exact absurd refused matched
  · cases outcome : Param.takenPlaces function.params given.positional.length
        (given.keywords.map Prod.fst) with
    | error error =>
      rw [outcome] at alike calling
      obtain ⟨diagnostic, failed, cause⟩ := alike.exists_error
      obtain ⟨_, refused, rfl⟩ := calling.exists_error
      refine .inl ⟨diagnostic, _, failed, ?_, ?_, cause⟩
      · rw [Argument.assign_eq_distribute, Given.arguments, refused]
        rfl
      · rintro rfl
        exact Param.takenPlaces_ne_tooFew _ _ _ outcome
    | ok taken =>
      rw [outcome] at alike calling
      obtain ⟨result, succeeded, fillings, subst, marks, rfl⟩ := alike.exists_ok
      obtain ⟨assignment, distributed, fills⟩ := calling.exists_ok
      refine .inr ⟨_, assignment, subst, succeeded, distributed, rfl, ?_⟩
      rw [← marks.filter_eq fills]
      exact remaining_isLeft subst _ false

/-- `partial` reports an error of the places exactly if the call fails with it. -/
theorem Given.apply_error_iff (error : ArgumentError) (enough : error ≠ .tooFew) :
    (∃ diagnostic, given.apply context function = .error diagnostic ∧
      diagnostic.cause = error.cause context.shortName) ↔
    Argument.assign given.arguments function.params = .error error := by
  rcases given.apply_or_distribute context explicit ordered matched with
    ⟨diagnostic, reported, failed, refused, _, cause⟩ |
    ⟨result, assignment, subst, succeeded, distributed, _⟩
  · rw [failed, refused, Except.error.injEq]
    constructor
    · rintro ⟨_, ⟨⟩, same⟩
      exact ArgumentError.cause_injective (cause.symm.trans same)
    · rintro rfl
      exact ⟨diagnostic, rfl, cause⟩
  · rw [succeeded, Argument.assign_eq_distribute, distributed]
    constructor
    · rintro ⟨_, ⟨⟩, _⟩
    · change (if assignment.isIncomplete function.params then _ else _) = _ → _
      split
      · rintro ⟨⟩
        exact absurd rfl enough
      · rintro ⟨⟩

end

/-- `partial` and a call treat arguments alike, for a function that is not left open by an ellipsis
and in which no positional parameter stands behind a star parameter, as long as no argument fails
to match the type of its parameter. Too many positions, a parameter that receives several values and
an unexpected name are reported by `partial` exactly if the call fails for that reason. Otherwise
the call succeeds or lacks arguments, and `partial` succeeds: it leaves, in their order, the
parameters that collect arguments and those that have received none. -/
theorem Given.apply_agrees_with_assign (given : Given) (context : CallContext)
    {function : Signature} (explicit : function.isEllipsis = false)
    (ordered : function.params.Pairwise fun earlier later =>
      earlier.kind = .star → later.kind.isPositional = false)
    (matched : ¬ context.Refuses (given.apply context function)) :
    ((∃ diagnostic, given.apply context function = .error diagnostic ∧
        diagnostic.cause = .tooManyArguments context.shortName) ↔
      Argument.assign given.arguments function.params = .error .tooMany) ∧
    (∀ name, (∃ diagnostic, given.apply context function = .error diagnostic ∧
        diagnostic.cause = .other (quoted context.shortName ++
          " gets multiple values for keyword argument " ++ quoted name)) ↔
      Argument.assign given.arguments function.params = .error (.multipleValues name)) ∧
    (∀ name, (∃ diagnostic, given.apply context function = .error diagnostic ∧
        diagnostic.cause = .unexpectedKeyword context.shortName name) ↔
      Argument.assign given.arguments function.params = .error (.unexpectedKeyword name)) ∧
    ((Argument.assign given.arguments function.params = .error .tooFew ∨
        ∃ groups, Argument.assign given.arguments function.params = .ok groups) →
      ∃ result assignment subst, given.apply context function = .ok result ∧
        Argument.distribute given.arguments function.params = .ok assignment ∧
        result.ret = subst.apply function.ret ∧
        List.Forall₂ (IsLeft subst) result.params
          (((function.params.zip assignment.groups).filter isOpen).map Prod.fst)) := by
  have reported := given.apply_error_iff context explicit ordered matched
  refine ⟨reported .tooMany (by rintro ⟨⟩),
    fun name => reported (.multipleValues name) (by rintro ⟨⟩),
    fun name => reported (.unexpectedKeyword name) (by rintro ⟨⟩), ?_⟩
  rcases given.apply_or_distribute context explicit ordered matched with
    ⟨_, error, _, refused, enough, _⟩ | agreed
  · rw [refused]
    rintro (few | ⟨groups, accepted⟩)
    · exact absurd (Except.error.inj few) enough
    · cases accepted
  · exact fun _ => agreed

/-- `f(item: T, label: str, weight: float, *more: T, mode: str, **extra: int) -> list[T]`. -/
def gathering : Signature where
  params := [⟨some "item", .positional, .typeVar "T"⟩, ⟨some "label", .positional, .str⟩,
    ⟨some "weight", .positional, .float⟩, ⟨some "more", .star, .typeVar "T"⟩,
    ⟨some "mode", .named, .str⟩, ⟨some "extra", .doubleStar, .int⟩]
  ret := .list (.typeVar "T")

/-- The early arguments of `partial(f, 1, label="", depth=2)`. -/
def gatheringEarly : Given := ⟨[.int], [("label", .str), ("depth", .int)]⟩

/-- A direct call with these arguments lacks some, and `partial` leaves what stays open in it. -/
theorem apply_agrees_with_assign_gathering :
    gathering.isEllipsis = false ∧
    (gathering.params.Pairwise fun earlier later =>
      earlier.kind = .star → later.kind.isPositional = false) ∧
    ¬ (default : CallContext).Refuses (gatheringEarly.apply default gathering) ∧
    Argument.assign gatheringEarly.arguments gathering.params = .error .tooFew ∧
    ∃ result assignment subst, gatheringEarly.apply default gathering = .ok result ∧
      Argument.distribute gatheringEarly.arguments gathering.params = .ok assignment ∧
      result.ret = subst.apply gathering.ret ∧
      List.Forall₂ (IsLeft subst) result.params
        (((gathering.params.zip assignment.groups).filter isOpen).map Prod.fst) := by
  have explicit : gathering.isEllipsis = false := by decide +kernel
  have ordered : gathering.params.Pairwise fun earlier later =>
      earlier.kind = .star → later.kind.isPositional = false := by decide +kernel
  have succeeded : (gatheringEarly.apply default gathering).toOption.isSome = true := by
    decide +kernel
  have matched : ¬ (default : CallContext).Refuses (gatheringEarly.apply default gathering) := by
    rintro ⟨_, _, _, _, _, _, failed⟩
    rw [failed] at succeeded
    cases succeeded
  have few : Argument.assign gatheringEarly.arguments gathering.params = .error .tooFew := by
    decide +kernel
  have agreement := gatheringEarly.apply_agrees_with_assign default explicit ordered matched
  exact ⟨explicit, ordered, matched, few, agreement.2.2.2 (.inl few)⟩

end PartialCall

end Callwise
