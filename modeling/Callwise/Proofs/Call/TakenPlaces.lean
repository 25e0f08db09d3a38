import Callwise.Proofs.Call.PlainCall

/-!
# The places that a plain call takes

A plain call passes some arguments by position and some by name. Which parameters receive something
can be told by their places alone: the positions take the places of the first positional parameters,
and what is left over goes to the star parameter; then each name takes the place of the first
parameter that answers to it, or goes to the double-star parameter. A position with nowhere to go, a
place that is taken twice and a name that nobody answers to are the three errors.

`Param.takenPlaces` says this, and `Argument.distribute` is the loop of `Argument.assign` over the
arguments of a call. The step lemmas say that one more argument has the same outcome in both, and
`Argument.distribute_tracks` says it of a whole call.
-/

namespace Callwise

variable {param : Param} {place : Nat}

/-! ### Computations that correspond -/

/-- A computation that goes on after another one succeeds only if both do. -/
theorem exists_ok_of_bind {ε α β : Type} {first : Except ε α} {next : α → Except ε β} {result : β}
    (succeeded : first >>= next = .ok result) :
    ∃ reached, first = .ok reached ∧ next reached = .ok result := by
  cases first with
  | error failure => cases succeeded
  | ok reached => exact ⟨reached, rfl, succeeded⟩

/-- A changed result comes from a result. -/
theorem exists_ok_of_map {ε α β : Type} {first : Except ε α} {change : α → β} {result : β}
    (succeeded : first.map change = .ok result) :
    ∃ reached, first = .ok reached ∧ change reached = result := by
  cases first with
  | error failure => cases succeeded
  | ok reached => exact ⟨reached, rfl, Except.ok.inj succeeded⟩

/-- Two computations fail with errors that correspond, or succeed with results that correspond. -/
inductive Tracks {ε δ α β : Type} (errors : ε → δ → Prop) (results : α → β → Prop) :
    Except ε α → Except δ β → Prop where
  | error {left : ε} {right : δ} (alike : errors left right) :
      Tracks errors results (.error left) (.error right)
  | ok {left : α} {right : β} (alike : results left right) :
      Tracks errors results (.ok left) (.ok right)

namespace Tracks

variable {ε δ α β γ ζ : Type} {errors : ε → δ → Prop} {results : α → β → Prop}
  {further : γ → ζ → Prop}

/-- A computation that corresponds to an error fails. -/
theorem exists_error {left : Except ε α} {right : δ}
    (tracks : Tracks errors results left (.error right)) :
    ∃ error, left = .error error ∧ errors error right := by
  cases tracks with
  | error alike => exact ⟨_, rfl, alike⟩

/-- A computation that corresponds to a result succeeds. -/
theorem exists_ok {left : Except ε α} {right : β}
    (tracks : Tracks errors results left (.ok right)) :
    ∃ result, left = .ok result ∧ results result right := by
  cases tracks with
  | ok alike => exact ⟨_, rfl, alike⟩

/-- Computations that go on in corresponding ways correspond. -/
theorem bind {left : Except ε α} {right : Except δ β} (first : Tracks errors results left right)
    {leftNext : α → Except ε γ} {rightNext : β → Except δ ζ}
    (next : ∀ a b, results a b → Tracks errors further (leftNext a) (rightNext b)) :
    Tracks errors further (left >>= leftNext) (right >>= rightNext) := by
  cases first with
  | error alike => exact .error alike
  | ok alike => exact next _ _ alike

/-- Loops with corresponding steps correspond. The second loop may look at the entries in its own
way. -/
theorem foldlM {entries : List γ} {view : γ → ζ} {leftStep : α → γ → Except ε α}
    {rightStep : β → ζ → Except δ β}
    (step : ∀ entry ∈ entries, ∀ a b, results a b →
      Tracks errors results (leftStep a entry) (rightStep b (view entry)))
    {start : α} {other : β} (alike : results start other) :
    Tracks errors results (entries.foldlM leftStep start)
      ((entries.map view).foldlM rightStep other) := by
  induction entries generalizing start other with
  | nil => exact .ok alike
  | cons entry entries ih =>
    rw [List.forall_mem_cons] at step
    rw [List.map_cons, List.foldlM_cons, List.foldlM_cons]
    exact (step.1 start other alike).bind fun _ _ next => ih step.2 next

end Tracks

/-! ### Places -/

namespace Param

/-- The call can collect positions that no parameter takes. -/
def isStarred (params : List Param) : Bool := params.any fun param => param.kind == .star

/-- The call can collect names that no parameter answers to. -/
def isDoubleStarred (params : List Param) : Bool :=
  params.any fun param => param.kind == .doubleStar

/-- The places that so many positions take. -/
def takePositions (params : List Param) (count : Nat) : Except ArgumentError (List Nat) :=
  if (Assignment.positionalIndices params).length < count && !isStarred params then
    .error .tooMany
  else .ok ((Assignment.positionalIndices params).take count)

/-- The places that are taken after one more name. -/
def takeName (params : List Param) (taken : List Nat) (name : String) :
    Except ArgumentError (List Nat) :=
  match Assignment.indexOfName? params name with
  | some place =>
    if place ∈ taken then .error (.multipleValues name) else .ok (taken ++ [place])
  | none => if isDoubleStarred params then .ok taken else .error (.unexpectedKeyword name)

/-- The places that a call with so many positions and with these names takes. -/
def takenPlaces (params : List Param) (count : Nat) (names : List String) :
    Except ArgumentError (List Nat) :=
  takePositions params count >>= names.foldlM (takeName params)

/-- Only a star parameter collects positions. -/
theorem isStarred_cons (notStar : (param.kind == .star) = false) (params : List Param) :
    isStarred (param :: params) = isStarred params := by
  rw [isStarred, List.any_cons, notStar, Bool.false_or, isStarred]

/-- There is a positional parameter at each of the positional indices. -/
theorem exists_of_mem_positionalIndices {params : List Param}
    (member : place ∈ Assignment.positionalIndices params) :
    ∃ param, params[place]? = some param ∧ param.kind.isPositional = true := by
  obtain ⟨⟨param, index⟩, within, rfl⟩ := List.mem_map.mp member
  obtain ⟨listed, positional⟩ := List.mem_filter.mp within
  exact ⟨param, List.mem_zipIdx_iff_getElem?.mp listed, positional⟩

/-- No positions take no place. -/
theorem takePositions_zero (params : List Param) : takePositions params 0 = .ok [] := by
  rw [takePositions, decide_eq_false (Nat.not_lt_zero _), Bool.false_and, List.take_zero]
  rfl

/-- A positional parameter in front takes the first position. -/
theorem takePositions_cons_of_isPositional (positional : param.kind.isPositional = true)
    (params : List Param) (count : Nat) :
    takePositions (param :: params) (count + 1) =
      (takePositions params count).map fun taken => 0 :: taken.map (· + 1) := by
  have notStar : (param.kind == .star) = false := by
    cases kind : param.kind <;> first | rfl | (rw [kind] at positional; cases positional)
  have starred := isStarred_cons notStar params
  have indices : Assignment.positionalIndices (param :: params) =
      0 :: (Assignment.positionalIndices params).map (· + 1) := by
    rw [Assignment.positionalIndices_cons, positional]
    rfl
  simp only [takePositions, starred, indices, List.length_cons, List.length_map,
    Nat.add_lt_add_iff_right, List.take_succ_cons, ← List.map_take]
  split <;> rfl

/-- A parameter in front that no position reaches changes nothing but the places. -/
theorem takePositions_cons_of_unreached (named : param.kind.isPositional = false)
    (notStar : (param.kind == .star) = false) (params : List Param) (count : Nat) :
    takePositions (param :: params) count =
      (takePositions params count).map fun taken => taken.map (· + 1) := by
  have starred := isStarred_cons notStar params
  have indices : Assignment.positionalIndices (param :: params) =
      (Assignment.positionalIndices params).map (· + 1) := by
    rw [Assignment.positionalIndices_cons, named]
    rfl
  rw [takePositions, takePositions, starred, indices, List.length_map, ← List.map_take]
  split <;> rfl

/-- A star parameter in front collects all positions, if no positional parameter stands behind
it. -/
theorem takePositions_cons_of_star {params : List Param} (star : param.kind = .star)
    (last : ∀ later ∈ params, later.kind.isPositional = false) (count : Nat) :
    takePositions (param :: params) count = .ok [] := by
  have starred : isStarred (param :: params) = true := by
    rw [isStarred, List.any_cons, star]
    rfl
  have indices : Assignment.positionalIndices (param :: params) = [] := by
    rw [List.eq_nil_iff_forall_not_mem]
    intro place member
    obtain ⟨reached, here, positional⟩ := exists_of_mem_positionalIndices member
    rcases List.mem_cons.mp (List.mem_of_getElem? here) with rfl | later
    · rw [star] at positional
      cases positional
    · rw [last reached later] at positional
      cases positional
  rw [takePositions, starred, indices, Bool.not_true, Bool.and_false, List.take_nil]
  rfl

/-- Where a name leads there is a parameter that takes one argument. -/
theorem exists_of_indexOfName? {params : List Param} {name : String}
    (reached : Assignment.indexOfName? params name = some place) :
    ∃ param, params[place]? = some param ∧ param.kind.isVariadic = false := by
  obtain ⟨inside, answers, _⟩ := List.findIdx?_eq_some_iff_getElem.mp reached
  rw [Bool.and_eq_true, Bool.not_eq_true'] at answers
  exact ⟨params[place], List.getElem?_eq_getElem inside, answers.1⟩

/-- The first parameter of a kind is one of that kind. -/
theorem exists_of_indexOfKind? {params : List Param} {kind : ParamKind}
    (found : Assignment.indexOfKind? params kind = some place) :
    ∃ param, params[place]? = some param ∧ param.kind = kind := by
  obtain ⟨inside, same, _⟩ := List.findIdx?_eq_some_iff_getElem.mp found
  exact ⟨params[place], List.getElem?_eq_getElem inside, beq_iff_eq.mp same⟩

/-- Names never run out of arguments: that something is missing is found out later. -/
theorem takenPlaces_ne_tooFew (params : List Param) (count : Nat) (names : List String) :
    takenPlaces params count names ≠ .error .tooFew := by
  have overNames : ∀ (names : List String) (taken : List Nat),
      names.foldlM (takeName params) taken ≠ .error .tooFew := by
    intro names
    induction names with
    | nil => simp [pure, Except.pure]
    | cons name names ih =>
      intro taken
      rw [List.foldlM_cons, takeName]
      split
      · split
        · rintro ⟨⟩
        · exact ih _
      · split
        · exact ih _
        · rintro ⟨⟩
  rw [takenPlaces, takePositions]
  split
  · rintro ⟨⟩
  · exact overNames names _

end Param

/-! ### The loop over the arguments -/

/-- The argument at the index is passed as it is, not unpacked. -/
def Argument.isExplicitAt (arguments : List Argument) (index : Nat) : Bool :=
  arguments[index]?.any fun argument => !argument.kind.isVariadic

/-- What the parameters have received after all arguments, whether or not something is missing. -/
def Argument.distribute (arguments : List Argument) (formals : List Param) :
    Except ArgumentError Assignment :=
  arguments.zipIdx.foldlM (Assignment.step arguments formals) ⟨formals.map fun _ => [], 0⟩

/-- The arguments are assigned by distributing them and looking whether something is missing. -/
theorem Argument.assign_eq_distribute (arguments : List Argument) (formals : List Param) :
    assign arguments formals = distribute arguments formals >>= fun assignment =>
      if assignment.isIncomplete formals then .error .tooFew else .ok assignment.groups :=
  rfl

namespace Assignment

variable {arguments : List Argument} {formals : List Param} {assignment : Assignment}
  {taken : List Nat}

/-- Of the parameters that take one argument, those at the taken places have received something, and
no argument has been unpacked. -/
structure Fills (arguments : List Argument) (formals : List Param) (assignment : Assignment)
    (taken : List Nat) : Prop where
  length : assignment.groups.length = formals.length
  single : ∀ place ∈ taken,
    ∃ param, formals[place]? = some param ∧ param.kind.isVariadic = false
  empty_iff : ∀ place param, formals[place]? = some param → param.kind.isVariadic = false →
    (assignment.groups[place]? = some [] ↔ place ∉ taken)
  explicit : ∀ (place : Nat) (group : List Nat), assignment.groups[place]? = some group →
    ∀ index ∈ group, Argument.isExplicitAt arguments index = true

/-- At the start of a call no place is taken. -/
theorem fills_start (arguments : List Argument) (formals : List Param) :
    Fills arguments formals ⟨formals.map fun _ => [], 0⟩ [] where
  length := by simp
  single := by simp
  empty_iff := by
    intro place param found _
    have started : (formals.map fun _ => ([] : List Nat))[place]? = some [] := by
      rw [List.getElem?_map, found, Option.map_some]
    exact iff_of_true started List.not_mem_nil
  explicit := by
    intro place group found index member
    obtain ⟨_, _, rfl⟩ := Option.map_eq_some_iff.mp (List.getElem?_map ▸ found)
    cases member

/-- The group of each parameter after one has been given an argument. -/
theorem getElem?_groups_give (assignment : Assignment) (formal argument place : Nat) :
    (assignment.give formal argument).groups[place]? =
      assignment.groups[place]?.map fun group =>
        if formal = place then group ++ [argument] else group := by
  rw [give, List.getElem?_modify]
  rfl

/-- Given arguments stay explicit. -/
theorem Fills.explicit_give (fills : Fills arguments formals assignment taken) (formal : Nat)
    {argument : Nat} (passed : Argument.isExplicitAt arguments argument = true) (place : Nat)
    (group : List Nat) (found : (assignment.give formal argument).groups[place]? = some group) :
    ∀ index ∈ group, Argument.isExplicitAt arguments index = true := by
  rw [getElem?_groups_give] at found
  obtain ⟨before, here, rfl⟩ := Option.map_eq_some_iff.mp found
  intro index member
  split at member
  · rcases List.mem_append.mp member with earlier | new
    · exact fills.explicit place before here index earlier
    · rw [List.mem_singleton.mp new]
      exact passed
  · exact fills.explicit place before here index member

/-- An argument for a parameter that takes one takes its place. -/
theorem Fills.give_single (fills : Fills arguments formals assignment taken)
    (here : formals[place]? = some param) (ordinary : param.kind.isVariadic = false)
    {argument : Nat} (passed : Argument.isExplicitAt arguments argument = true) :
    Fills arguments formals (assignment.give place argument) (taken ++ [place]) where
  length := by simp [give, fills.length]
  single := by
    intro other member
    rcases List.mem_append.mp member with earlier | new
    · exact fills.single other earlier
    · rw [List.mem_singleton.mp new]
      exact ⟨param, here, ordinary⟩
  empty_iff := by
    intro other otherParam found otherOrdinary
    rw [getElem?_groups_give, List.mem_append, List.mem_singleton]
    by_cases same : place = other
    · subst same
      simp
    · have unchanged := fills.empty_iff other otherParam found otherOrdinary
      simp [same, Ne.symm same, unchanged]
  explicit := fills.explicit_give place passed

/-- An argument for a parameter that collects arguments takes no place. -/
theorem Fills.give_variadic (fills : Fills arguments formals assignment taken)
    (here : formals[place]? = some param) (variadic : param.kind.isVariadic = true) {argument : Nat}
    (passed : Argument.isExplicitAt arguments argument = true) :
    Fills arguments formals (assignment.give place argument) taken where
  length := by simp [give, fills.length]
  single := fills.single
  empty_iff := by
    intro other otherParam found otherOrdinary
    have different : place ≠ other := by
      rintro rfl
      rw [here, Option.some.injEq] at found
      rw [found, otherOrdinary] at variadic
      cases variadic
    have unchanged := fills.empty_iff other otherParam found otherOrdinary
    rw [getElem?_groups_give]
    simp [different, unchanged]
  explicit := fills.explicit_give place passed

/-- A parameter that takes one argument has received one exactly if its place is taken. -/
theorem Fills.isExplicit_iff (fills : Fills arguments formals assignment taken)
    (here : formals[place]? = some param) (ordinary : param.kind.isVariadic = false) :
    assignment.isExplicit arguments place = true ↔ place ∈ taken := by
  have inside : place < assignment.groups.length := by
    rw [fills.length]
    exact (List.getElem?_eq_some_iff.mp here).1
  have found : assignment.groups[place]? = some assignment.groups[place] :=
    List.getElem?_eq_getElem inside
  have empty := fills.empty_iff place param here ordinary
  rw [isExplicit, found, Option.getD_some, List.any_eq_true]
  rw [found, Option.some.injEq] at empty
  constructor
  · rintro ⟨index, member, _⟩
    by_cases within : place ∈ taken
    · exact within
    · rw [empty.mpr within] at member
      cases member
  · intro within
    obtain ⟨index, member⟩ :=
      List.exists_mem_of_ne_nil _ fun isEmpty => empty.mp isEmpty within
    exact ⟨index, member, fills.explicit place _ found index member⟩

/-- A named argument has the outcome of its name. -/
theorem tracks_step_name (fills : Fills arguments formals assignment taken) {argument : Argument}
    (kind : argument.kind = .named) {index : Nat}
    (passed : Argument.isExplicitAt arguments index = true) :
    Tracks Eq (Fills arguments formals) (step arguments formals assignment (argument, index))
      (Param.takeName formals taken (argument.name.getD "")) := by
  simp only [step, kind, giveNamed, Param.takeName]
  cases reached : indexOfName? formals (argument.name.getD "") with
  | some place =>
    obtain ⟨param, here, ordinary⟩ := Param.exists_of_indexOfName? reached
    have received := fills.isExplicit_iff here ordinary
    by_cases within : place ∈ taken
    · simp only [received.mpr within, within, if_true]
      exact .error rfl
    · have unreceived : assignment.isExplicit arguments place = false :=
        Bool.eq_false_iff.mpr fun given => within (received.mp given)
      simp only [unreceived, within, Bool.false_eq_true, if_false]
      exact .ok (fills.give_single here ordinary passed)
  | none =>
    cases found : indexOfKind? formals .doubleStar with
    | some place =>
      obtain ⟨param, here, same⟩ := Param.exists_of_indexOfKind? found
      have starred : Param.isDoubleStarred formals = true :=
        List.any_eq_true.mpr ⟨param, List.mem_of_getElem? here, by rw [same]; rfl⟩
      simp only [starred, if_true]
      exact .ok (fills.give_variadic here (by rw [same]; rfl) passed)
    | none =>
      have unstarred : Param.isDoubleStarred formals = false := by
        rw [Param.isDoubleStarred, List.any_eq_false]
        intro param member
        simpa using List.findIdx?_eq_none_iff.mp found param member
      simp only [unstarred, Bool.false_eq_true, if_false]
      exact .error rfl

/-- A position for which a positional parameter is left takes its place. -/
theorem step_position_of_place (fills : Fills arguments formals assignment taken)
    {argument : Argument} (kind : argument.kind = .positional) {index place : Nat}
    (passed : Argument.isExplicitAt arguments index = true)
    (next : (positionalIndices formals)[assignment.passed]? = some place) :
    ∃ after, step arguments formals assignment (argument, index) = .ok after ∧
      Fills arguments formals after (taken ++ [place]) ∧ after.passed = assignment.passed + 1 := by
  obtain ⟨param, here, positional⟩ :=
    Param.exists_of_mem_positionalIndices (List.mem_of_getElem? next)
  have given := fills.give_single here (ParamKind.isVariadic_of_isPositional positional) passed
  refine ⟨{ assignment.give place index with passed := assignment.passed + 1 }, ?_, ?_, rfl⟩
  · simp only [step, kind, givePositional, next]
  · exact ⟨given.length, given.single, given.empty_iff, given.explicit⟩

/-- A position for which no positional parameter is left is collected, if there is a star
parameter. -/
theorem step_position_of_starred (fills : Fills arguments formals assignment taken)
    {argument : Argument} (kind : argument.kind = .positional) {index : Nat}
    (passed : Argument.isExplicitAt arguments index = true)
    (exhausted : (positionalIndices formals)[assignment.passed]? = none)
    (starred : Param.isStarred formals = true) :
    ∃ after, step arguments formals assignment (argument, index) = .ok after ∧
      Fills arguments formals after taken ∧ after.passed = assignment.passed := by
  cases found : indexOfKind? formals .star with
  | none =>
    obtain ⟨param, member, same⟩ := List.any_eq_true.mp starred
    have other := List.findIdx?_eq_none_iff.mp found param member
    rw [same] at other
    cases other
  | some place =>
    obtain ⟨param, here, same⟩ := Param.exists_of_indexOfKind? found
    refine ⟨assignment.give place index, ?_, fills.give_variadic here (by rw [same]; rfl) passed,
      rfl⟩
    simp only [step, kind, givePositional, exhausted, found]

/-- A position for which no positional parameter is left is refused, if there is no star
parameter. -/
theorem step_position_of_unstarred {argument : Argument} (kind : argument.kind = .positional)
    (index : Nat) (exhausted : (positionalIndices formals)[assignment.passed]? = none)
    (unstarred : Param.isStarred formals = false) :
    step arguments formals assignment (argument, index) = .error .tooMany := by
  have missing : indexOfKind? formals .star = none := by
    rw [indexOfKind?, List.findIdx?_eq_none_iff]
    intro param member
    simpa using List.any_eq_false.mp unstarred param member
  simp only [step, kind, givePositional, exhausted, missing]

/-- Any number of positions, after others that all found a parameter, has the outcome of that number
of positions. -/
theorem tracks_run_positions {entries : List (Argument × Nat)}
    (kinds : ∀ entry ∈ entries, entry.1.kind = .positional ∧
      Argument.isExplicitAt arguments entry.2 = true)
    {count : Nat} (room : count ≤ (positionalIndices formals).length ∨
      Param.isStarred formals = true)
    (fills : Fills arguments formals assignment ((positionalIndices formals).take count))
    (passed : assignment.passed = min count (positionalIndices formals).length) :
    Tracks Eq (Fills arguments formals) (entries.foldlM (step arguments formals) assignment)
      (Param.takePositions formals (count + entries.length)) := by
  induction entries generalizing count assignment with
  | nil =>
    have enough : ((positionalIndices formals).length < count && !Param.isStarred formals) =
        false := by
      rcases room with short | starred
      · rw [decide_eq_false (Nat.not_lt.mpr short), Bool.false_and]
      · rw [starred, Bool.not_true, Bool.and_false]
    rw [List.length_nil, Nat.add_zero, Param.takePositions, enough]
    exact .ok fills
  | cons entry entries ih =>
    obtain ⟨argument, index⟩ := entry
    rw [List.forall_mem_cons] at kinds
    obtain ⟨⟨kind, given⟩, laterKinds⟩ := kinds
    have total : count + (entries.length + 1) = count + 1 + entries.length := by omega
    rw [List.foldlM_cons, List.length_cons, total]
    -- The cursor stands at `count` until the positional parameters are used up, and then stays.
    cases next : (positionalIndices formals)[assignment.passed]? with
    | some place =>
      obtain ⟨inside, _⟩ := List.getElem?_eq_some_iff.mp next
      have here : assignment.passed = count := by omega
      obtain ⟨after, stepped, afterFills, afterPassed⟩ :=
        step_position_of_place fills kind given next
      have longer : (positionalIndices formals).take count ++ [place] =
          (positionalIndices formals).take (count + 1) := by
        rw [List.take_add_one, ← here, next]
        rfl
      rw [longer] at afterFills
      rw [stepped]
      exact ih laterKinds (.inl (by omega)) afterFills (by omega)
    | none =>
      have outside : (positionalIndices formals).length ≤ assignment.passed :=
        List.getElem?_eq_none_iff.mp next
      cases starred : Param.isStarred formals with
      | true =>
        obtain ⟨after, stepped, afterFills, afterPassed⟩ :=
          step_position_of_starred fills kind given next starred
        have same : (positionalIndices formals).take (count + 1) =
            (positionalIndices formals).take count := by
          rw [List.take_of_length_le (by omega), List.take_of_length_le (by omega)]
        rw [← same] at afterFills
        rw [stepped]
        exact ih laterKinds (.inr starred) afterFills (by omega)
      | false =>
        have tooMany : ((positionalIndices formals).length < count + 1 + entries.length &&
            !Param.isStarred formals) = true := by
          have short : count ≤ (positionalIndices formals).length := by simpa [starred] using room
          rw [starred, Bool.not_false, Bool.and_true, decide_eq_true_eq]
          omega
        rw [step_position_of_unstarred kind index next starred, Param.takePositions, tooMany]
        exact .error rfl

end Assignment

/-- The name under which an argument is passed; one without a name counts as passed under the empty
one. -/
def Argument.keyword (argument : Argument) : String := argument.name.getD ""

/-- A call with positions first and names behind them has the outcome of their number and of the
names: the same error, or parameters that have received something at the places that are taken. -/
theorem Argument.distribute_tracks (formals : List Param) {positions keywords : List Argument}
    (byPosition : ∀ argument ∈ positions, argument.kind = .positional)
    (byName : ∀ argument ∈ keywords, argument.kind = .named) :
    Tracks Eq (Assignment.Fills (positions ++ keywords) formals)
      (distribute (positions ++ keywords) formals)
      (Param.takenPlaces formals positions.length (keywords.map keyword)) := by
  have explicit : ∀ argument index, (argument, index) ∈ (positions ++ keywords).zipIdx →
      isExplicitAt (positions ++ keywords) index = true := by
    intro argument index member
    have found : (positions ++ keywords)[index]? = some argument :=
      List.mem_zipIdx_iff_getElem?.mp member
    rw [isExplicitAt, found, Option.any_some]
    rcases List.mem_append.mp (List.mem_of_getElem? found) with first | later
    · rw [byPosition argument first]
      rfl
    · rw [byName argument later]
      rfl
  rw [List.zipIdx_append, Nat.zero_add] at explicit
  have overPositions := Assignment.tracks_run_positions
    (fun entry member => ⟨byPosition entry.1 (List.fst_mem_of_mem_zipIdx member),
      explicit entry.1 entry.2 (List.mem_append_left _ member)⟩)
    (.inl (Nat.zero_le _)) (Assignment.fills_start (positions ++ keywords) formals) (by simp)
  rw [Nat.zero_add, List.length_zipIdx] at overPositions
  have listed : (keywords.zipIdx positions.length).map (fun entry => entry.1.keyword) =
      keywords.map keyword := by
    have behind : (keywords.zipIdx positions.length).map (fun entry => entry.1.keyword) =
        ((keywords.zipIdx positions.length).map Prod.fst).map keyword := by
      rw [List.map_map]
      rfl
    rw [behind, List.zipIdx_map_fst]
  rw [distribute, List.zipIdx_append, Nat.zero_add, List.foldlM_append, Param.takenPlaces, ← listed]
  refine overPositions.bind fun assignment taken fills => ?_
  exact Tracks.foldlM (fun entry member _ _ alike =>
    Assignment.tracks_step_name alike (byName entry.1 (List.fst_mem_of_mem_zipIdx member))
      (explicit entry.1 entry.2 (List.mem_append_right _ member))) fills

/-- The same for the arguments of a plain call. -/
theorem Argument.distribute_plain (formals : List Param) (positions : List Ty)
    (names : List (String × Ty)) :
    Tracks Eq (Assignment.Fills (plain positions names) formals)
      (distribute (plain positions names) formals)
      (Param.takenPlaces formals positions.length (names.map Prod.fst)) := by
  have byPosition : ∀ argument ∈ positions.map fun ty => (⟨.positional, none, ty⟩ : Argument),
      argument.kind = .positional := by
    intro argument member
    obtain ⟨ty, _, rfl⟩ := List.mem_map.mp member
    rfl
  have byName : ∀ argument ∈ names.map fun entry => (⟨.named, some entry.1, entry.2⟩ : Argument),
      argument.kind = .named := by
    intro argument member
    obtain ⟨entry, _, rfl⟩ := List.mem_map.mp member
    rfl
  have tracks := distribute_tracks formals byPosition byName
  rw [List.length_map, List.map_map] at tracks
  exact tracks

end Callwise
