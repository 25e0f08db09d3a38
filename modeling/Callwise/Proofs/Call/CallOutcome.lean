import Callwise.Proofs.Call.TakenPlaces

/-!
# Which calls are accepted, and which error the others have

A call passes some arguments by position and then some by name. `Argument.assign` goes through them
one by one; here its outcome is read off the signature instead. So many positions fill the first
positional parameters, and the target of a name is the first parameter that answers to it. Positions
that nobody takes are noticed first. Otherwise the first name with a fault decides: its target is
filled by position or is the target of an earlier name, or it has no target and nobody collects it.
Only then a missing argument is noticed.

The run over the names keeps one invariant: the places taken so far are those filled by position and
the targets of the names so far (`Param.Takes`). The step lemmas say that under it a name is refused
exactly for its fault, and that the invariant is kept; a run fails where its first step fails.
-/

namespace Callwise

/-- A loop fails exactly if one of its steps does after the ones in front have succeeded. -/
theorem foldlM_eq_error_iff {α β ε : Type} {step : α → β → Except ε α} {entries : List β}
    {start : α} {failure : ε} :
    entries.foldlM step start = .error failure ↔
      ∃ before entry after reached, entries = before ++ entry :: after ∧
        before.foldlM step start = .ok reached ∧ step reached entry = .error failure := by
  constructor
  · intro failed
    induction entries generalizing start with
    | nil => cases failed
    | cons entry entries ih =>
      rw [List.foldlM_cons] at failed
      cases stepped : step start entry with
      | error other =>
        rw [stepped] at failed
        cases failed
        exact ⟨[], entry, entries, start, rfl, rfl, stepped⟩
      | ok next =>
        rw [stepped] at failed
        obtain ⟨before, culprit, after, reached, split, succeeded, refused⟩ :=
          ih failed
        refine ⟨entry :: before, culprit, after, reached, congrArg (entry :: ·) split, ?_, refused⟩
        rw [List.foldlM_cons, stepped]
        exact succeeded
  · rintro ⟨before, entry, after, reached, rfl, succeeded, refused⟩
    rw [List.foldlM_append, succeeded]
    change (entry :: after).foldlM step reached = _
    rw [List.foldlM_cons, refused]
    rfl

namespace Param

variable {params : List Param} {count : Nat} {earlier names : List String} {name : String}
  {taken : List Nat} {error : ArgumentError}

/-! ### Positions and targets -/

/-- The place is that of one of the first positional parameters, up to the given number of them. -/
def IsPositioned (params : List Param) (count place : Nat) : Prop :=
  ∃ param, params[place]? = some param ∧ param.kind.isPositional = true ∧
    (params.take place).countP (fun earlier => earlier.kind.isPositional) < count

/-- The place is that of the first parameter that answers to the name. -/
def IsTarget (params : List Param) (name : String) (place : Nat) : Prop :=
  (∃ param, params[place]? = some param ∧ param.answersTo name = true) ∧
    ∀ earlier ∈ params.take place, earlier.answersTo name = false

/-- There are as many positional indices as positional parameters. -/
theorem length_positionalIndices (params : List Param) :
    (Assignment.positionalIndices params).length =
      params.countP fun param => param.kind.isPositional := by
  induction params with
  | nil => rfl
  | cons param params ih =>
    rw [Assignment.positionalIndices_cons, List.length_append, List.length_map,
      ih, List.countP_cons]
    split <;> simp [Nat.add_comm]

/-- The first positional indices are the places that are filled by so many positions. -/
theorem mem_take_positionalIndices_iff (params : List Param) (count place : Nat) :
    place ∈ (Assignment.positionalIndices params).take count ↔ IsPositioned params count place := by
  induction params generalizing count place with
  | nil => simp [Assignment.positionalIndices, IsPositioned]
  | cons param params ih =>
    rw [Assignment.positionalIndices_cons]
    cases positional : param.kind.isPositional with
    | true =>
      cases count with
      | zero => simp [IsPositioned]
      | succ count =>
        cases place with
        | zero => simp [IsPositioned, positional]
        | succ place =>
          have later := ih count place
          simpa [IsPositioned, positional, List.countP_cons, ← List.map_take] using later
    | false =>
      cases place with
      | zero => simp [IsPositioned, positional, ← List.map_take]
      | succ place =>
        have later := ih count place
        simpa [IsPositioned, positional, List.countP_cons, ← List.map_take] using later

/-- A name leads to its target. -/
theorem indexOfName?_eq_some_iff {place : Nat} :
    Assignment.indexOfName? params name = some place ↔ IsTarget params name place := by
  rw [Assignment.indexOfName?, List.findIdx?_eq_some_iff_getElem, IsTarget]
  constructor
  · rintro ⟨inside, answers, others⟩
    refine ⟨⟨params[place], List.getElem?_eq_getElem inside, answers⟩, ?_⟩
    intro earlier member
    obtain ⟨index, before, rfl⟩ := List.mem_take_iff_getElem.mp member
    have below : index < place := Nat.lt_of_lt_of_le before (Nat.min_le_left ..)
    exact Bool.eq_false_iff.mpr (others index below)
  · rintro ⟨⟨param, here, answers⟩, others⟩
    obtain ⟨inside, rfl⟩ := List.getElem?_eq_some_iff.mp here
    refine ⟨inside, answers, ?_⟩
    intro index below
    have member : params[index] ∈ params.take place :=
      List.mem_take_iff_getElem.mpr ⟨index, by omega, rfl⟩
    exact Bool.eq_false_iff.mp (others _ member)

instance (params : List Param) (count place : Nat) : Decidable (IsPositioned params count place) :=
  decidable_of_iff _ (mem_take_positionalIndices_iff params count place)

instance (params : List Param) (name : String) (place : Nat) :
    Decidable (IsTarget params name place) :=
  decidable_of_iff _ indexOfName?_eq_some_iff

/-- A name that leads nowhere has no target. -/
theorem indexOfName?_eq_none_iff :
    Assignment.indexOfName? params name = none ↔ ∀ place, ¬ IsTarget params name place := by
  simp only [Option.eq_none_iff_forall_ne_some, ne_eq, indexOfName?_eq_some_iff]

/-! ### Faults of a call -/

/-- Without a star parameter no parameter has that kind. -/
theorem isStarred_eq_false_iff :
    isStarred params = false ↔ ∀ param ∈ params, param.kind ≠ .star := by
  rw [isStarred, List.any_eq_false]
  simp

/-- Without a double star parameter no parameter has that kind. -/
theorem isDoubleStarred_eq_false_iff :
    isDoubleStarred params = false ↔ ∀ param ∈ params, param.kind ≠ .doubleStar := by
  rw [isDoubleStarred, List.any_eq_false]
  simp

/-- There are more positions than positional parameters, and nobody collects the rest. -/
def Overflows (params : List Param) (count : Nat) : Prop :=
  params.countP (fun param => param.kind.isPositional) < count ∧
    ∀ param ∈ params, param.kind ≠ .star

/-- What is wrong with a name behind so many positions and these other names. -/
inductive NameFault (params : List Param) (count : Nat) (earlier : List String) (name : String) :
    ArgumentError → Prop where
  /-- The parameter has been filled by position. -/
  | positioned {place : Nat} (target : IsTarget params name place)
      (filled : IsPositioned params count place) :
      NameFault params count earlier name (.multipleValues name)
  /-- The parameter has been filled by an earlier name. -/
  | repeated {place : Nat} {other : String} (target : IsTarget params name place)
      (member : other ∈ earlier) (same : IsTarget params other place) :
      NameFault params count earlier name (.multipleValues name)
  /-- There is no such parameter, and nobody collects the name. -/
  | unexpected (unanswered : ∀ place, ¬ IsTarget params name place)
      (uncollected : ∀ param ∈ params, param.kind ≠ .doubleStar) :
      NameFault params count earlier name (.unexpectedKeyword name)

/-- Some name has a fault, and the first such name has this one. -/
def FirstFault (params : List Param) (count : Nat) (names : List String) (error : ArgumentError) :
    Prop :=
  ∃ earlier name later, names = earlier ++ name :: later ∧
    NameFault params count earlier name error ∧
    ∀ before other between, earlier = before ++ other :: between →
      ∀ fault, ¬ NameFault params count before other fault

/-- A required parameter is filled neither by position nor by name. -/
def Lacks (params : List Param) (count : Nat) (names : List String) : Prop :=
  ∃ place param, params[place]? = some param ∧ param.kind.isRequired = true ∧
    ¬ IsPositioned params count place ∧ ∀ name ∈ names, ¬ IsTarget params name place

/-! ### The run over the names -/

/-- The taken places are the filled positions and the targets of the names. -/
def Takes (params : List Param) (count : Nat) (names : List String) (taken : List Nat) : Prop :=
  ∀ place, place ∈ taken ↔
    IsPositioned params count place ∨ ∃ name ∈ names, IsTarget params name place

/-- Positions are refused if there are too many, and otherwise take their places. -/
theorem takePositions_eq (params : List Param) (count : Nat) :
    (Overflows params count ∧ takePositions params count = .error .tooMany) ∨
      (¬ Overflows params count ∧
        ∃ taken, takePositions params count = .ok taken ∧ Takes params count [] taken) := by
  have overflows : ((Assignment.positionalIndices params).length < count &&
      !isStarred params) = true ↔ Overflows params count := by
    rw [Bool.and_eq_true, decide_eq_true_eq, length_positionalIndices, Bool.not_eq_true',
      isStarred_eq_false_iff, Overflows]
  rw [takePositions, ← overflows]
  split
  · exact .inl ⟨‹_›, rfl⟩
  · refine .inr ⟨‹_›, _, rfl, fun place => ?_⟩
    simp [mem_take_positionalIndices_iff]

/-- A name with a target takes its place if it is still free. -/
theorem takeName_of_isTarget {place : Nat} (target : IsTarget params name place)
    (taken : List Nat) :
    takeName params taken name =
      if place ∈ taken then .error (.multipleValues name) else .ok (taken ++ [place]) := by
  rw [takeName, indexOfName?_eq_some_iff.mpr target]

/-- A name without a target takes no place. -/
theorem takeName_of_unanswered (unanswered : ∀ place, ¬ IsTarget params name place)
    (taken : List Nat) :
    takeName params taken name =
      if isDoubleStarred params then .ok taken else .error (.unexpectedKeyword name) := by
  rw [takeName, indexOfName?_eq_none_iff.mpr unanswered]

/-- A name has at most one target. -/
theorem IsTarget.unique {place other : Nat} (target : IsTarget params name place)
    (also : IsTarget params name other) : place = other :=
  Option.some.inj ((indexOfName?_eq_some_iff.mpr target).symm.trans
    (indexOfName?_eq_some_iff.mpr also))

/-- A name is refused exactly for its fault. -/
theorem takeName_eq_error_iff (takes : Takes params count earlier taken) :
    takeName params taken name = .error error ↔ NameFault params count earlier name error := by
  by_cases answered : ∃ place, IsTarget params name place
  · obtain ⟨place, target⟩ := answered
    rw [takeName_of_isTarget target]
    constructor
    · intro refused
      split at refused
      · cases refused
        rcases (takes place).mp ‹_› with filled | ⟨other, member, same⟩
        · exact .positioned target filled
        · exact .repeated target member same
      · cases refused
    · intro fault
      cases fault with
      | positioned also filled =>
        obtain rfl := target.unique also
        exact if_pos ((takes place).mpr (.inl filled))
      | repeated also member same =>
        obtain rfl := target.unique also
        exact if_pos ((takes place).mpr (.inr ⟨_, member, same⟩))
      | unexpected unanswered _ => exact absurd target (unanswered place)
  · have unanswered := not_exists.mp answered
    rw [takeName_of_unanswered unanswered]
    constructor
    · intro refused
      split at refused
      · cases refused
      · cases refused
        exact .unexpected unanswered
          (isDoubleStarred_eq_false_iff.mp (Bool.eq_false_iff.mpr ‹_›))
    · intro fault
      cases fault with
      | positioned target _ => exact absurd target (unanswered _)
      | repeated target _ _ => exact absurd target (unanswered _)
      | unexpected _ uncollected =>
        exact if_neg (Bool.eq_false_iff.mp (isDoubleStarred_eq_false_iff.mpr uncollected))

/-- A name that is not refused takes its target. -/
theorem Takes.takeName (takes : Takes params count earlier taken) {after : List Nat}
    (accepted : takeName params taken name = .ok after) :
    Takes params count (earlier ++ [name]) after := by
  intro place
  have before := takes place
  by_cases answered : ∃ own, IsTarget params name own
  · obtain ⟨own, target⟩ := answered
    have leads : IsTarget params name place ↔ place = own :=
      ⟨fun also => also.unique target, fun same => same ▸ target⟩
    rw [takeName_of_isTarget target] at accepted
    split at accepted
    · cases accepted
    · cases accepted
      simp [before, leads, or_and_right, exists_or, or_assoc]
  · have unanswered := not_exists.mp answered
    rw [takeName_of_unanswered unanswered] at accepted
    split at accepted
    · cases accepted
      simp [before, unanswered place, or_and_right, exists_or]
    · cases accepted

/-- Names that are not refused take their targets. -/
theorem Takes.foldlM (takes : Takes params count earlier taken) {after : List Nat}
    (accepted : names.foldlM (Param.takeName params) taken = .ok after) :
    Takes params count (earlier ++ names) after := by
  induction names generalizing earlier taken with
  | nil =>
    cases accepted
    rwa [List.append_nil]
  | cons name names ih =>
    rw [List.foldlM_cons] at accepted
    obtain ⟨next, stepped, later⟩ := exists_ok_of_bind accepted
    have rest := ih (takes.takeName stepped) later
    rwa [List.append_assoc] at rest

/-- Names behind positions are refused exactly for the first fault among them. -/
theorem foldlM_takeName_eq_error_iff (takes : Takes params count [] taken) :
    names.foldlM (Param.takeName params) taken = .error error ↔
      FirstFault params count names error := by
  -- Up to any name that is reached the invariant holds, so that the step there fails for its fault.
  have refused : ∀ before other reached fault,
      before.foldlM (Param.takeName params) taken = .ok reached →
        (Param.takeName params reached other = .error fault ↔
          NameFault params count before other fault) := by
    intro before other reached fault succeeded
    have holds := takes.foldlM succeeded
    rw [List.nil_append] at holds
    exact takeName_eq_error_iff holds
  constructor
  · intro failed
    obtain ⟨earlier, name, later, reached, rfl, succeeded, stepped⟩ :=
      foldlM_eq_error_iff.mp failed
    refine ⟨earlier, name, later, rfl, (refused _ _ _ _ succeeded).mp stepped, ?_⟩
    rintro before other between rfl fault faulty
    rw [List.foldlM_append] at succeeded
    obtain ⟨middle, front, behind⟩ := exists_ok_of_bind succeeded
    have stops := (refused _ _ _ _ front).mpr faulty
    rw [List.foldlM_cons, stops] at behind
    cases behind
  · rintro ⟨earlier, name, later, rfl, faulty, first⟩
    cases front : earlier.foldlM (Param.takeName params) taken with
    | error fault =>
      obtain ⟨before, other, between, reached, split, succeeded, stepped⟩ :=
        foldlM_eq_error_iff.mp front
      exact absurd ((refused _ _ _ _ succeeded).mp stepped) (first before other between split fault)
    | ok reached =>
      exact foldlM_eq_error_iff.mpr
        ⟨earlier, name, later, reached, rfl, front, (refused _ _ _ _ front).mpr faulty⟩

end Param

/-! ### The outcome of a call -/

namespace Argument

/-- Where places are taken, the assignment is incomplete exactly if a required argument is
lacking. -/
theorem isIncomplete_iff_lacks {arguments : List Argument} {formals : List Param}
    {assignment : Assignment} {taken : List Nat} {count : Nat} {names : List String}
    (fills : Assignment.Fills arguments formals assignment taken)
    (takes : Param.Takes formals count names taken) :
    assignment.isIncomplete formals = true ↔ Param.Lacks formals count names := by
  have untaken : ∀ place, place ∉ taken ↔
      ¬ Param.IsPositioned formals count place ∧
        ∀ name ∈ names, ¬ Param.IsTarget formals name place := by
    intro place
    rw [takes place, not_or]
    simp
  have single : ∀ {param : Param}, param.kind.isRequired = true →
      param.kind.isVariadic = false := by
    intro param required
    cases kind : param.kind <;> first | rfl | (rw [kind] at required; cases required)
  rw [Assignment.isIncomplete, List.any_eq_true]
  constructor
  · rintro ⟨⟨param, group⟩, member, missing⟩
    rw [Bool.and_eq_true, List.isEmpty_iff] at missing
    obtain ⟨required, rfl⟩ := missing
    obtain ⟨place, found⟩ := List.mem_iff_getElem?.mp member
    obtain ⟨here, given⟩ := List.getElem?_zip_eq_some.mp found
    have empty := (fills.empty_iff place param here (single required)).mp given
    exact ⟨place, param, here, required, (untaken place).mp empty⟩
  · rintro ⟨place, param, here, required, free⟩
    have given :=
      (fills.empty_iff place param here (single required)).mpr ((untaken place).mpr free)
    have found : (formals.zip assignment.groups)[place]? = some (param, []) :=
      List.getElem?_zip_eq_some.mpr ⟨here, given⟩
    exact ⟨(param, []), List.mem_of_getElem? found, by rw [required]; rfl⟩

/-- An argument that cannot be given to a parameter decides the error. -/
theorem assign_of_distribute_eq_error {arguments : List Argument} {formals : List Param}
    {failure : ArgumentError} (failed : distribute arguments formals = .error failure) :
    assign arguments formals = .error failure := by
  rw [assign_eq_distribute, failed]
  rfl

/-- The outcome of a call with positions and then names. Positions that nobody takes make it fail
with "too many arguments", and nothing else does. Otherwise the first name with a fault decides the
error. Otherwise the call lacks a required argument and fails with "too few arguments", or it is
accepted. -/
theorem assign_outcome (formals : List Param) {positions keywords : List Argument}
    (byPosition : ∀ argument ∈ positions, argument.kind = .positional)
    (byName : ∀ argument ∈ keywords, argument.kind = .named) :
    (assign (positions ++ keywords) formals = .error .tooMany ↔
      Param.Overflows formals positions.length) ∧
    (¬ Param.Overflows formals positions.length →
      (∀ error, Param.FirstFault formals positions.length (keywords.map keyword) error →
        assign (positions ++ keywords) formals = .error error) ∧
      ((∀ error, ¬ Param.FirstFault formals positions.length (keywords.map keyword) error) →
        (assign (positions ++ keywords) formals = .error .tooFew ↔
          Param.Lacks formals positions.length (keywords.map keyword)) ∧
        (¬ Param.Lacks formals positions.length (keywords.map keyword) →
          ∃ groups, assign (positions ++ keywords) formals = .ok groups))) := by
  have tracks := distribute_tracks formals byPosition byName
  rw [Param.takenPlaces] at tracks
  rcases Param.takePositions_eq formals positions.length with
    ⟨overflows, refused⟩ | ⟨fits, places, accepted, takes⟩
  · rw [refused] at tracks
    obtain ⟨_, failed, rfl⟩ := tracks.exists_error
    have outcome := assign_of_distribute_eq_error failed
    exact ⟨iff_of_true outcome overflows, fun fits => absurd overflows fits⟩
  · rw [accepted] at tracks
    change Tracks _ _ _ ((keywords.map keyword).foldlM (Param.takeName formals) places) at tracks
    have faults : ∀ error,
        (keywords.map keyword).foldlM (Param.takeName formals) places = .error error ↔
          Param.FirstFault formals positions.length (keywords.map keyword) error :=
      fun _ => Param.foldlM_takeName_eq_error_iff takes
    cases run : (keywords.map keyword).foldlM (Param.takeName formals) places with
    | error fault =>
      rw [run] at tracks faults
      obtain ⟨failure, failed, rfl⟩ := tracks.exists_error
      have outcome := assign_of_distribute_eq_error failed
      have first := (faults failure).mp rfl
      have different : failure ≠ .tooMany := by
        rintro rfl
        obtain ⟨_, _, _, _, faulty, _⟩ := first
        cases faulty
      rw [outcome]
      refine ⟨iff_of_false (fun same => different (Except.error.inj same)) fits,
        fun _ => ⟨fun error faulty => ?_, fun none => absurd first (none _)⟩⟩
      rw [Except.error.inj ((faults error).mpr faulty)]
    | ok taken =>
      have allTaken := takes.foldlM run
      rw [List.nil_append] at allTaken
      rw [run] at tracks faults
      obtain ⟨assignment, distributed, fills⟩ := tracks.exists_ok
      have lacks := isIncomplete_iff_lacks fills allTaken
      have outcome : assign (positions ++ keywords) formals =
          if assignment.isIncomplete formals then .error .tooFew else .ok assignment.groups := by
        rw [assign_eq_distribute, distributed]
        rfl
      rw [outcome, ← lacks]
      refine ⟨iff_of_false ?_ fits, fun _ => ⟨fun error faulty => ?_, fun _ => ⟨?_, ?_⟩⟩⟩
      · split <;> rintro ⟨⟩
      · cases (faults error).mpr faulty
      · split <;> simp [*]
      · intro complete
        exact ⟨assignment.groups, if_neg complete⟩

/-- In `f(1, a=2, c=3)` for `f(a: int, b: str, *, key: bool)` three things are wrong: `a` has a
value already, there is no `c`, and `b` and `key` are missing. The first of them is reported. -/
theorem assign_outcome_of_three_faults :
    let formals : List Param := [⟨some "a", .positional, .int⟩, ⟨some "b", .positional, .str⟩,
      ⟨some "key", .named, .bool⟩]
    let positions : List Argument := [⟨.positional, none, .int⟩]
    let keywords : List Argument := [⟨.named, some "a", .int⟩, ⟨.named, some "c", .int⟩]
    ¬ Param.Overflows formals positions.length ∧
      Param.FirstFault formals positions.length (keywords.map keyword) (.multipleValues "a") ∧
      Param.Lacks formals positions.length (keywords.map keyword) ∧
      assign (positions ++ keywords) formals = .error (.multipleValues "a") := by
  intro formals positions keywords
  have byPosition : ∀ argument ∈ positions, argument.kind = .positional := by decide
  have byName : ∀ argument ∈ keywords, argument.kind = .named := by decide
  have fits : ¬ Param.Overflows formals positions.length :=
    fun overflows => absurd overflows.1 (by decide)
  have first : Param.FirstFault formals positions.length (keywords.map keyword)
      (.multipleValues "a") := by
    have target : Param.IsTarget formals "a" 0 := by decide +kernel
    have filled : Param.IsPositioned formals 1 0 := by decide +kernel
    exact ⟨[], "a", ["c"], rfl, .positioned target filled, by simp⟩
  have lacks : Param.Lacks formals positions.length (keywords.map keyword) :=
    ⟨1, ⟨some "b", .positional, .str⟩, rfl, rfl, by decide +kernel, by decide +kernel⟩
  exact ⟨fits, first, lacks, ((assign_outcome formals byPosition byName).2 fits).1 _ first⟩

end Argument

end Callwise
