import Callwise.Proofs.Call.TakenPlaces

/-!
# Assigning arguments loses and repeats none

`Argument.assign` goes through the arguments of a call, and each step puts the index of one argument
behind what some parameters have received. `Assignment.Gives` lists what a step can do: an unpacked
argument goes to any number of places, every other one to exactly one, which is the next positional
parameter, a parameter that collects arguments, or the parameter of a name that has received no
value.

Two invariants follow. Every argument that is not unpacked is owned by one parameter, and the
indices at each parameter increase. And as long as no position comes behind a name, a parameter that
takes one value is never given two: the positional parameters ahead of the cursor are untouched
until the first name, and a name only goes to a parameter without a value.
-/

namespace Callwise

variable {argument : Argument}

namespace Assignment

variable {arguments : List Argument} {formals : List Param} {before after : Assignment}
  {index : Nat}

/-! ### What a step can do -/

/-- The argument has been put behind what the parameters at certain places had received, and nothing
else has been given. -/
def Extends (before : Assignment) (index : Nat) (places : Nat → Bool) (after : Assignment) : Prop :=
  after.groups = before.groups.mapIdx fun place group =>
    if places place then group ++ [index] else group

namespace Extends

variable {places : Nat → Bool}

/-- There are as many groups as before. -/
theorem length (extended : before.Extends index places after) :
    after.groups.length = before.groups.length := by
  rw [extended, List.length_mapIdx]

/-- The group at a place comes from the one before. -/
theorem exists_before (extended : before.Extends index places after) {place : Nat}
    {group : List Nat} (found : after.groups[place]? = some group) :
    ∃ old, before.groups[place]? = some old ∧
      group = if places place then old ++ [index] else old := by
  rw [extended, List.getElem?_mapIdx] at found
  obtain ⟨old, here, rfl⟩ := Option.map_eq_some_iff.mp found
  exact ⟨old, here, rfl⟩

/-- Nothing is given before anything has been done. -/
theorem refl (before : Assignment) (index : Nat) :
    before.Extends index (fun _ => false) before := by
  apply List.ext_getElem?
  intro place
  simp

/-- Giving the argument to one more parameter. -/
theorem give (extended : before.Extends index places after) (place : Nat)
    (fresh : places place = false) :
    before.Extends index (fun other => places other || other == place)
      (after.give place index) := by
  apply List.ext_getElem?
  intro other
  rw [getElem?_groups_give, extended, List.getElem?_mapIdx, List.getElem?_mapIdx, Option.map_map]
  congr 1
  funext group
  by_cases same : place = other
  · subst same
    simp [fresh]
  · simp [same, Ne.symm same]

/-- Giving the argument to one more parameter if there is one. -/
theorem giveTo? (extended : before.Extends index places after) {formal : Option Nat}
    (fresh : ∀ place, formal = some place → places place = false) :
    ∃ more, before.Extends index more (after.giveTo? formal index) := by
  cases formal with
  | none => exact ⟨places, extended⟩
  | some place => exact ⟨_, extended.give place (fresh place rfl)⟩

/-- Giving the argument to each of several other parameters. -/
theorem foldl_give (extended : before.Extends index places after) {others : List Nat}
    (distinct : others.Nodup) (fresh : ∀ place ∈ others, places place = false) :
    before.Extends index (fun place => places place || others.contains place)
      (others.foldl (fun filled place => filled.give place index) after) := by
  induction others generalizing places after with
  | nil => simpa using extended
  | cons place others ih =>
    obtain ⟨foreign, restDistinct⟩ := List.nodup_cons.mp distinct
    have first := extended.give place (fresh place List.mem_cons_self)
    have restFresh : ∀ other ∈ others, (places other || other == place) = false := by
      intro other within
      have different : other ≠ place := fun same => foreign (same ▸ within)
      simp [fresh other (List.mem_cons_of_mem place within), different]
    have rest := ih first restDistinct restFresh
    simpa only [List.foldl_cons, List.contains_cons, Bool.or_assoc] using rest

end Extends

/-- What one more argument does. -/
inductive Gives (arguments : List Argument) (formals : List Param) (before : Assignment)
    (argument : Argument) (index : Nat) (after : Assignment) : Prop where
  /-- An unpacked argument goes to any number of parameters. -/
  | unpacked (places : Nat → Bool) (kind : argument.kind.isVariadic = true)
      (extended : before.Extends index places after)
      (passed : after.passed = before.passed ∨
        after.passed = (positionalIndices formals).length)
  /-- A position goes to the next positional parameter. -/
  | next (place : Nat) (kind : argument.kind.isPositional = true)
      (found : (positionalIndices formals)[before.passed]? = some place)
      (extended : before.Extends index (· == place) after)
      (passed : after.passed = before.passed + 1)
  /-- A position or a name goes to a parameter that collects what is left over. -/
  | collected (place : Nat) (param : Param) (kind : argument.kind.isVariadic = false)
      (found : formals[place]? = some param) (variadic : param.kind.isVariadic = true)
      (extended : before.Extends index (· == place) after) (passed : after.passed = before.passed)
  /-- A name goes to its parameter, which has received no value. -/
  | byName (place : Nat) (param : Param) (kind : argument.kind.isNamed = true)
      (found : formals[place]? = some param) (single : param.kind.isVariadic = false)
      (free : before.isExplicit arguments place = false)
      (extended : before.Extends index (· == place) after) (passed : after.passed = before.passed)

/-- Giving an argument to one parameter. -/
theorem extends_give (before : Assignment) (place index : Nat) :
    before.Extends index (· == place) (before.give place index) := by
  simpa using (Extends.refl before index).give place rfl

/-- No positional parameter is listed twice. -/
theorem nodup_positionalIndices (formals : List Param) : (positionalIndices formals).Nodup := by
  have sublist : (positionalIndices formals).Sublist (formals.zipIdx.map Prod.snd) :=
    List.Sublist.map _ List.filter_sublist
  refine sublist.nodup ?_
  rw [List.zipIdx_map_snd]
  exact List.nodup_range'

/-- A positional parameter is none that collects arguments. -/
theorem indexOfKind?_ne_of_mem {kind : ParamKind} (variadic : kind.isVariadic = true) {place : Nat}
    (member : place ∈ positionalIndices formals) : indexOfKind? formals kind ≠ some place := by
  intro found
  obtain ⟨param, here, positional⟩ := Param.exists_of_mem_positionalIndices member
  obtain ⟨other, alsoHere, rfl⟩ := Param.exists_of_indexOfKind? found
  obtain rfl : param = other := Option.some.inj (here.symm.trans alsoHere)
  rw [ParamKind.isVariadic_of_isPositional positional] at variadic
  cases variadic

/-- Giving an argument passes no positional parameter. -/
@[simp]
theorem passed_giveTo? (before : Assignment) (formal : Option Nat) (index : Nat) :
    (before.giveTo? formal index).passed = before.passed := by
  cases formal <;> rfl

/-- An unpacked list goes to the positional parameters ahead and to the star parameter. -/
theorem gives_giveStar (arguments : List Argument) (formals : List Param) (before : Assignment)
    (kind : argument.kind = .star) (index : Nat) :
    Gives arguments formals before argument index (before.giveStar formals index) := by
  have distinct : ((positionalIndices formals).drop before.passed).Nodup :=
    (List.drop_sublist _ _).nodup (nodup_positionalIndices formals)
  have filled := (Extends.refl before index).foldl_give distinct fun _ _ => rfl
  have fresh : ∀ place, indexOfKind? formals .star = some place →
      (false || ((positionalIndices formals).drop before.passed).contains place) = false := by
    intro place found
    rw [Bool.false_or, List.contains_eq_mem, decide_eq_false_iff_not]
    intro member
    exact indexOfKind?_ne_of_mem rfl (List.mem_of_mem_drop member) found
  have moved : before.Extends index
      (fun place => false || ((positionalIndices formals).drop before.passed).contains place)
      { ((positionalIndices formals).drop before.passed).foldl
          (fun filled formal => filled.give formal index) before with
        passed := (positionalIndices formals).length } := filled
  obtain ⟨places, extended⟩ := moved.giveTo? fresh
  exact .unpacked places (by rw [kind]; rfl) extended (.inr (passed_giveTo? _ _ _))

/-- The parameters that an unpacked dictionary reaches: a name leads there, and they have received
nothing. -/
def isUnnamedYet (formals : List Param) (before : Assignment) (place : Nat) : Bool :=
  formals[place]?.any (fun param => !param.kind.isVariadic && param.name.isSome) &&
    before.groups[place]? == some []

/-- An unpacked dictionary goes to the parameters that a name could still reach and to the
double-star parameter. -/
theorem gives_giveDoubleStar (arguments : List Argument) {formals : List Param}
    {before : Assignment} (length : before.groups.length = formals.length)
    (kind : argument.kind = .doubleStar) (index : Nat) :
    Gives arguments formals before argument index (before.giveDoubleStar formals index) := by
  have moved : before.Extends index (isUnnamedYet formals before)
      ⟨List.zipWith (fun (param : Param) group =>
          if !param.kind.isVariadic && param.name.isSome && group.isEmpty then [index] else group)
        formals before.groups, before.passed⟩ := by
    apply List.ext_getElem?
    intro place
    rw [List.getElem?_mapIdx, List.getElem?_zipWith]
    cases here : formals[place]? with
    | none =>
      have outside : before.groups[place]? = none := by
        rw [List.getElem?_eq_none_iff] at here ⊢
        omega
      simp [outside]
    | some param =>
      cases found : before.groups[place]? with
      | none => rfl
      | some group => cases group <;> simp [isUnnamedYet, here, found]
  have fresh : ∀ place, indexOfKind? formals .doubleStar = some place →
      isUnnamedYet formals before place = false := by
    intro place found
    obtain ⟨param, here, same⟩ := Param.exists_of_indexOfKind? found
    simp [isUnnamedYet, here, same, ParamKind.isVariadic]
  obtain ⟨places, extended⟩ := moved.giveTo? fresh
  exact .unpacked places (by rw [kind]; rfl) extended (.inl (passed_giveTo? _ _ _))

/-- A name goes to its parameter, or to the double-star parameter. -/
theorem gives_giveNamed (kind : argument.kind.isNamed = true) {name : String}
    (given : before.giveNamed arguments formals index name = .ok after) :
    Gives arguments formals before argument index after := by
  have explicit : argument.kind.isVariadic = false := by
    cases same : argument.kind <;> first | rfl | (rw [same] at kind; cases kind)
  unfold giveNamed at given
  split at given
  · rename_i place reached
    obtain ⟨param, here, single⟩ := Param.exists_of_indexOfName? reached
    split at given
    · cases given
    · rename_i free
      cases given
      exact .byName place param kind here single (by simpa using free)
        (extends_give before place index) rfl
  · split at given
    · rename_i place found
      obtain ⟨param, here, same⟩ := Param.exists_of_indexOfKind? found
      cases given
      exact .collected place param explicit here (by rw [same]; rfl)
        (extends_give before place index) rfl
    · cases given

/-- A position goes to the next positional parameter, or to the star parameter. -/
theorem gives_givePositional (kind : argument.kind.isPositional = true)
    (given : before.givePositional formals index = .ok after) :
    Gives arguments formals before argument index after := by
  unfold givePositional at given
  split at given
  · rename_i place found
    cases given
    exact .next place kind found (extends_give before place index) rfl
  · split at given
    · rename_i place found
      obtain ⟨param, here, same⟩ := Param.exists_of_indexOfKind? found
      cases given
      exact .collected place param (ParamKind.isVariadic_of_isPositional kind) here
        (by rw [same]; rfl) (extends_give before place index) rfl
    · cases given

/-- A step that succeeds does one of the four things. -/
theorem gives_of_step (length : before.groups.length = formals.length)
    (stepped : step arguments formals before (argument, index) = .ok after) :
    Gives arguments formals before argument index after := by
  simp only [step] at stepped
  split at stepped
  · rename_i kind
    cases stepped
    exact gives_giveStar arguments formals before kind index
  · rename_i kind
    cases stepped
    exact gives_giveDoubleStar arguments length kind index
  · rename_i kind
    exact gives_giveNamed (by rw [kind]; rfl) stepped
  · rename_i kind
    exact gives_giveNamed (by rw [kind]; rfl) stepped
  · rename_i kind
    exact gives_givePositional (by rw [kind]; rfl) stepped
  · rename_i kind
    exact gives_givePositional (by rw [kind]; rfl) stepped

end Assignment

/-! ### What every step keeps -/

namespace Argument

variable {arguments : List Argument} {formals : List Param} {final : Assignment}

/-- What holds at some argument, and is kept by every step, holds after the arguments from there
on. -/
theorem holds_of_steps (holds : Nat → Assignment → Prop)
    (step : ∀ index argument before after, arguments[index]? = some argument →
      holds index before → Assignment.step arguments formals before (argument, index) = .ok after →
        holds (index + 1) after)
    {rest : List Argument} {index : Nat} {before : Assignment}
    (toCome : arguments.drop index = rest) (reached : holds index before)
    (done : (rest.zipIdx index).foldlM (Assignment.step arguments formals) before = .ok final) :
    holds (index + rest.length) final := by
  induction rest generalizing index before with
  | nil =>
    cases done
    exact reached
  | cons argument rest ih =>
    have current : arguments[index]? = some argument := by
      rw [← List.head?_drop, toCome, List.head?_cons]
    have laterToCome : arguments.drop (index + 1) = rest := by
      rw [← List.tail_drop, toCome, List.tail_cons]
    rw [List.zipIdx_cons, List.foldlM_cons] at done
    cases stepped : Assignment.step arguments formals before (argument, index) with
    | error error =>
      rw [stepped] at done
      cases done
    | ok after =>
      rw [stepped] at done
      have next := step index argument before after current reached stepped
      have last := ih laterToCome next done
      rwa [Nat.add_assoc, Nat.add_comm 1, ← List.length_cons] at last

/-- What holds before the first argument, and is kept by every step, holds after all arguments. -/
theorem distribute_induction (holds : Nat → Assignment → Prop)
    (start : holds 0 ⟨formals.map fun _ => [], 0⟩)
    (step : ∀ index argument before after, arguments[index]? = some argument →
      holds index before → Assignment.step arguments formals before (argument, index) = .ok after →
        holds (index + 1) after)
    (done : distribute arguments formals = .ok final) : holds arguments.length final := by
  have whole := holds_of_steps holds step List.drop_zero start done
  rwa [Nat.zero_add] at whole

end Argument

namespace Assignment

variable {arguments : List Argument} {formals : List Param} {before after : Assignment}
  {index : Nat} {places : Nat → Bool}

/-! ### Every argument has its place -/

/-- The argument has been given to one parameter and to no other. -/
def HasPlace (assignment : Assignment) (index : Nat) : Prop :=
  ∃ (place : Nat) (group : List Nat), assignment.groups[place]? = some group ∧ index ∈ group ∧
    ∀ (other : Nat) (otherGroup : List Nat), assignment.groups[other]? = some otherGroup →
      index ∈ otherGroup → other = place

/-- The first arguments have been given: each group lists some of them in order, and each that is
not unpacked is in one group only. -/
structure Accounts (arguments : List Argument) (formals : List Param) (done : Nat)
    (assignment : Assignment) : Prop where
  length : assignment.groups.length = formals.length
  earlier : ∀ (place : Nat) (group : List Nat), assignment.groups[place]? = some group →
    ∀ index ∈ group, index < done
  increasing : ∀ (place : Nat) (group : List Nat), assignment.groups[place]? = some group →
    group.Pairwise (· < ·)
  owned : ∀ index < done, Argument.isExplicitAt arguments index = true →
    assignment.HasPlace index

/-- Before the first argument all groups are empty. -/
theorem accounts_start (arguments : List Argument) (formals : List Param) :
    Accounts arguments formals 0 ⟨formals.map fun _ => [], 0⟩ where
  length := by simp
  earlier := by
    intro place group found index member
    obtain ⟨_, _, rfl⟩ := Option.map_eq_some_iff.mp (List.getElem?_map ▸ found)
    cases member
  increasing := by
    intro place group found
    obtain ⟨_, _, rfl⟩ := Option.map_eq_some_iff.mp (List.getElem?_map ▸ found)
    exact List.Pairwise.nil
  owned := by
    intro index impossible
    cases impossible

/-- An argument that is not unpacked goes to one place. -/
theorem Gives.exists_place (gives : Gives arguments formals before argument index after)
    (explicit : argument.kind.isVariadic = false) :
    ∃ place < formals.length, before.Extends index (· == place) after := by
  cases gives with
  | unpacked places kind extended passed =>
    rw [explicit] at kind
    cases kind
  | next place kind found extended passed =>
    obtain ⟨param, here, _⟩ :=
      Param.exists_of_mem_positionalIndices (List.mem_of_getElem? found)
    exact ⟨place, (List.getElem?_eq_some_iff.mp here).1, extended⟩
  | collected place param kind found variadic extended passed =>
    exact ⟨place, (List.getElem?_eq_some_iff.mp found).1, extended⟩
  | byName place param kind found single free extended passed =>
    exact ⟨place, (List.getElem?_eq_some_iff.mp found).1, extended⟩

/-- Every step goes to some places. -/
theorem Gives.exists_extends (gives : Gives arguments formals before argument index after) :
    ∃ places, before.Extends index places after := by
  cases gives with
  | unpacked places kind extended passed => exact ⟨places, extended⟩
  | next place kind found extended passed => exact ⟨_, extended⟩
  | collected place param kind found variadic extended passed => exact ⟨_, extended⟩
  | byName place param kind found single free extended passed => exact ⟨_, extended⟩

/-- An index in an extended group is the new one or was there before. -/
theorem Extends.mem_cases (extended : before.Extends index places after) {place : Nat}
    {group : List Nat} (found : after.groups[place]? = some group) {other : Nat}
    (member : other ∈ group) :
    (other = index ∧ places place = true) ∨
      ∃ old, before.groups[place]? = some old ∧ other ∈ old := by
  obtain ⟨old, here, rfl⟩ := extended.exists_before found
  by_cases given : places place = true
  · rw [if_pos given] at member
    rcases List.mem_append.mp member with earlier | new
    · exact .inr ⟨old, here, earlier⟩
    · exact .inl ⟨List.mem_singleton.mp new, given⟩
  · rw [if_neg given] at member
    exact .inr ⟨old, here, member⟩

/-- What was in a group stays there. -/
theorem Extends.mem_of_mem (extended : before.Extends index places after) {place : Nat}
    {old : List Nat} (found : before.groups[place]? = some old) :
    ∃ group, after.groups[place]? = some group ∧ (∀ other ∈ old, other ∈ group) ∧
      (places place = true → index ∈ group) := by
  refine ⟨if places place then old ++ [index] else old, ?_, ?_, ?_⟩
  · rw [extended, List.getElem?_mapIdx, found]
    rfl
  · intro other member
    split
    · exact List.mem_append_left _ member
    · exact member
  · intro given
    rw [if_pos given]
    exact List.mem_append_right _ List.mem_cons_self

/-- An argument that was nowhere before has its place when it has been given to one parameter. -/
theorem Extends.hasPlace {place : Nat} (extended : before.Extends index (· == place) after)
    (room : place < before.groups.length)
    (nowhere : ∀ (other : Nat) (group : List Nat), before.groups[other]? = some group →
      index ∉ group) : after.HasPlace index := by
  obtain ⟨group, found, _, given⟩ := extended.mem_of_mem (List.getElem?_eq_getElem room)
  refine ⟨place, group, found, given (beq_self_eq_true place), ?_⟩
  intro other otherGroup alsoFound member
  rcases extended.mem_cases alsoFound member with ⟨_, same⟩ | ⟨old, earlier, inside⟩
  · exact beq_iff_eq.mp same
  · exact absurd inside (nowhere other old earlier)

/-- An argument that has its place keeps it when another one is given. -/
theorem HasPlace.of_extends {other : Nat} (hasPlace : before.HasPlace other)
    (extended : before.Extends index places after) (different : other ≠ index) :
    after.HasPlace other := by
  obtain ⟨place, group, found, member, unique⟩ := hasPlace
  obtain ⟨larger, foundAfter, kept, _⟩ := extended.mem_of_mem found
  refine ⟨place, larger, foundAfter, kept other member, ?_⟩
  intro elsewhere otherGroup alsoFound otherMember
  rcases extended.mem_cases alsoFound otherMember with ⟨same, _⟩ | ⟨smaller, earlier, inside⟩
  · exact absurd same different
  · exact unique elsewhere smaller earlier inside

/-- A step keeps account of the arguments. -/
theorem Accounts.step (accounts : Accounts arguments formals index before)
    (current : arguments[index]? = some argument)
    (gives : Gives arguments formals before argument index after) :
    Accounts arguments formals (index + 1) after := by
  obtain ⟨places, extended⟩ := gives.exists_extends
  refine ⟨extended.length.trans accounts.length, ?_, ?_, ?_⟩
  · intro place group found other member
    rcases extended.mem_cases found member with ⟨rfl, _⟩ | ⟨old, earlier, inside⟩
    · exact Nat.lt_succ_self other
    · exact Nat.lt_succ_of_lt (accounts.earlier place old earlier other inside)
  · intro place group found
    obtain ⟨old, earlier, rfl⟩ := extended.exists_before found
    have ordered := accounts.increasing place old earlier
    split
    · rw [List.pairwise_append]
      refine ⟨ordered, List.pairwise_singleton _ _, ?_⟩
      intro first inside second last
      rw [List.mem_singleton.mp last]
      exact accounts.earlier place old earlier first inside
    · exact ordered
  · intro other bound explicit
    by_cases new : other = index
    · subst new
      have notUnpacked : argument.kind.isVariadic = false := by
        simpa [Argument.isExplicitAt, current] using explicit
      obtain ⟨place, inside, single⟩ := gives.exists_place notUnpacked
      refine single.hasPlace (accounts.length.symm ▸ inside) ?_
      intro elsewhere group found member
      exact Nat.lt_irrefl other (accounts.earlier elsewhere group found other member)
    · exact (accounts.owned other (by omega) explicit).of_extends extended new

/-! ### One value for each parameter -/

/-- How many arguments the parameter has received that are not unpacked. -/
def valueCount (arguments : List Argument) (assignment : Assignment) (place : Nat) : Nat :=
  (assignment.groups[place]?.getD []).countP (Argument.isExplicitAt arguments)

/-- No value has been given where the assignment sees none. -/
theorem valueCount_eq_zero {assignment : Assignment} {place : Nat}
    (free : assignment.isExplicit arguments place = false) :
    assignment.valueCount arguments place = 0 := by
  rw [valueCount, List.countP_eq_zero]
  exact List.any_eq_false.mp free

/-- A step adds at most the value it gives, and only where it gives it. -/
theorem Extends.valueCount_le (extended : before.Extends index places after)
    (arguments : List Argument) (place : Nat) :
    after.valueCount arguments place ≤ before.valueCount arguments place +
      if places place && Argument.isExplicitAt arguments index then 1 else 0 := by
  rw [valueCount, valueCount, extended, List.getElem?_mapIdx]
  cases before.groups[place]? with
  | none => exact Nat.zero_le _
  | some old => cases places place <;> simp [List.countP_singleton]

/-- The parameters ahead of the cursor, which the next positions go to. -/
def ahead (formals : List Param) (assignment : Assignment) : List Nat :=
  (positionalIndices formals).drop assignment.passed

/-- A position is still to come. -/
def Awaits (arguments : List Argument) (done : Nat) : Prop :=
  ∃ later argument, done ≤ later ∧ arguments[later]? = some argument ∧
    argument.kind.isPositional = true

/-- No parameter has two values, and those that a position could still reach have none. -/
structure Single (arguments : List Argument) (formals : List Param) (done : Nat)
    (assignment : Assignment) : Prop where
  once : ∀ place param, formals[place]? = some param → param.kind.isVariadic = false →
    assignment.valueCount arguments place ≤ 1
  untouched : Awaits arguments done → ∀ place ∈ ahead formals assignment,
    assignment.valueCount arguments place = 0

/-- A position that comes behind the next argument is to come now. -/
theorem Awaits.of_succ {done : Nat} (awaits : Awaits arguments (done + 1)) :
    Awaits arguments done := by
  obtain ⟨later, argument, behind, here, positional⟩ := awaits
  exact ⟨later, argument, by omega, here, positional⟩

/-- Before the first argument no parameter has a value. -/
theorem single_start (arguments : List Argument) (formals : List Param) :
    Single arguments formals 0 ⟨formals.map fun _ => [], 0⟩ := by
  have nothing : ∀ place, valueCount arguments ⟨formals.map fun _ => [], 0⟩ place = 0 := by
    intro place
    rw [valueCount, List.getElem?_map]
    cases formals[place]? <;> rfl
  refine ⟨?_, ?_⟩
  · intro place _ _ _
    rw [nothing place]
    exact Nat.zero_le 1
  · intro _ place _
    exact nothing place

/-- A parameter ahead of the cursor takes one value. -/
theorem exists_of_mem_ahead {assignment : Assignment} {place : Nat}
    (member : place ∈ ahead formals assignment) :
    ∃ param, formals[place]? = some param ∧ param.kind.isVariadic = false := by
  obtain ⟨param, here, positional⟩ :=
    Param.exists_of_mem_positionalIndices (List.mem_of_mem_drop member)
  exact ⟨param, here, ParamKind.isVariadic_of_isPositional positional⟩

namespace Single

variable {argument : Argument}

/-- A step that gives no value to a parameter that takes one keeps the invariant, if it brings no
other parameter ahead of the cursor. -/
theorem of_unchanged (single : Single arguments formals index before)
    (unchanged : ∀ place param, formals[place]? = some param → param.kind.isVariadic = false →
      after.valueCount arguments place ≤ before.valueCount arguments place)
    (cursor : ∀ place ∈ ahead formals after, place ∈ ahead formals before) :
    Single arguments formals (index + 1) after where
  once := by
    intro place param here takesOne
    exact Nat.le_trans (unchanged place param here takesOne) (single.once place param here takesOne)
  untouched := by
    intro awaits place member
    obtain ⟨param, here, takesOne⟩ := exists_of_mem_ahead member
    have before := single.untouched awaits.of_succ place (cursor place member)
    have noMore := unchanged place param here takesOne
    omega

/-- A step that gives one value to a parameter without any keeps that there is at most one. -/
theorem once_of_free (single : Single arguments formals index before) {target : Nat}
    (free : before.valueCount arguments target = 0)
    (extended : before.Extends index (· == target) after) (place : Nat) (param : Param)
    (here : formals[place]? = some param) (takesOne : param.kind.isVariadic = false) :
    after.valueCount arguments place ≤ 1 := by
  have bound := extended.valueCount_le arguments place
  by_cases same : place = target
  · subst same
    rw [free] at bound
    split at bound <;> omega
  · have kept := single.once place param here takesOne
    simp only [beq_eq_false_iff_ne.mpr same, Bool.false_and, Bool.false_eq_true, if_false] at bound
    omega

/-- A step keeps that no parameter has two values, as long as no position comes behind a name. -/
theorem step (single : Single arguments formals index before)
    (ordered : arguments.Pairwise fun earlier later =>
      earlier.kind.isNamed = true → later.kind.isPositional = false)
    (current : arguments[index]? = some argument)
    (gives : Gives arguments formals before argument index after) :
    Single arguments formals (index + 1) after := by
  cases gives with
  | unpacked places kind extended passed =>
    have unpacked : Argument.isExplicitAt arguments index = false := by
      simp [Argument.isExplicitAt, current, kind]
    refine single.of_unchanged ?_ ?_
    · intro place _ _ _
      simpa [unpacked] using extended.valueCount_le arguments place
    · intro place member
      rcases passed with same | all
      · rwa [ahead, same] at member
      · rw [ahead, all, List.drop_length] at member
        cases member
  | next target kind found extended passed =>
    -- the cursor stands at the target, so it has no value yet and is passed now
    have cursor : ahead formals before = target :: ahead formals after := by
      obtain ⟨bound, rfl⟩ := List.getElem?_eq_some_iff.mp found
      rw [ahead, ahead, passed]
      exact List.drop_eq_getElem_cons bound
    have untouched := single.untouched ⟨index, argument, Nat.le_refl index, current, kind⟩
    have free := untouched target (cursor ▸ List.mem_cons_self)
    refine ⟨single.once_of_free free extended, ?_⟩
    intro _ place member
    have foreign : target ∉ ahead formals after := by
      have distinct : (ahead formals before).Nodup :=
        (List.drop_sublist _ _).nodup (nodup_positionalIndices formals)
      rw [cursor] at distinct
      exact (List.nodup_cons.mp distinct).1
    have different : place ≠ target := fun same => foreign (same ▸ member)
    have bound := extended.valueCount_le arguments place
    rw [untouched place (cursor ▸ List.mem_cons_of_mem target member)] at bound
    simpa [different] using bound
  | collected target param kind found variadic extended passed =>
    refine single.of_unchanged ?_ ?_
    · intro place other here takesOne
      have different : place ≠ target := by
        rintro rfl
        obtain rfl : param = other := Option.some.inj (found.symm.trans here)
        rw [takesOne] at variadic
        cases variadic
      simpa [different] using extended.valueCount_le arguments place
    · intro place member
      rwa [ahead, passed] at member
  | byName target param kind found takesOne free extended passed =>
    refine ⟨single.once_of_free (valueCount_eq_zero free) extended, ?_⟩
    -- a name has come, so no position comes any more
    rintro ⟨later, position, behind, here, positional⟩
    have never := List.pairwise_iff_getElem.mp ordered
    obtain ⟨bound, rfl⟩ := List.getElem?_eq_some_iff.mp current
    obtain ⟨laterBound, rfl⟩ := List.getElem?_eq_some_iff.mp here
    rw [never index later bound laterBound behind kind] at positional
    cases positional

end Single

end Assignment

/-! ### The whole assignment -/

namespace Argument

variable {arguments : List Argument} {formals : List Param}

/-- Arguments that have been assigned have been distributed, with nothing missing. -/
theorem exists_distribute_of_assign {groups : List (List Nat)}
    (assigned : assign arguments formals = .ok groups) :
    ∃ final, distribute arguments formals = .ok final ∧ final.isIncomplete formals = false ∧
      final.groups = groups := by
  rw [assign_eq_distribute] at assigned
  cases done : distribute arguments formals with
  | error error =>
    rw [done] at assigned
    cases assigned
  | ok final =>
    rw [done] at assigned
    have checked : (if final.isIncomplete formals then Except.error ArgumentError.tooFew
        else .ok final.groups) = .ok groups := assigned
    split at checked
    · cases checked
    · rename_i complete
      cases checked
      exact ⟨final, rfl, by simpa using complete, rfl⟩

/-- Where nothing is missing, every parameter without a default has received something. -/
theorem ne_nil_of_complete {final : Assignment} (complete : final.isIncomplete formals = false)
    {place : Nat} {param : Param} {group : List Nat} (here : formals[place]? = some param)
    (required : param.kind = .positional ∨ param.kind = .named)
    (found : final.groups[place]? = some group) : group ≠ [] := by
  rintro rfl
  have paired : (param, []) ∈ formals.zip final.groups := by
    refine List.mem_of_getElem? (i := place) ?_
    rw [List.getElem?_zip_eq_some]
    exact ⟨here, found⟩
  have nothing := List.any_eq_false.mp complete (param, []) paired
  rcases required with kind | kind <;> simp [kind, ParamKind.isRequired] at nothing

/-- All arguments are accounted for when they have been distributed, and no parameter has two
values if no position came behind a name. -/
theorem invariants_of_distribute {final : Assignment}
    (done : distribute arguments formals = .ok final) :
    Assignment.Accounts arguments formals arguments.length final ∧
      ((arguments.Pairwise fun earlier later =>
          earlier.kind.isNamed = true → later.kind.isPositional = false) →
        Assignment.Single arguments formals arguments.length final) := by
  refine distribute_induction (fun index assignment =>
    Assignment.Accounts arguments formals index assignment ∧ (_ →
      Assignment.Single arguments formals index assignment)) ?start ?step done
  case start =>
    exact ⟨Assignment.accounts_start arguments formals,
      fun _ => Assignment.single_start arguments formals⟩
  case step =>
    rintro index argument before after current ⟨accounts, single⟩ stepped
    have gives := Assignment.gives_of_step accounts.length stepped
    exact ⟨accounts.step current gives,
      fun ordered => (single ordered).step ordered current gives⟩

/-- Assigning arguments loses and repeats none. There is a group for each parameter, which lists
indices of arguments in order; every argument that is not unpacked is in one group, once; and every
parameter without a default, by position or by name, has received something. If no position comes
behind a name, a parameter that takes one value has received at most one argument that is not
unpacked. -/
theorem assign_loses_nothing {groups : List (List Nat)}
    (assigned : assign arguments formals = .ok groups) :
    groups.length = formals.length ∧
    (∀ group ∈ groups, ∀ index ∈ group, index < arguments.length) ∧
    (∀ group ∈ groups, group.Pairwise (· < ·)) ∧
    (∀ index argument, arguments[index]? = some argument → argument.kind.isVariadic = false →
      ∃ (place : Nat) (group : List Nat), groups[place]? = some group ∧ group.count index = 1 ∧
        ∀ (other : Nat) (otherGroup : List Nat), groups[other]? = some otherGroup →
          index ∈ otherGroup → other = place) ∧
    (∀ (place : Nat) (param : Param) (group : List Nat), formals[place]? = some param →
      groups[place]? = some group → param.kind = .positional ∨ param.kind = .named →
        group ≠ []) ∧
    ((arguments.Pairwise fun earlier later =>
        earlier.kind.isNamed = true → later.kind.isPositional = false) →
      ∀ (place : Nat) (param : Param) (group : List Nat), formals[place]? = some param →
        groups[place]? = some group → param.kind.isVariadic = false →
          group.countP (isExplicitAt arguments) ≤ 1) := by
  obtain ⟨final, done, complete, rfl⟩ := exists_distribute_of_assign assigned
  obtain ⟨accounts, single⟩ := invariants_of_distribute done
  refine ⟨accounts.length, ?_, ?_, ?_, ?_, ?_⟩
  · intro group member
    obtain ⟨place, found⟩ := List.mem_iff_getElem?.mp member
    exact accounts.earlier place group found
  · intro group member
    obtain ⟨place, found⟩ := List.mem_iff_getElem?.mp member
    exact accounts.increasing place group found
  · intro index argument current notUnpacked
    have bound : index < arguments.length := (List.getElem?_eq_some_iff.mp current).1
    have explicit : isExplicitAt arguments index = true := by
      simp [isExplicitAt, current, notUnpacked]
    obtain ⟨place, group, found, member, unique⟩ := accounts.owned index bound explicit
    have distinct : group.Nodup := (accounts.increasing place group found).imp Nat.ne_of_lt
    have once : group.count index = 1 := by rw [distinct.count, if_pos member]
    exact ⟨place, group, found, once, unique⟩
  · intro place param group here found required
    exact ne_nil_of_complete complete here required found
  · intro ordered place param group here found takesOne
    have once := (single ordered).once place param here takesOne
    rwa [Assignment.valueCount, found] at once

/-- The call `f(0, *items, c=0, **table, z=0)`. -/
def mixedCall : List Argument :=
  [⟨.positional, none, .int⟩, ⟨.star, none, .list .int⟩, ⟨.named, some "c", .int⟩,
    ⟨.doubleStar, none, .dict .str .int⟩, ⟨.named, some "z", .int⟩]

/-- The parameters `(a: int, b: int = ..., *rest: int, c: int, **others: int)`. -/
def mixedParams : List Param :=
  [⟨some "a", .positional, .int⟩, ⟨some "b", .optional, .int⟩, ⟨some "rest", .star, .int⟩,
    ⟨some "c", .named, .int⟩, ⟨some "others", .doubleStar, .int⟩]

/-- The unpacked list goes to two parameters, and every other argument to one. Both parameters
without a default, `a` and `c`, have received something. -/
theorem assign_loses_nothing_of_mixedCall :
    assign mixedCall mixedParams = .ok [[0], [1], [1], [2], [3, 4]] ∧
    (mixedCall.Pairwise fun earlier later =>
      earlier.kind.isNamed = true → later.kind.isPositional = false) ∧
    (∃ (place : Nat) (group : List Nat),
      [[0], [1], [1], [2], [3, 4]][place]? = some group ∧ group.count 4 = 1 ∧
        ∀ (other : Nat) (otherGroup : List Nat),
          [[0], [1], [1], [2], [3, 4]][other]? = some otherGroup → 4 ∈ otherGroup →
            other = place) ∧
    (∀ (place : Nat) (param : Param) (group : List Nat), mixedParams[place]? = some param →
      [[0], [1], [1], [2], [3, 4]][place]? = some group →
        param.name = some "a" ∨ param.name = some "c" → group ≠ []) ∧
    [2].countP (isExplicitAt mixedCall) ≤ 1 := by
  have assigned : assign mixedCall mixedParams = .ok [[0], [1], [1], [2], [3, 4]] := rfl
  have ordered : mixedCall.Pairwise fun earlier later =>
      earlier.kind.isNamed = true → later.kind.isPositional = false := by decide +kernel
  obtain ⟨_, _, _, owned, served, single⟩ := assign_loses_nothing assigned
  refine ⟨assigned, ordered, owned 4 ⟨.named, some "z", .int⟩ rfl rfl, ?_,
    single ordered 3 ⟨some "c", .named, .int⟩ [2] rfl rfl rfl⟩
  intro place param group here found named
  have required : ∀ param ∈ mixedParams, param.name = some "a" ∨ param.name = some "c" →
      param.kind = .positional ∨ param.kind = .named := by decide +kernel
  exact served place param group here found (required param (List.mem_of_getElem? here) named)

end Argument

end Callwise
