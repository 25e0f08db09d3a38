import Callwise.Call.Arguments

/-!
# Who receives what in a plain call

A plain call passes some arguments by position and some by name, and unpacks nothing. For
parameters without a star the outcome can be told parameter by parameter: a positional parameter
takes the next position if there is one, otherwise a parameter takes the one argument that names
it, otherwise it stays free. Positions that are left over, a name that no parameter answers to, and
a second argument for one parameter are refused. `Param.seats` says this by recursion over the
parameters.

Programs go through the arguments instead and fill one parameter after another. The two step lemmas
say what one more argument changes: it takes the seat at the next position, or the seat of the
first parameter that answers to its name, and that seat must be free. What kind of thing an
argument is does not matter here; `Param.seats_map` replaces indices of arguments by their types.
-/

namespace Callwise

/-- The name leads to the parameter. -/
def Param.answersTo (param : Param) (name : String) : Bool :=
  !param.kind.isVariadic && param.name == some name

/-- What a parameter receives in a plain call. -/
inductive Seat (α : Type) where
  | free
  | byPosition (argument : α)
  | byName (argument : α)

namespace Seat

variable {α β : Type}

/-- The argument on the seat. -/
def argument? : Seat α → Option α
  | free => none
  | byPosition argument | byName argument => some argument

@[simp]
theorem argument?_free : (free : Seat α).argument? = none := rfl

@[simp]
theorem argument?_byPosition (argument : α) : (byPosition argument).argument? = some argument :=
  rfl

@[simp]
theorem argument?_byName (argument : α) : (byName argument).argument? = some argument := rfl

/-- There is no argument on the seat. -/
def isFree (seat : Seat α) : Bool := seat.argument?.isNone

/-- Only the free seat has no argument. -/
theorem isFree_iff (seat : Seat α) : seat.isFree = true ↔ seat = free := by
  cases seat <;> simp [isFree]

/-- The list of arguments on a seat is empty if the seat is free. -/
@[simp]
theorem isEmpty_toList_argument? (seat : Seat α) :
    seat.argument?.toList.isEmpty = seat.isFree := by
  cases seat <;> rfl

/-- The same seat with another argument. -/
def map (change : α → β) : Seat α → Seat β
  | free => free
  | byPosition argument => byPosition (change argument)
  | byName argument => byName (change argument)

@[simp]
theorem argument?_map (change : α → β) (seat : Seat α) :
    (seat.map change).argument? = seat.argument?.map change := by
  cases seat <;> rfl

@[simp]
theorem isFree_map (change : α → β) (seat : Seat α) : (seat.map change).isFree = seat.isFree := by
  cases seat <;> rfl

/-- Give the seat at some place to an argument, if there is one and it is free. -/
def claim (placed : List (Seat α)) (place : Nat) (seat : Seat α) : Option (List (Seat α)) :=
  if placed[place]?.any isFree then some (placed.set place seat) else none

/-- Whether a seat can be claimed depends on who sits there. -/
theorem claim_of_found {placed : List (Seat α)} {place : Nat} {before : Seat α}
    (found : placed[place]? = some before) (seat : Seat α) :
    claim placed place seat = if before.isFree then some (placed.set place seat) else none := by
  simp [claim, found]

/-- A free seat can be claimed. -/
theorem claim_of_free {placed : List (Seat α)} {place : Nat} (seat : Seat α)
    (unclaimed : placed[place]? = some free) :
    claim placed place seat = some (placed.set place seat) := by
  simp [claim, unclaimed, isFree]

/-- A seat that is missing or has an argument cannot be claimed. -/
theorem claim_of_not_free {placed : List (Seat α)} {place : Nat} (seat : Seat α)
    (unavailable : placed[place]? ≠ some free) : claim placed place seat = none := by
  cases found : placed[place]? with
  | none => simp [claim, found]
  | some before =>
    have taken : before.isFree = false := by
      rw [Bool.eq_false_iff]
      intro isFree
      exact unavailable (by rw [found, (isFree_iff before).mp isFree])
    simp [claim, found, taken]

/-- The seats behind the first are numbered one higher. -/
theorem claim_succ (first : Seat α) (placed : List (Seat α)) (place : Nat) (seat : Seat α) :
    claim (first :: placed) (place + 1) seat = (claim placed place seat).map (first :: ·) := by
  simp only [claim, List.getElem?_cons_succ, List.set_cons_succ]
  split <;> rfl

/-- The same of a place that may be missing. -/
theorem bind_claim_succ (first : Seat α) (placed : List (Seat α)) (place? : Option Nat)
    (seat : Seat α) :
    ((place?.map (· + 1)).bind fun place => claim (first :: placed) place seat) =
      (place?.bind fun place => claim placed place seat).map (first :: ·) := by
  cases place? with
  | none => rfl
  | some place => exact claim_succ first placed place seat

/-- The first seat can be claimed if it is free. -/
theorem claim_zero (first : Seat α) (placed : List (Seat α)) (seat : Seat α) :
    claim (first :: placed) 0 seat = if first.isFree then some (seat :: placed) else none := by
  simp [claim]

end Seat

namespace Assignment

/-- The indices of positional parameters, with a further parameter in front. -/
theorem positionalIndices_cons (param : Param) (params : List Param) :
    positionalIndices (param :: params) =
      (if param.kind.isPositional then [0] else []) ++
        (positionalIndices params).map (· + 1) := by
  simp only [positionalIndices, List.zipIdx_cons, List.zipIdx_succ, List.filter_cons,
    List.filter_map, List.map_map]
  split <;> simp [Function.comp_def]

/-- The parameter that a name reaches, with a further parameter in front. -/
theorem indexOfName?_cons (param : Param) (params : List Param) (name : String) :
    indexOfName? (param :: params) name =
      if param.answersTo name then some 0 else (indexOfName? params name).map (· + 1) :=
  List.findIdx?_cons

end Assignment

namespace Param

variable {α β : Type} {positions : List α} {params : List Param} {names : List (String × α)}

/-- The seat of one parameter, given the positions that are left and the arguments that name it;
and the positions that are left after it. -/
def seat (param : Param) (positions : List α) (own : List (String × α)) :
    Option (Seat α × List α) :=
  match if param.kind.isPositional then positions else [], own with
  | [], [] => some (.free, positions)
  | [], [(_, argument)] => some (.byName argument, positions)
  | argument :: rest, [] => some (.byPosition argument, rest)
  | _, _ => none

/-- The arguments that name the parameter. -/
def own (param : Param) (names : List (String × α)) : List (String × α) :=
  names.filter fun entry => param.answersTo entry.1

/-- The arguments that do not name the parameter. -/
def others (param : Param) (names : List (String × α)) : List (String × α) :=
  names.filter fun entry => !param.answersTo entry.1

/-- Of two lists of arguments, those that name the parameter. -/
theorem own_append (param : Param) (names more : List (String × α)) :
    param.own (names ++ more) = param.own names ++ param.own more :=
  List.filter_append ..

/-- Of two lists of arguments, those that do not name the parameter. -/
theorem others_append (param : Param) (names more : List (String × α)) :
    param.others (names ++ more) = param.others names ++ param.others more :=
  List.filter_append ..

/-- The seats of all parameters, if the call is possible as far as places and names go. -/
def seats : List Param → List α → List (String × α) → Option (List (Seat α))
  | [], [], [] => some []
  | [], _, _ => none
  | param :: params, positions, names =>
    (param.seat positions (param.own names)).bind fun (seat, rest) =>
      (seats params rest (param.others names)).map (seat :: ·)

/-- The ways in which a parameter gets its seat. A position goes only to a positional parameter
that no argument names, and then it is the first one left; otherwise no position reaches the
parameter, and at most one argument names it. -/
theorem seat_cases {param : Param} {positions rest : List α} {named : List (String × α)}
    {seat : Seat α} (taken : param.seat positions named = some (seat, rest)) :
    (∃ argument, param.kind.isPositional = true ∧ positions = argument :: rest ∧ named = [] ∧
        seat = .byPosition argument) ∨
      ((if param.kind.isPositional then positions else []) = [] ∧ rest = positions ∧
        (named = [] ∧ seat = .free ∨
          ∃ name argument, named = [(name, argument)] ∧ seat = .byName argument)) := by
  unfold Param.seat at taken
  split at taken
  · rename_i unreached
    cases taken
    exact .inr ⟨unreached, rfl, .inl ⟨rfl, rfl⟩⟩
  · rename_i name argument unreached
    cases taken
    exact .inr ⟨unreached, rfl, .inr ⟨name, argument, rfl, rfl⟩⟩
  · rename_i argument others reached
    cases taken
    have positional : param.kind.isPositional = true := by
      by_cases positional : param.kind.isPositional = true
      · exact positional
      · simp [positional] at reached
    exact .inl ⟨argument, positional, by simpa [positional] using reached, rfl, rfl⟩
  · cases taken

/-- A possible call gives each parameter one seat. -/
theorem length_of_seats {placed : List (Seat α)}
    (possible : seats params positions names = some placed) :
    placed.length = params.length := by
  induction params generalizing positions names placed with
  | nil =>
    cases positions <;> cases names <;> simp_all [seats]
  | cons param params ih =>
    simp only [seats, Option.bind_eq_some_iff, Option.map_eq_some_iff] at possible
    obtain ⟨⟨seat, rest⟩, _, tail, restPossible, rfl⟩ := possible
    simp [ih restPossible]

/-- In a call without arguments every seat is free. -/
theorem seats_nil (params : List Param) :
    seats params ([] : List α) [] = some (params.map fun _ => .free) := by
  induction params with
  | nil => rfl
  | cons param params ih =>
    simp [seats, seat, own, others, ih]

/-! ### One more argument -/

section

variable {param : Param} (params : List Param)

/-- A positional parameter that nobody names takes the first of the positions. -/
theorem seats_cons_position (positional : param.kind.isPositional = true) (argument : α)
    (positions : List α) :
    seats (param :: params) (argument :: positions) [] =
      (seats params positions []).map (.byPosition argument :: ·) := by
  simp [seats, seat, own, others, positional]

/-- A parameter that nobody names stays free if it is not positional or no position is left. -/
theorem seats_cons_free (unreached : (if param.kind.isPositional then positions else []) = []) :
    seats (param :: params) positions [] = (seats params positions []).map (.free :: ·) := by
  simp [seats, seat, own, others, unreached]

end

/-- Without names, the parameter at the next position is free. -/
theorem isFree_next {placed : List (Seat α)} (possible : seats params positions [] = some placed)
    {place : Nat} (next : (Assignment.positionalIndices params)[positions.length]? = some place) :
    placed[place]? = some .free := by
  induction params generalizing positions placed place with
  | nil => simp [Assignment.positionalIndices] at next
  | cons param params ih =>
    rw [Assignment.positionalIndices_cons] at next
    by_cases positional : param.kind.isPositional = true
    · cases positions with
      | nil =>
        rw [seats_cons_free params (by simp)] at possible
        obtain ⟨tail, _, rfl⟩ := Option.map_eq_some_iff.mp possible
        have first : 0 = place := by simpa [positional] using next
        simp [← first]
      | cons argument positions =>
        rw [seats_cons_position params positional] at possible
        obtain ⟨tail, restPossible, rfl⟩ := Option.map_eq_some_iff.mp possible
        have later : ∃ restPlace, (Assignment.positionalIndices params)[positions.length]? =
            some restPlace ∧ restPlace + 1 = place := by simpa [positional] using next
        obtain ⟨restPlace, restNext, rfl⟩ := later
        simpa using ih restPossible restNext
    · rw [seats_cons_free params (by simp [positional])] at possible
      obtain ⟨tail, restPossible, rfl⟩ := Option.map_eq_some_iff.mp possible
      have later : ∃ restPlace, (Assignment.positionalIndices params)[positions.length]? =
          some restPlace ∧ restPlace + 1 = place := by simpa [positional] using next
      obtain ⟨restPlace, restNext, rfl⟩ := later
      simpa using ih restPossible restNext

/-- One more position takes the seat at the next position. -/
theorem seats_append_position (params : List Param) (positions : List α) (argument : α) :
    seats params (positions ++ [argument]) [] =
      (seats params positions []).bind fun placed =>
        (Assignment.positionalIndices params)[positions.length]?.bind fun place =>
          Seat.claim placed place (.byPosition argument) := by
  induction params generalizing positions with
  | nil => cases positions <;> simp [seats, Assignment.positionalIndices]
  | cons param params ih =>
    rw [Assignment.positionalIndices_cons]
    by_cases positional : param.kind.isPositional = true
    · cases positions with
      | nil =>
        rw [List.nil_append, seats_cons_position params positional,
          seats_cons_free params (by simp)]
        cases seats params ([] : List α) [] <;> simp [positional, Seat.claim_zero, Seat.isFree,
          Seat.argument?]
      | cons first positions =>
        rw [List.cons_append, seats_cons_position params positional,
          seats_cons_position params positional, ih]
        cases seats params positions [] with
        | none => simp
        | some placed =>
          simp [positional, Seat.bind_claim_succ]
    · rw [seats_cons_free params (by simp [positional]),
        seats_cons_free params (by simp [positional]), ih]
      cases seats params positions [] with
      | none => simp
      | some placed =>
        simp [positional, Seat.bind_claim_succ]

/-- One more argument that names a parameter takes its seat if that is free. -/
theorem seat_append_own (param : Param) (positions : List α) (named : List (String × α))
    (name : String) (argument : α) :
    param.seat positions (named ++ [(name, argument)]) =
      (param.seat positions named).bind fun (seat, rest) =>
        if seat.isFree then some (.byName argument, rest) else none := by
  simp only [seat]
  generalize (if param.kind.isPositional then positions else []) = reaching
  match reaching, named with
  | [], [] => rfl
  | [], [_] => rfl
  | [], _ :: _ :: _ => simp
  | _ :: _, [] => rfl
  | _ :: _, _ :: _ => rfl

/-- One more name takes the seat of the first parameter that answers to it. -/
theorem seats_append_name (params : List Param) (positions : List α) (names : List (String × α))
    (name : String) (argument : α) :
    seats params positions (names ++ [(name, argument)]) =
      (seats params positions names).bind fun placed =>
        (Assignment.indexOfName? params name).bind fun place =>
          Seat.claim placed place (.byName argument) := by
  induction params generalizing positions names with
  | nil => cases positions <;> cases names <;> simp [seats, Assignment.indexOfName?]
  | cons param params ih =>
    rw [Assignment.indexOfName?_cons, seats, seats]
    by_cases answers : param.answersTo name = true
    · have ownMore : param.own (names ++ [(name, argument)]) =
          param.own names ++ [(name, argument)] := by simp [own, answers]
      have othersSame : param.others (names ++ [(name, argument)]) = param.others names := by
        simp [others, answers]
      rw [ownMore, othersSame, seat_append_own]
      cases param.seat positions (param.own names) with
      | none => simp
      | some taken =>
        obtain ⟨seat, rest⟩ := taken
        cases tail : seats params rest (param.others names) <;>
          cases free : seat.isFree <;> simp [tail, free, answers, Seat.claim_zero]
    · have ownSame : param.own (names ++ [(name, argument)]) = param.own names := by
        simp [own, answers]
      have othersMore : param.others (names ++ [(name, argument)]) =
          param.others names ++ [(name, argument)] := by simp [others, answers]
      rw [ownSame, othersMore]
      cases param.seat positions (param.own names) with
      | none => simp
      | some taken =>
        simp only [Option.bind_some, ih]
        cases seats params taken.2 (param.others names) with
        | none => simp
        | some placed =>
          simp [answers, Seat.bind_claim_succ]

/-- Further positions do not make an impossible call possible. -/
theorem seats_append_positions (impossible : seats params positions [] = none) (more : List α) :
    seats params (positions ++ more) [] = none := by
  induction more generalizing positions with
  | nil => simpa using impossible
  | cons argument more ih =>
    have still : seats params (positions ++ [argument]) [] = none := by
      simp [seats_append_position, impossible]
    simpa using ih still

/-- Nor do further names. -/
theorem seats_append_names (impossible : seats params positions names = none)
    (more : List (String × α)) :
    seats params positions (names ++ more) = none := by
  induction more generalizing names with
  | nil => simpa using impossible
  | cons entry more ih =>
    have still : seats params positions (names ++ [entry]) = none := by
      simp [seats_append_name params positions names entry.1 entry.2, impossible]
    simpa using ih still

/-! ### Arguments that find no seat -/

/-- A name that no parameter answers to makes a call impossible. -/
theorem seats_unanswered (positions : List α) {name : String} (passed : name ∈ names.map Prod.fst)
    (unanswered : ∀ param ∈ params, param.answersTo name = false) :
    seats params positions names = none := by
  induction params generalizing positions names with
  | nil => cases names <;> cases positions <;> simp_all [seats]
  | cons param params ih =>
    obtain ⟨entry, member, rfl⟩ := List.mem_map.mp passed
    have later : entry.1 ∈ (param.others names).map Prod.fst := by
      refine List.mem_map.mpr ⟨entry, List.mem_filter.mpr ⟨member, ?_⟩, rfl⟩
      simp [unanswered param List.mem_cons_self]
    have rest : ∀ rest, seats params rest (param.others names) = none := fun rest =>
      ih rest later fun param member =>
        unanswered param (List.mem_cons_of_mem _ member)
    simp [seats, rest]

/-- A position makes a call impossible if no parameter is positional. -/
theorem seats_unreached (passed : positions ≠ []) (names : List (String × α))
    (unreached : ∀ param ∈ params, param.kind.isPositional = false) :
    seats params positions names = none := by
  induction params generalizing names with
  | nil => cases names <;> cases positions <;> simp_all [seats]
  | cons param params ih =>
    have rest := ih (param.others names)
      fun param member => unreached param (List.mem_cons_of_mem _ member)
    simp only [seats, Option.bind_eq_none_iff, Option.map_eq_none_iff]
    rintro ⟨seat, left⟩ taken
    obtain ⟨_, positional, _⟩ | ⟨_, rfl, _⟩ := seat_cases taken
    · simp [unreached param List.mem_cons_self] at positional
    · exact rest

/-! ### The arguments on the seats -/

/-- Replacing the arguments of a call replaces them on each seat. -/
theorem seat_map (change : α → β) (param : Param) (positions : List α)
    (named : List (String × α)) :
    param.seat (positions.map change) (named.map fun entry => (entry.1, change entry.2)) =
      (param.seat positions named).map fun (seat, rest) =>
        (seat.map change, rest.map change) := by
  have reaching : (if param.kind.isPositional then positions.map change else []) =
      (if param.kind.isPositional then positions else []).map change := by
    split <;> rfl
  simp only [seat, reaching]
  match (if param.kind.isPositional then positions else []), named with
  | [], [] => rfl
  | [], [_] => rfl
  | [], _ :: _ :: _ => rfl
  | _ :: _, [] => rfl
  | _ :: _, _ :: _ => rfl

/-- Replacing the arguments of a call replaces them on the seats. -/
theorem seats_map (change : α → β) (params : List Param) (positions : List α)
    (names : List (String × α)) :
    seats params (positions.map change) (names.map fun entry => (entry.1, change entry.2)) =
      (seats params positions names).map fun placed => placed.map (Seat.map change) := by
  induction params generalizing positions names with
  | nil => cases positions <;> cases names <;> simp [seats]
  | cons param params ih =>
    have ownMapped : param.own (names.map fun entry => (entry.1, change entry.2)) =
        (param.own names).map fun entry => (entry.1, change entry.2) := by
      simp [own, List.filter_map, Function.comp_def]
    have othersMapped : param.others (names.map fun entry => (entry.1, change entry.2)) =
        (param.others names).map fun entry => (entry.1, change entry.2) := by
      simp [others, List.filter_map, Function.comp_def]
    rw [seats, seats, ownMapped, othersMapped, seat_map]
    cases param.seat positions (param.own names) with
    | none => rfl
    | some taken => simp [ih, Function.comp_def]

/-- Every argument on a seat was passed by position or by name. -/
theorem mem_of_seats {placed : List (Seat α)}
    (possible : seats params positions names = some placed) {seat : Seat α} (member : seat ∈ placed)
    {argument : α} (seated : seat.argument? = some argument) :
    argument ∈ positions ∨ argument ∈ names.map Prod.snd := by
  induction params generalizing positions names placed with
  | nil => cases positions <;> cases names <;> simp_all [seats]
  | cons param params ih =>
    simp only [seats, Option.bind_eq_some_iff, Option.map_eq_some_iff] at possible
    obtain ⟨⟨first, rest⟩, taken, tail, restPossible, rfl⟩ := possible
    have ownPassed : ∀ entry ∈ param.own names, entry ∈ names := fun entry within =>
      (List.mem_filter.mp within).1
    rcases List.mem_cons.mp member with rfl | later
    · obtain ⟨first, _, rfl, _, rfl⟩ | ⟨_, _, ⟨_, rfl⟩ | ⟨name, first, named, rfl⟩⟩ :=
        seat_cases taken
      · cases seated
        exact .inl List.mem_cons_self
      · cases seated
      · cases seated
        exact .inr (List.mem_map.mpr ⟨(name, argument), ownPassed _ (by simp [named]), rfl⟩)
    · have restPassed : ∀ position ∈ rest, position ∈ positions := by
        obtain ⟨_, _, rfl, _⟩ | ⟨_, rfl, _⟩ := seat_cases taken
        · exact fun position within => List.mem_cons_of_mem _ within
        · exact fun position within => within
      rcases ih restPossible later with byPosition | byName
      · exact .inl (restPassed argument byPosition)
      · obtain ⟨entry, within, rfl⟩ := List.mem_map.mp byName
        exact .inr (List.mem_map.mpr ⟨entry, (List.mem_filter.mp within).1, rfl⟩)

end Param

end Callwise
