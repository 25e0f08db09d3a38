import Callwise.Proofs.Call.PlainCall
import Callwise.Refine.PartialCall

/-!
# The seats that `partial` fills

`partial` gives arguments to parameters in its own way: it goes through the parameters with the
positions, then through the names, and remembers for each parameter how it has been filled. For a
plain signature this is described by the seats of a plain call in which required parameters may
stay free. The step and run lemmas follow the two loops, and `Given.apply_plain` says which
signatures result.
-/

namespace Callwise

variable {params : List Param} {names : List (String × Ty)} {placed : List (Seat Ty)}

/-- How `partial` remembers a seat. -/
def Seat.filling {α : Type} : Seat α → PartialCall.Filling
  | free => .free
  | byPosition _ => .byPosition
  | byName _ => .byName

/-- Only the free seat is remembered as free. -/
theorem Seat.filling_ne_free {α : Type} (seat : Seat α) :
    (seat.filling != .free) = !seat.isFree := by
  cases seat <;> rfl

namespace Param

/-- Each parameter takes what is on its seat. -/
def allSuit (params : List Param) (placed : List (Seat Ty)) : Bool :=
  (params.zip placed).all fun entry => entry.1.suits entry.2

/-- All seats suit if the first one does and the others do. -/
theorem allSuit_cons (param : Param) (params : List Param) (seat : Seat Ty)
    (placed : List (Seat Ty)) :
    allSuit (param :: params) (seat :: placed) = (param.suits seat && allSuit params placed) := by
  simp [allSuit]

/-- A free seat suits every parameter. -/
@[simp]
theorem suits_free (param : Param) : param.suits .free = true := rfl

/-- Taking a free seat keeps all seats suitable if the parameter there takes the argument. -/
theorem allSuit_set {place : Nat} (inside : place < params.length)
    (unclaimed : placed[place]? = some .free) (seat : Seat Ty) :
    allSuit params (placed.set place seat) =
      (allSuit params placed && params[place]?.any (suits · seat)) := by
  induction params generalizing placed place with
  | nil => cases inside
  | cons param params ih =>
    cases placed with
    | nil => cases unclaimed
    | cons first placed =>
      cases place with
      | zero =>
        obtain rfl : first = .free := by simpa using unclaimed
        simp [allSuit_cons, Bool.and_comm]
      | succ place =>
        have rest := ih (by simpa using inside) (by simpa using unclaimed)
        simp [allSuit_cons, rest, Bool.and_assoc]

/-- The seats of a plain call if each parameter takes what is on its seat. -/
def suitableSeats (params : List Param) (positions : List Ty) (names : List (String × Ty)) :
    Option (List (Seat Ty)) :=
  (seats params positions names).filter (allSuit params)

/-- Suitable seats are one for each parameter. -/
theorem length_of_suitableSeats {positions : List Ty}
    (suitable : suitableSeats params positions names = some placed) :
    placed.length = params.length :=
  length_of_seats (Option.filter_eq_some_iff.mp suitable).1

/-- Without arguments every seat is free, which is suitable. -/
theorem suitableSeats_nil (params : List Param) :
    suitableSeats params [] [] = some (params.map fun _ => .free) := by
  have allFree : allSuit params (params.map fun _ => .free) = true := by
    induction params with
    | nil => rfl
    | cons param params ih =>
      rw [List.map_cons, allSuit_cons, suits_free, ih, Bool.and_true]
  rw [suitableSeats, seats_nil, Option.filter_some, if_pos allFree]

/-- Suitable seats begin with one that suits the first parameter. -/
theorem suitableSeats_cons (param : Param) (params : List Param) (positions : List Ty)
    (names : List (String × Ty)) :
    suitableSeats (param :: params) positions names =
      (param.seat positions (param.own names)).bind fun taken =>
        if param.suits taken.1 then
          (suitableSeats params taken.2 (param.others names)).map (taken.1 :: ·)
        else none := by
  simp only [suitableSeats, seats]
  cases param.seat positions (param.own names) with
  | none => rfl
  | some taken =>
    cases rest : seats params taken.2 (param.others names) with
    | none => simp [rest]
    | some placed =>
      cases fitting : param.suits taken.1 <;> cases others : allSuit params placed <;>
        simp [rest, Option.filter_some, allSuit_cons, fitting, others]

/-- A property of suitable seats, parameter by parameter. -/
theorem any_suitableSeats_cons (param : Param) (params : List Param) (positions : List Ty)
    (names : List (String × Ty)) (good : List (Seat Ty) → Bool) :
    (suitableSeats (param :: params) positions names).any good =
      (param.seat positions (param.own names)).any fun taken =>
        param.suits taken.1 &&
          (suitableSeats params taken.2 (param.others names)).any fun placed =>
            good (taken.1 :: placed) := by
  rw [suitableSeats_cons]
  cases param.seat positions (param.own names) with
  | none => rfl
  | some taken => cases fitting : param.suits taken.1 <;> simp [fitting, Option.any_map]

/-- One more name takes the seat of the first parameter that answers to it, if that is free and the
parameter takes the type. -/
theorem suitableSeats_append_name (params : List Param) (positions : List Ty)
    (names : List (String × Ty)) (name : String) (ty : Ty) :
    suitableSeats params positions (names ++ [(name, ty)]) =
      (suitableSeats params positions names).bind fun placed =>
        (Assignment.indexOfName? params name).bind fun place =>
          if params[place]?.any (fits · ty) then Seat.claim placed place (.byName ty)
          else none := by
  rw [suitableSeats, seats_append_name, suitableSeats]
  cases possible : seats params positions names with
  | none => rfl
  | some placed =>
    cases reached : Assignment.indexOfName? params name with
    | none => simp
    | some place =>
      have inside : place < params.length :=
        (List.findIdx?_eq_some_iff_getElem.mp reached).1
      have taking : params[place]?.any (suits · (.byName ty)) = params[place]?.any (fits · ty) :=
        rfl
      by_cases unclaimed : placed[place]? = some .free
      · have after := allSuit_set inside unclaimed (.byName ty)
        rw [taking] at after
        cases suiting : allSuit params placed <;>
          simp [Seat.claim_of_free _ unclaimed, Option.filter_some, after, suiting]
      · cases suiting : allSuit params placed <;>
          simp [Seat.claim_of_not_free _ unclaimed, Option.filter_some, suiting]

/-- Further names do not make seats suitable. -/
theorem suitableSeats_append_names {positions : List Ty}
    (unsuitable : suitableSeats params positions names = none) (more : List (String × Ty)) :
    suitableSeats params positions (names ++ more) = none := by
  induction more generalizing names with
  | nil => simpa using unsuitable
  | cons entry more ih =>
    have still : suitableSeats params positions (names ++ [entry]) = none := by
      simp [suitableSeats_append_name params positions names entry.1 entry.2, unsuitable]
    simpa using ih still

end Param

namespace PartialCall

variable {function : Signature} {param : Param}

/-! ### One step of the two loops -/

/-- A positional parameter is matched with the first position, and the walk goes on behind both. -/
theorem fillPositions_cons_of_isPositional (context : CallContext)
    (positional : param.kind.isPositional = true) (params : List Param) (found : Ty)
    (types : List Ty) (index : Nat) (subst : Substitution) :
    fillPositions context (param :: params) (found :: types) index subst =
      (check context subst param found index >>= fun extended =>
        (fillPositions context params types (index + 1) extended).map fun filled =>
          (.byPosition :: filled.1, filled.2)) := by
  rw [fillPositions, if_pos positional]
  cases check context subst param found index <;> rfl

/-- The walk passes over a parameter that no position reaches. -/
theorem fillPositions_cons_of_unreached (context : CallContext)
    (named : param.kind.isPositional = false) (notStar : (param.kind == .star) = false)
    (params : List Param) (found : Ty) (types : List Ty) (index : Nat) (subst : Substitution) :
    fillPositions context (param :: params) (found :: types) index subst =
      (fillPositions context params (found :: types) index subst).map fun filled =>
        (.free :: filled.1, filled.2) := by
  rw [fillPositions, named, notStar]
  rfl

/-- The walk ends at a star parameter, which is matched with all positions that are left. -/
theorem fillPositions_cons_of_star (context : CallContext) (star : param.kind = .star)
    (params : List Param) (found : Ty) (types : List Ty) (index : Nat) (subst : Substitution) :
    fillPositions context (param :: params) (found :: types) index subst =
      (checkAll context param (found :: types) index subst >>= fun extended =>
        .ok (.free :: params.map (fun _ => .free), extended)) := by
  rw [fillPositions, star]
  rfl

/-- The parameter that `fillName` matches is the one at the place that the name reaches. -/
theorem find?_of_indexOfName? {name : String} {place : Option Nat}
    (reached : Assignment.indexOfName? params name = place) :
    params.find? (Param.answersTo · name) = place.bind (params[·]?) := by
  rw [← reached]
  exact List.find?_eq_bind_findIdx?_getElem?

/-- A name that reaches a parameter fills it, unless it has been filled before. -/
theorem fillName_of_reached (context : CallContext) {name : String} {place : Nat}
    (reached : Assignment.indexOfName? function.params name = some place)
    (here : function.params[place]? = some param) (found : Ty) (index : Nat)
    (fillings : List Filling) (subst : Substitution) :
    fillName context function name found index fillings subst =
      if (fillings[place]?.getD .free) != .free then
        .error (context.fail (.other (quoted context.shortName ++
          " gets multiple values for keyword argument " ++ quoted name)))
      else (check context subst param found index).map fun extended =>
        (fillings.set place .byName, extended) := by
  have matched := find?_of_indexOfName? reached
  rw [Option.bind_some, here] at matched
  unfold Assignment.indexOfName? at reached
  unfold Param.answersTo at matched
  simp only [fillName, reached, matched]

/-- A name that reaches no parameter is matched with the double-star parameter. -/
theorem fillName_of_collected (context : CallContext) {name : String}
    (unreached : Assignment.indexOfName? function.params name = none)
    (collects : function.doubleStar? = some param) (found : Ty) (index : Nat)
    (fillings : List Filling) (subst : Substitution) :
    fillName context function name found index fillings subst =
      (check context subst param found index).map fun extended => (fillings, extended) := by
  have matched := find?_of_indexOfName? unreached
  unfold Assignment.indexOfName? at unreached
  unfold Param.answersTo at matched
  simp only [fillName, unreached, matched, Option.bind_none, collects]

/-- Without a double-star parameter a name that reaches no parameter is unexpected. -/
theorem fillName_of_unknown (context : CallContext) {name : String}
    (unreached : Assignment.indexOfName? function.params name = none)
    (missing : function.doubleStar? = none) (found : Ty) (index : Nat) (fillings : List Filling)
    (subst : Substitution) :
    fillName context function name found index fillings subst =
      .error { Diagnostic.unexpectedKeyword context.shortName name context.location
        (function.params.filterMap Param.name) with file := context.file } := by
  have matched := find?_of_indexOfName? unreached
  unfold Assignment.indexOfName? at unreached
  unfold Param.answersTo at matched
  simp only [fillName, unreached, matched, Option.bind_none, missing]

/-- The first name fills its parameter before the others. -/
theorem fillNames_cons (context : CallContext) (function : Signature) (name : String) (found : Ty)
    (names : List (String × Ty)) (index : Nat) (fillings : List Filling) (subst : Substitution) :
    fillNames context function ((name, found) :: names) index fillings subst =
      (fillName context function name found index fillings subst >>= fun filled =>
        fillNames context function names (index + 1) filled.1 filled.2) := by
  rw [fillNames]
  cases fillName context function name found index fillings subst <;> rfl

/-! ### Seats -/

/-- A ground parameter takes a type or refuses it, and nothing is bound. -/
theorem check_ground (context : CallContext) (subst : Substitution) (ground : param.ty.IsGround)
    (found : Ty) (index : Nat) :
    (check context subst param found index).toOption =
      if param.fits found then some subst else none := by
  have matched : subst.bind param.ty found = (param.fits found, subst) :=
    Substitution.bind_closed subst _ ground.closed ground.kindFree
  rw [check, matched]
  cases param.fits found <;> rfl

/-- Filling by position takes the seats of a call that passes only the positions. -/
theorem fillPositions_plain (context : CallContext)
    (unstarred : ∀ param ∈ params, param.kind.isVariadic = false)
    (ground : ∀ param ∈ params, param.ty.IsGround) (positions : List Ty) (index : Nat)
    (subst : Substitution) :
    (fillPositions context params positions index subst).toOption =
      (Param.suitableSeats params positions []).map fun placed =>
        (placed.map Seat.filling, subst) := by
  induction params generalizing positions index with
  | nil => cases positions <;> rfl
  | cons param params ih =>
    have first := ground param List.mem_cons_self
    have rest := ih
      (fun param member => unstarred param (List.mem_cons_of_mem _ member))
      (fun param member => ground param (List.mem_cons_of_mem _ member))
    cases positions with
    | nil =>
      rw [fillPositions, Param.suitableSeats_nil, Option.map_some, List.map_map]
      rfl
    | cons found positions =>
      have noStar : (param.kind == .star) = false := by
        have ordinary := unstarred param List.mem_cons_self
        cases kind : param.kind <;> simp_all [ParamKind.isVariadic]
      rw [Param.suitableSeats_cons]
      by_cases positional : param.kind.isPositional = true
      · rw [fillPositions_cons_of_isPositional context positional, toOption_bind,
          check_ground context subst first]
        cases fitting : param.fits found with
        | false =>
          simp [Param.seat, Param.own, Param.others, positional, Param.suits, fitting]
        | true =>
          simp [Param.seat, Param.own, Param.others, positional, Param.suits, fitting, toOption_map,
            rest, Function.comp_def, Seat.filling]
      · rw [fillPositions_cons_of_unreached context (Bool.eq_false_iff.mpr positional) noStar]
        simp [positional, toOption_map, rest, Param.seat, Param.own, Param.others,
          Function.comp_def, Seat.filling]

/-- Filling one more parameter by name takes the seat that the name takes in a call. -/
theorem fillName_plain (context : CallContext) (plain : function.IsPlain) {positions : List Ty}
    (suitable : Param.suitableSeats function.params positions names = some placed) (name : String)
    (found : Ty) (index : Nat) (subst : Substitution) :
    (fillName context function name found index (placed.map Seat.filling) subst).toOption =
      (Param.suitableSeats function.params positions (names ++ [(name, found)])).map fun after =>
        (after.map Seat.filling, subst) := by
  rw [Param.suitableSeats_append_name, suitable, Option.bind_some]
  cases reached : Assignment.indexOfName? function.params name with
  | none =>
    have noDoubleStar : function.doubleStar? = none := by
      rw [Signature.doubleStar?, List.find?_eq_none]
      intro param member isDoubleStar
      have ordinary := plain.unstarred param member
      rw [beq_iff_eq.mp isDoubleStar] at ordinary
      cases ordinary
    rw [fillName_of_unknown context reached noDoubleStar]
    rfl
  | some place =>
    obtain ⟨inside, _⟩ := List.findIdx?_eq_some_iff_getElem.mp reached
    have here : function.params[place]? = some function.params[place] :=
      List.getElem?_eq_getElem inside
    have ground := plain.params _ (List.getElem_mem inside)
    rw [fillName_of_reached context reached here]
    simp only [Option.bind_some, here, Option.any_some]
    have within : place < placed.length := Param.length_of_suitableSeats suitable ▸ inside
    have seated : placed[place]? = some placed[place] := List.getElem?_eq_getElem within
    have remembered : ((placed.map Seat.filling)[place]?.getD .free != .free) =
        !placed[place].isFree := by
      simp [seated, Seat.filling_ne_free]
    have checked := check_ground context subst ground found index
    rw [remembered, Seat.claim_of_found seated]
    cases placed[place].isFree with
    | true =>
      cases fitting : function.params[place].fits found <;>
        simp [toOption_map, checked, fitting, Seat.filling]
    | false => simp [Except.toOption]

/-- Filling parameters by name takes the seats that the names take in a call. -/
theorem fillNames_plain (context : CallContext) (plain : function.IsPlain) {positions : List Ty}
    (suitable : Param.suitableSeats function.params positions names = some placed)
    (more : List (String × Ty)) (index : Nat) (subst : Substitution) :
    (fillNames context function more index (placed.map Seat.filling) subst).toOption =
      (Param.suitableSeats function.params positions (names ++ more)).map fun after =>
        (after.map Seat.filling, subst) := by
  induction more generalizing names placed index with
  | nil => simp [fillNames, suitable, Except.toOption]
  | cons entry more ih =>
    obtain ⟨name, found⟩ := entry
    rw [fillNames_cons, toOption_bind, fillName_plain context plain suitable, Option.bind_map]
    cases next : Param.suitableSeats function.params positions (names ++ [(name, found)]) with
    | none =>
      have still := Param.suitableSeats_append_names next more
      rw [List.append_assoc, List.singleton_append] at still
      simp [still]
    | some after =>
      have rest := ih next (index + 1)
      simpa using rest

/-- The early arguments are accepted if they have suitable seats, and leave the parameters whose
seats are free. -/
theorem Given.apply_plain (given : Given) (context : CallContext) (plain : function.IsPlain) :
    (given.apply context function).toOption =
      (Param.suitableSeats function.params given.positional given.keywords).map fun placed =>
        ⟨remaining .empty (function.params.zip (placed.map Seat.filling)) false, function.ret⟩ := by
  have overPositions := fillPositions_plain context plain.unstarred plain.params given.positional 2
    .empty
  simp only [Given.apply, Signature.isEllipsis_eq_false plain.unstarred, Bool.false_eq_true,
    if_false]
  rw [toOption_bind, overPositions, Option.bind_map]
  cases positions : Param.suitableSeats function.params given.positional [] with
  | none =>
    have still := Param.suitableSeats_append_names positions given.keywords
    rw [List.nil_append] at still
    simp [still]
  | some placed =>
    have overNames := fillNames_plain context plain positions given.keywords
      (given.positional.length + 2) .empty
    rw [List.nil_append] at overNames
    simp only [Option.bind_some, Function.comp_apply]
    rw [toOption_bind, overNames, Option.bind_map]
    cases Param.suitableSeats function.params given.positional given.keywords with
    | none => rfl
    | some after =>
      simp [Function.comp_apply, Substitution.apply_ground _ plain.ret, Except.toOption]

end PartialCall

end Callwise
