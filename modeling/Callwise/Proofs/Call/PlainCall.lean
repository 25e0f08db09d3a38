import Callwise.Call.Binding
import Callwise.Proofs.Call.Seating
import Callwise.Proofs.Substitution.ClosedPattern

/-!
# Plain calls of signatures without star parameters

`Argument.assign` goes through the arguments of a call and keeps, for each parameter, the indices
of its arguments. In a plain call of a signature without star parameters every parameter has at
most one, and the assignment after any number of arguments is the one that `Param.seats` describes:
the step lemmas carry this from argument to argument, and the run lemmas over all of them.

If moreover the parameter types have nothing to bind, the types are matched independently of each
other. Then a call is accepted exactly if the seats exist, every required parameter has an argument
and every argument fits its parameter, and its type is the declared result.
-/

namespace Callwise

variable {signature : Signature} {formals : List Param}

/-- The arguments of a plain call: types by position, then types by name. -/
def Argument.plain (positions : List Ty) (names : List (String × Ty)) : List Argument :=
  positions.map (fun ty => ⟨.positional, none, ty⟩) ++
    names.map fun entry => ⟨.named, some entry.1, entry.2⟩

/-- The result of a computation that goes on only after a success. -/
theorem toOption_bind {ε α β : Type} (result : Except ε α) (next : α → Except ε β) :
    (result >>= next).toOption = result.toOption.bind fun value => (next value).toOption := by
  cases result <;> rfl

/-- The result of a computation whose value is changed in the end. -/
theorem toOption_map {ε α β : Type} (result : Except ε α) (change : α → β) :
    (result.map change).toOption = result.toOption.map change := by
  cases result <;> rfl

/-- A computation has a result if it succeeds with it. -/
theorem toOption_eq_some_iff {ε α : Type} {result : Except ε α} {value : α} :
    result.toOption = some value ↔ result = .ok value := by
  cases result <;> simp [Except.toOption]

namespace Assignment

/-- The assignment in which each parameter has the argument on its seat. -/
def ofSeats (placed : List (Seat Nat)) (passed : Nat) : Assignment :=
  ⟨placed.map fun seat => seat.argument?.toList, passed⟩

@[simp]
theorem passed_ofSeats (placed : List (Seat Nat)) (passed : Nat) :
    (ofSeats placed passed).passed = passed := rfl

/-- At the start of a call every seat is free. -/
theorem start_eq_ofSeats (formals : List Param) :
    (⟨formals.map fun _ => [], 0⟩ : Assignment) = ofSeats (formals.map fun _ => .free) 0 := by
  rw [ofSeats, List.map_map]
  rfl

/-- Giving an argument to a parameter whose seat is free is taking that seat. -/
theorem give_ofSeats {placed : List (Seat Nat)} (passed : Nat) {place argument : Nat}
    {seat : Seat Nat} (free : placed[place]? = some .free)
    (seated : seat.argument? = some argument) :
    (ofSeats placed passed).give place argument = ofSeats (placed.set place seat) passed := by
  simp only [give, ofSeats, Assignment.mk.injEq, and_true]
  apply List.ext_getElem?
  intro index
  by_cases here : place = index
  · subst here
    obtain ⟨inside, found⟩ := List.getElem?_eq_some_iff.mp free
    simp [inside, found, seated]
  · simp [here]

/-- Something is missing as long as a required parameter has a free seat. -/
theorem isIncomplete_ofSeats (formals : List Param) (placed : List (Seat Nat)) (passed : Nat) :
    (ofSeats placed passed).isIncomplete formals =
      (formals.zip placed).any fun entry => entry.1.kind.isRequired && entry.2.isFree := by
  simp [isIncomplete, ofSeats, List.zip_map_right, Function.comp_def]

/-- Without star parameters there is no index of one. -/
theorem indexOfKind?_eq_none (plain : ∀ param ∈ formals, param.kind.isVariadic = false)
    {kind : ParamKind} (variadic : kind.isVariadic = true) : indexOfKind? formals kind = none := by
  rw [indexOfKind?, List.findIdx?_eq_none_iff]
  intro param member
  have ordinary := plain param member
  cases same : param.kind == kind
  · rfl
  · rw [beq_iff_eq.mp same, variadic] at ordinary
    cases ordinary

section

variable {formals : List Param} (unstarred : indexOfKind? formals .star = none)
include unstarred

/-- A positional argument behind other positional arguments takes its seat, or is refused if there
is none. -/
theorem step_position (arguments : List Argument) {positions : List Nat}
    {placed : List (Seat Nat)} (possible : Param.seats formals positions [] = some placed)
    {argument : Argument} (kind : argument.kind = .positional) (index : Nat) :
    (step arguments formals (ofSeats placed positions.length) (argument, index)).toOption =
      (Param.seats formals (positions ++ [index]) []).map fun after =>
        ofSeats after (positions.length + 1) := by
  rw [Param.seats_append_position, possible]
  simp only [step, kind, givePositional, passed_ofSeats, Option.bind_some]
  cases next : (positionalIndices formals)[positions.length]? with
  | none =>
    simp [unstarred, Except.toOption]
  | some place =>
    have free : placed[place]? = some .free := Param.isFree_next possible next
    have given : (ofSeats placed positions.length).give place index =
        ofSeats (placed.set place (.byPosition index)) positions.length :=
      give_ofSeats positions.length free rfl
    simp only [given, Option.bind_some, Seat.claim_of_free _ free]
    rfl

/-- Any number of positional arguments, after others, leaves the seats of all of them. -/
theorem run_positions (arguments : List Argument) {entries : List (Argument × Nat)}
    (kinds : ∀ entry ∈ entries, entry.1.kind = .positional) {positions : List Nat}
    {placed : List (Seat Nat)} (possible : Param.seats formals positions [] = some placed) :
    (entries.foldlM (step arguments formals) (ofSeats placed positions.length)).toOption =
      (Param.seats formals (positions ++ entries.map Prod.snd) []).map fun after =>
        ofSeats after (positions.length + entries.length) := by
  induction entries generalizing positions placed with
  | nil => simp [possible, Except.toOption, pure, Except.pure]
  | cons entry entries ih =>
    obtain ⟨argument, index⟩ := entry
    rw [List.foldlM_cons, toOption_bind,
      step_position unstarred arguments possible (kinds _ List.mem_cons_self), Option.bind_map]
    cases reached : Param.seats formals (positions ++ [index]) [] with
    | none =>
      have still := Param.seats_append_positions reached (entries.map Prod.snd)
      simp_all
    | some after =>
      have rest := ih
        (fun entry member => kinds entry (List.mem_cons_of_mem _ member)) reached
      simp only [List.length_append, List.length_singleton, List.append_assoc,
        List.singleton_append] at rest
      simp [rest, Nat.add_comm, Nat.add_left_comm]

end

section

variable {formals : List Param} (plain : ∀ param ∈ formals, param.kind.isVariadic = false)
include plain

/-- A named argument takes the seat of the first parameter that answers to its name, or is refused
if there is none or someone sits there. -/
theorem step_name {arguments : List Argument} {positions : List Nat}
    {names : List (String × Nat)} {placed : List (Seat Nat)}
    (possible : Param.seats formals positions names = some placed)
    (explicit : ∀ index, index ∈ positions ∨ index ∈ names.map Prod.snd →
      (arguments[index]?.any fun argument => !argument.kind.isVariadic) = true)
    {argument : Argument} (kind : argument.kind = .named) (index passed : Nat) :
    (step arguments formals (ofSeats placed passed) (argument, index)).toOption =
      (Param.seats formals positions (names ++ [(argument.name.getD "", index)])).map fun after =>
        ofSeats after passed := by
  rw [Param.seats_append_name, possible]
  simp only [step, kind, giveNamed, Option.bind_some]
  cases reached : indexOfName? formals (argument.name.getD "") with
  | none =>
    have noDoubleStar : indexOfKind? formals .doubleStar = none := indexOfKind?_eq_none plain rfl
    simp [noDoubleStar, Except.toOption]
  | some place =>
    have inside : place < placed.length := by
      rw [Param.length_of_seats possible]
      exact (List.findIdx?_eq_some_iff_getElem.mp reached).1
    have found : placed[place]? = some placed[place] := List.getElem?_eq_getElem inside
    cases sitting : placed[place].argument? with
    | none =>
      have unclaimed : placed[place]? = some .free := by
        rw [found, (Seat.isFree_iff placed[place]).mp (by simp [Seat.isFree, sitting])]
      have unexplicit : (ofSeats placed passed).isExplicit arguments place = false := by
        simp [isExplicit, ofSeats, unclaimed]
      have given : (ofSeats placed passed).give place index =
          ofSeats (placed.set place (.byName index)) passed :=
        give_ofSeats passed unclaimed rfl
      simp only [unexplicit, given, Option.bind_some, Seat.claim_of_free _ unclaimed]
      rfl
    | some other =>
      have passedBefore := Param.mem_of_seats possible (List.getElem_mem inside) sitting
      have taken : (ofSeats placed passed).isExplicit arguments place = true := by
        simp [isExplicit, ofSeats, found, sitting, explicit other passedBefore]
      simp [taken, Seat.claim_of_found found, Seat.isFree, sitting, Except.toOption]

/-- Any number of named arguments, after others, leaves the seats of all of them. -/
theorem run_names {arguments : List Argument} {entries : List (Argument × Nat)}
    (kinds : ∀ entry ∈ entries, entry.1.kind = .named) {positions : List Nat}
    {names : List (String × Nat)} {placed : List (Seat Nat)}
    (possible : Param.seats formals positions names = some placed)
    (explicit : ∀ index, index ∈ positions ∨ index ∈ names.map Prod.snd ∨
        index ∈ entries.map Prod.snd →
      (arguments[index]?.any fun argument => !argument.kind.isVariadic) = true)
    (passed : Nat) :
    (entries.foldlM (step arguments formals) (ofSeats placed passed)).toOption =
      (Param.seats formals positions
        (names ++ entries.map fun entry => (entry.1.name.getD "", entry.2))).map fun after =>
          ofSeats after passed := by
  induction entries generalizing names placed with
  | nil => simp [possible, Except.toOption, pure, Except.pure]
  | cons entry entries ih =>
    obtain ⟨argument, index⟩ := entry
    have explicitBefore : ∀ index, index ∈ positions ∨ index ∈ names.map Prod.snd →
        (arguments[index]?.any fun argument => !argument.kind.isVariadic) = true := by
      grind
    rw [List.foldlM_cons, toOption_bind,
      step_name plain possible explicitBefore (kinds _ List.mem_cons_self), Option.bind_map]
    cases reached : Param.seats formals positions
        (names ++ [(argument.name.getD "", index)]) with
    | none =>
      have still := Param.seats_append_names reached
        (entries.map fun entry => (entry.1.name.getD "", entry.2))
      simp_all
    | some after =>
      have rest := ih
        (fun entry member => kinds entry (List.mem_cons_of_mem _ member)) reached (by grind)
      simpa using rest

end

end Assignment

namespace Argument

/-- The type of the argument at an index. -/
def typeAt (arguments : List Argument) (index : Nat) : Ty :=
  (arguments[index]?.map valueType).getD .any

/-- The indices of the named arguments of a plain call, with their names. -/
def plainNames (positions : List Ty) (names : List (String × Ty)) : List (String × Nat) :=
  (names.zipIdx positions.length).map fun entry => (entry.1.1, entry.2)

/-- No argument of a plain call is unpacked. -/
theorem explicit_plain (positions : List Ty) (names : List (String × Ty)) {index : Nat}
    (inside : index < positions.length + names.length) :
    ((plain positions names)[index]?.any fun argument => !argument.kind.isVariadic) = true := by
  have bound : index < (plain positions names).length := by simpa [plain] using inside
  have member : (plain positions names)[index] ∈ plain positions names := List.getElem_mem bound
  rw [List.getElem?_eq_getElem bound, Option.any_some]
  simp only [plain, List.mem_append, List.mem_map] at member
  obtain ⟨ty, _, same⟩ | ⟨entry, _, same⟩ := member
  all_goals
    simp only [plain, ← same]
    rfl

/-- The types of the positions of a plain call are those that have been passed. -/
theorem map_typeAt_positions (positions : List Ty) (names : List (String × Ty)) :
    (List.range positions.length).map (typeAt (plain positions names)) = positions := by
  apply List.ext_getElem (by simp)
  intro index _ inside
  simp [typeAt, plain, List.getElem?_append_left, inside, valueType]

/-- The types of the names of a plain call are those that have been passed. -/
theorem map_typeAt_names (positions : List Ty) (names : List (String × Ty)) :
    ((plainNames positions names).map fun entry =>
      (entry.1, typeAt (plain positions names) entry.2)) = names := by
  apply List.ext_getElem (by simp [plainNames])
  intro index _ inside
  simp [typeAt, plainNames, plain, inside, valueType]

/-- The arguments of a plain call, numbered: first the positions, then the names. -/
theorem zipIdx_plain (positions : List Ty) (names : List (String × Ty)) :
    (plain positions names).zipIdx =
      (positions.map fun ty => (⟨.positional, none, ty⟩ : Argument)).zipIdx ++
        (names.map fun entry => (⟨.named, some entry.1, entry.2⟩ : Argument)).zipIdx
          positions.length := by
  simp [plain, List.zipIdx_append]

/-- The run over the arguments of a plain call ends with the seats of all of them. -/
theorem run_plain (unstarred : ∀ param ∈ formals, param.kind.isVariadic = false)
    (positions : List Ty) (names : List (String × Ty)) :
    ((plain positions names).zipIdx.foldlM (Assignment.step (plain positions names) formals)
        ⟨formals.map fun _ => [], 0⟩).toOption =
      (Param.seats formals (List.range positions.length) (plainNames positions names)).map
        fun placed => .ofSeats placed positions.length := by
  have kinds : ∀ entry ∈ (positions.map fun ty => (⟨.positional, none, ty⟩ : Argument)).zipIdx,
      entry.1.kind = .positional := by
    rintro ⟨argument, index⟩ member
    obtain ⟨ty, _, rfl⟩ := List.mem_map.mp (List.fst_mem_of_mem_zipIdx member)
    rfl
  have overPositions := Assignment.run_positions (Assignment.indexOfKind?_eq_none unstarred rfl)
    (plain positions names) kinds (Param.seats_nil formals)
  simp only [List.nil_append, List.length_nil, Nat.zero_add, List.zipIdx_map_snd,
    List.length_zipIdx, List.length_map, ← List.range_eq_range'] at overPositions
  rw [zipIdx_plain, List.foldlM_append, toOption_bind, Assignment.start_eq_ofSeats, overPositions,
    Option.bind_map]
  cases reached : Param.seats formals (List.range positions.length) [] with
  | none =>
    have still := Param.seats_append_names reached (plainNames positions names)
    rw [List.nil_append] at still
    simp [still]
  | some placed =>
    have named : ∀ entry ∈ (names.map fun entry =>
        (⟨.named, some entry.1, entry.2⟩ : Argument)).zipIdx positions.length,
        entry.1.kind = .named := by
      rintro ⟨argument, index⟩ member
      obtain ⟨entry, _, rfl⟩ := List.mem_map.mp (List.fst_mem_of_mem_zipIdx member)
      rfl
    have overNames := Assignment.run_names unstarred named reached
      (fun index passed => explicit_plain positions names (by
        simp at passed
        omega)) positions.length
    have indexed : ((names.map fun entry =>
        (⟨.named, some entry.1, entry.2⟩ : Argument)).zipIdx positions.length).map
          (fun entry => (entry.1.name.getD "", entry.2)) = plainNames positions names := by
      simp [plainNames, List.zipIdx_map, Function.comp_def]
    rw [List.nil_append, indexed] at overNames
    simpa using overNames

/-- A plain call gives each parameter the argument on its seat, if no required parameter stays
free. -/
theorem assign_plain (unstarred : ∀ param ∈ formals, param.kind.isVariadic = false)
    (positions : List Ty) (names : List (String × Ty)) :
    (assign (plain positions names) formals).toOption =
      (Param.seats formals (List.range positions.length) (plainNames positions names)).bind
        fun placed =>
          if (formals.zip placed).any fun entry => entry.1.kind.isRequired && entry.2.isFree then
            none
          else some (placed.map fun seat => seat.argument?.toList) := by
  simp only [assign]
  rw [toOption_bind, run_plain unstarred, Option.bind_map]
  congr 1
  funext placed
  simp only [Function.comp_apply, Assignment.isIncomplete_ofSeats]
  split <;> rfl

end Argument

namespace Param

/-- The parameter takes a value of this type. -/
def fits (param : Param) (ty : Ty) : Bool := (Substitution.empty.bind param.ty ty).1

/-- The parameter takes what is on its seat. -/
def suits (param : Param) (seat : Seat Ty) : Bool := seat.argument?.all param.fits

/-- The parameter takes what is on its seat, and nothing more is needed. -/
def settles (param : Param) (seat : Seat Ty) : Bool :=
  param.suits seat && !(param.kind.isRequired && seat.isFree)

/-- The parameters accept a plain call with these types. -/
def accepts (params : List Param) (positions : List Ty) (names : List (String × Ty)) : Bool :=
  (seats params positions names).any fun placed =>
    (params.zip placed).all fun entry => entry.1.settles entry.2

/-- A call is accepted if the first parameter is settled and the others accept what is left. -/
theorem accepts_cons (param : Param) (params : List Param) (positions : List Ty)
    (names : List (String × Ty)) :
    accepts (param :: params) positions names =
      (param.seat positions (param.own names)).any fun taken =>
        param.settles taken.1 && accepts params taken.2 (param.others names) := by
  simp only [accepts, seats]
  cases param.seat positions (param.own names) with
  | none => rfl
  | some taken => cases rest : seats params taken.2 (param.others names) <;> simp [rest]

end Param

/-- A signature without star parameters whose types are ground. -/
structure Signature.IsPlain (signature : Signature) : Prop where
  unstarred : ∀ param ∈ signature.params, param.kind.isVariadic = false
  params : ∀ param ∈ signature.params, param.ty.IsGround
  ret : signature.ret.IsGround

instance (signature : Signature) : Decidable signature.IsPlain :=
  decidable_of_iff ((∀ param ∈ signature.params, param.kind.isVariadic = false) ∧
      (∀ param ∈ signature.params, param.ty.IsGround) ∧ signature.ret.IsGround)
    ⟨fun ⟨unstarred, params, ret⟩ => ⟨unstarred, params, ret⟩,
      fun ⟨unstarred, params, ret⟩ => ⟨unstarred, params, ret⟩⟩

/-- Some of the parameters of a plain signature and a ground result make a plain signature. -/
theorem Signature.IsPlain.fewer (plain : signature.IsPlain) {params : List Param}
    (within : ∀ param ∈ params, param ∈ signature.params) {ret : Ty} (ground : ret.IsGround) :
    Signature.IsPlain ⟨params, ret⟩ where
  unstarred param member := plain.unstarred param (within param member)
  params param member := plain.params param (within param member)
  ret := ground

/-- The type of a function with a plain signature is ground. -/
theorem Signature.IsPlain.isGround (plain : signature.IsPlain) :
    (Ty.callable signature).IsGround where
  closed := by
    rw [Ty.hasTypeVars, Signature.hasTypeVars_eq_false_iff]
    exact ⟨fun param member => (plain.params param member).closed, plain.ret.closed⟩
  kindFree := by
    rw [Ty.isKindFree, Ty.everywhere, Bool.and_eq_true, Signature.everywhere_iff]
    exact ⟨rfl, fun param member => (plain.params param member).kindFree, plain.ret.kindFree⟩
  canonical := by
    rw [Ty.isCanonical, Ty.everywhere, Bool.and_eq_true, Signature.everywhere_iff]
    exact ⟨rfl, fun param member => (plain.params param member).canonical, plain.ret.canonical⟩

namespace Substitution

variable (callee : String) (arguments : List Argument) (location : Location)

/-- Matching a ground parameter with the argument on its seat succeeds if it fits, and binds
nothing. -/
theorem bindGroup_ground {param : Param} (ground : param.ty.IsGround) (seat : Seat Nat)
    (subst : Substitution) :
    (bindGroup callee arguments location param.ty seat.argument?.toList subst).toOption =
      if param.suits (seat.map (Argument.typeAt arguments)) then some subst else none := by
  cases sitting : seat.argument? with
  | none => simp [bindGroup, Param.suits, Seat.argument?_map, sitting, Except.toOption]
  | some index =>
    have matched : subst.bind param.ty (Argument.typeAt arguments index) =
        (param.fits (Argument.typeAt arguments index), subst) :=
      bind_closed subst _ ground.closed ground.kindFree
    simp only [Option.toList_some, bindGroup]
    rw [← Argument.typeAt, matched]
    cases fitting : param.fits (Argument.typeAt arguments index) <;>
      simp [Param.suits, Seat.argument?_map, sitting, fitting, Except.toOption]

/-- Matching ground parameters with the arguments on their seats succeeds if each argument fits,
and binds nothing. -/
theorem bindGroups_ground (ground : ∀ param ∈ formals, param.ty.IsGround) (placed : List (Seat Nat))
    (subst : Substitution) :
    (bindGroups callee arguments location
        (formals.zip (placed.map fun seat => seat.argument?.toList)) subst).toOption =
      if (formals.zip placed).all fun entry =>
          entry.1.suits (entry.2.map (Argument.typeAt arguments)) then some subst
      else none := by
  induction formals generalizing placed with
  | nil => rfl
  | cons param formals ih =>
    cases placed with
    | nil => rfl
    | cons seat placed =>
      have first := bindGroup_ground callee arguments location (ground param List.mem_cons_self)
        seat subst
      have rest := ih
        (fun param member => ground param (List.mem_cons_of_mem _ member)) placed
      have split : bindGroups callee arguments location
          ((param, seat.argument?.toList) ::
            formals.zip (placed.map fun seat => seat.argument?.toList)) subst =
          (bindGroup callee arguments location param.ty seat.argument?.toList subst >>=
            bindGroups callee arguments location
              (formals.zip (placed.map fun seat => seat.argument?.toList))) := by
        rw [bindGroups]
        cases bindGroup callee arguments location param.ty seat.argument?.toList subst <;> rfl
      rw [List.map_cons, List.zip_cons_cons, List.zip_cons_cons, List.all_cons, split,
        toOption_bind, first]
      cases param.suits (seat.map (Argument.typeAt arguments)) with
      | true => exact rest
      | false => rfl

end Substitution

/-- The type of a call: each parameter gets its arguments, they are matched unless the signature
takes anything, and the result is instantiated. -/
theorem Signature.toOption_bindCall (signature : Signature) (callee : String)
    (arguments : List Argument) (location : Location) :
    (signature.bindCall callee arguments location).toOption.map Prod.snd =
      (Argument.assign arguments signature.params).toOption.bind fun groups =>
        if signature.isEllipsis then some signature.ret.eraseUnsolved
        else (Substitution.bindGroups callee arguments location (signature.params.zip groups)
          .empty).toOption.map fun subst => subst.instantiate signature signature.ret := by
  simp only [bindCall]
  cases Argument.assign arguments signature.params with
  | error error => rfl
  | ok groups =>
    simp only [Except.toOption, Option.bind_some]
    cases signature.isEllipsis with
    | true => rfl
    | false =>
      cases Substitution.bindGroups callee arguments location (signature.params.zip groups)
        .empty <;> rfl

/-- A plain call of a plain signature is accepted exactly if its parameters accept the call, and
then its type is the declared result. -/
theorem Signature.bindCall_plain (plain : signature.IsPlain) (callee : String) (positions : List Ty)
    (names : List (String × Ty)) (location : Location) :
    (signature.bindCall callee (Argument.plain positions names) location).toOption.map Prod.snd =
      if Param.accepts signature.params positions names then some signature.ret else none := by
  have types := Param.seats_map (Argument.typeAt (Argument.plain positions names))
    signature.params (List.range positions.length) (Argument.plainNames positions names)
  rw [Argument.map_typeAt_positions, Argument.map_typeAt_names] at types
  rw [toOption_bindCall, Argument.assign_plain plain.unstarred, Param.accepts, types,
    isEllipsis_eq_false plain.unstarred]
  cases Param.seats signature.params (List.range positions.length)
    (Argument.plainNames positions names) with
  | none => rfl
  | some placed =>
    have complete : ((signature.params.zip (placed.map
        (Seat.map (Argument.typeAt (Argument.plain positions names))))).all fun entry =>
          entry.1.settles entry.2) =
        (((signature.params.zip placed).all fun entry =>
            entry.1.suits (entry.2.map (Argument.typeAt (Argument.plain positions names)))) &&
          !(signature.params.zip placed).any fun entry =>
            entry.1.kind.isRequired && entry.2.isFree) := by
      simp only [List.zip_map_right, List.all_map, List.not_any_eq_all_not, Param.settles,
        Function.comp_def, Prod.map, Seat.isFree_map, id]
      induction signature.params.zip placed <;> grind
    have matched := Substitution.bindGroups_ground callee (Argument.plain positions names) location
      plain.params placed .empty
    simp only [Option.bind_some, Option.map_some, Option.any_some, complete]
    cases (signature.params.zip placed).any fun entry =>
        entry.1.kind.isRequired && entry.2.isFree with
    | true => simp
    | false =>
      simp only [Bool.false_eq_true, if_false, Option.bind_some, matched,
        Substitution.instantiate_ground _ _ plain.ret]
      split <;> simp_all

/-- The types that a plain call of a plain signature can have: the declared result, if the
parameters accept the call. -/
theorem Signature.bindCall_plain_iff (plain : signature.IsPlain) (callee : String)
    (positions : List Ty) (names : List (String × Ty)) (location : Location) (result : Ty) :
    (∃ groups, signature.bindCall callee (Argument.plain positions names) location =
        .ok (groups, result)) ↔
      Param.accepts signature.params positions names = true ∧ signature.ret = result := by
  have whole := bindCall_plain plain callee positions names location
  constructor
  · rintro ⟨groups, succeeds⟩
    rw [succeeds] at whole
    cases accepted : Param.accepts signature.params positions names with
    | false => simp [accepted, Except.toOption] at whole
    | true => simpa [accepted, Except.toOption, eq_comm] using whole
  · rintro ⟨accepted, rfl⟩
    rw [accepted, if_pos rfl] at whole
    obtain ⟨⟨groups, ret⟩, succeeds, rfl⟩ := Option.map_eq_some_iff.mp whole
    exact ⟨groups, toOption_eq_some_iff.mp succeeds⟩

/-- The type of a call of a callable type. -/
theorem Ty.toOption_call_callable (signature : Signature) (callee : String)
    (arguments : List Argument) (location : Location) :
    ((Ty.callable signature).call callee arguments location).toOption =
      (signature.bindCall callee arguments location).toOption.map Prod.snd := by
  simp only [Ty.call, acceptCall, Signature.accept, toOption_map, Option.map_map]
  rfl

/-- The type of a call of an overloaded type: the one of the first signature that accepts it. -/
theorem Ty.toOption_call_overloaded (signatures : List Signature) (callee : String)
    (arguments : List Argument) (location : Location) :
    ((Ty.overloaded signatures).call callee arguments location).toOption =
      signatures.findSome? fun signature =>
        (signature.bindCall callee arguments location).toOption.map Prod.snd := by
  have opened : ((Ty.overloaded signatures).call callee arguments location).toOption =
      (signatures.findSome? fun signature =>
        (signature.accept callee arguments location).toOption).map AcceptedCall.ret := by
    simp only [Ty.call, acceptCall, toOption_map]
    cases signatures.findSome? fun signature =>
      (signature.accept callee arguments location).toOption <;> rfl
  rw [opened, List.map_findSome?]
  congr 1
  funext signature
  simp only [Function.comp_apply, Signature.accept, toOption_map, Option.map_map]
  rfl

/-- A plain call of a callable type. -/
theorem Ty.call_callable_plain (plain : signature.IsPlain) (callee : String) (positions : List Ty)
    (names : List (String × Ty)) (location : Location) :
    ((Ty.callable signature).call callee (Argument.plain positions names) location).toOption =
      if Param.accepts signature.params positions names then some signature.ret else .none := by
  rw [toOption_call_callable, Signature.bindCall_plain plain]

/-- A plain call of an overloaded type goes to the first signature whose parameters accept it. -/
theorem Ty.call_overloaded_plain {signatures : List Signature}
    (plain : ∀ signature ∈ signatures, signature.IsPlain) (callee : String) (positions : List Ty)
    (names : List (String × Ty)) (location : Location) :
    ((Ty.overloaded signatures).call callee (Argument.plain positions names) location).toOption =
      (signatures.find? fun signature =>
        Param.accepts signature.params positions names).map Signature.ret := by
  rw [toOption_call_overloaded]
  induction signatures with
  | nil => rfl
  | cons signature signatures ih =>
    have rest := ih fun other member => plain other (List.mem_cons_of_mem _ member)
    rw [List.findSome?_cons, List.find?_cons, rest,
      Signature.bindCall_plain (plain signature List.mem_cons_self)]
    cases Param.accepts signature.params positions names <;> rfl

end Callwise
