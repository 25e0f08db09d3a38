import Callwise.Proofs.Refine.PartialSeats
import Mathlib

/-!
# Filling parameters early changes nothing

`partial` fills some parameters of a function, and a later call gives its arguments to those that
are left. Together the two accept the same arguments as one direct call, and give the same type.

Both ways are described by the seats of a plain call. A seat taken early by position leaves the
later positions where they were; one taken early by name would leave a hole, so the parameters
behind it can be reached by name only, and the direct call refuses positions there too.
`Param.splitsCalls` follows the parameters with the flag that records such a hole.
-/

namespace Callwise

namespace PartialCall

/-- Each parameter that is left comes from one with the same name. It is as variadic as that one,
and its type has been instantiated. -/
theorem mem_remaining {subst : Substitution} {entries : List (Param × Filling)} {namesOnly : Bool}
    {left : Param} (member : left ∈ remaining subst entries namesOnly) :
    ∃ entry ∈ entries, left.name = entry.1.name ∧ left.ty = subst.apply entry.1.ty ∧
      left.kind.isVariadic = entry.1.kind.isVariadic := by
  induction entries generalizing namesOnly with
  | nil => cases member
  | cons entry entries ih =>
    have later : ∀ namesOnly, left ∈ remaining subst entries namesOnly →
        ∃ before ∈ entry :: entries, left.name = before.1.name ∧
          left.ty = subst.apply before.1.ty ∧
          left.kind.isVariadic = before.1.kind.isVariadic := by
      intro namesOnly member
      obtain ⟨before, within, same⟩ := ih member
      exact ⟨before, List.mem_cons_of_mem _ within, same⟩
    obtain ⟨param, filling⟩ := entry
    cases filling with
    | byPosition => exact later _ member
    | byName => exact later _ member
    | free =>
      rw [remaining] at member
      rcases List.mem_cons.mp member with rfl | member
      · refine ⟨(param, .free), List.mem_cons_self, rfl, rfl, ?_⟩
        cases namesOnly <;> cases param.kind <;> rfl
      · exact later _ member

/-- Once a positional parameter has been filled by name, no position reaches what is left. -/
theorem remaining_namesOnly {subst : Substitution} {entries : List (Param × Filling)}
    {left : Param} (member : left ∈ remaining subst entries true) :
    left.kind.isPositional = false := by
  induction entries with
  | nil => cases member
  | cons entry entries ih =>
    obtain ⟨param, filling⟩ := entry
    cases filling with
    | byPosition => exact ih member
    | byName => exact ih member
    | free =>
      rw [remaining] at member
      rcases List.mem_cons.mp member with rfl | member
      · cases param.kind <;> rfl
      · exact ih member

end PartialCall

namespace Param

open PartialCall (remaining)

variable {param : Param}

/-- An impossible seat stays impossible with further arguments. -/
theorem seat_append_eq_none {α : Type} {early : List α} {earlyNames : List (String × α)}
    (impossible : param.seat early earlyNames = none) (late : List α)
    (lateNames : List (String × α)) :
    param.seat (early ++ late) (earlyNames ++ lateNames) = none := by
  unfold seat at impossible ⊢
  by_cases positional : param.kind.isPositional = true
  · match early, earlyNames with
    | [], [] | [], [_] | _ :: _, [] => simp [positional] at impossible
    | [], _ :: _ :: _ => cases late <;> simp [positional]
    | _ :: _, _ :: _ => simp [positional]
  · match earlyNames with
    | [] | [_] => simp [positional] at impossible
    | _ :: _ :: _ => simp [positional]

/-- A seat that has been taken cannot be taken by a name. -/
theorem seat_append_twice {α : Type} {early left : List α}
    {earlyNames lateNames : List (String × α)} {seat : Seat α}
    (taken : param.seat early earlyNames = some (seat, left)) (seated : seat.isFree = false)
    (claimed : lateNames ≠ []) (late : List α) :
    param.seat (early ++ late) (earlyNames ++ lateNames) = none := by
  obtain ⟨entry, lateNames, rfl⟩ := List.exists_cons_of_ne_nil claimed
  obtain ⟨argument, positional, rfl, rfl, rfl⟩ |
    ⟨_, _, ⟨_, rfl⟩ | ⟨name, argument, rfl, rfl⟩⟩ := seat_cases taken
  · simp [Param.seat, positional]
  · cases seated
  · unfold Param.seat
    cases (if param.kind.isPositional then early ++ late else []) <;> rfl

/-- Later positions are left as they are by a parameter that no early position reaches. -/
theorem seat_append_unreached {α : Type} {early : List α}
    (unreached : (if param.kind.isPositional then early else []) = []) (late : List α)
    (names : List (String × α)) :
    param.seat (early ++ late) names =
      (param.seat late names).map fun taken => (taken.1, early ++ taken.2) := by
  by_cases positional : param.kind.isPositional = true
  · obtain rfl : early = [] := by simpa [positional] using unreached
    simp
  · unfold seat
    match names with
    | [] | [_] | _ :: _ :: _ => simp [positional]

/-- A parameter that has been filled is gone, and with distinct names nothing that is left answers
in its place. -/
theorem accepts_remaining_own {params : List Param}
    (distinct : ((param :: params).filterMap Param.name).Nodup) {lateNames : List (String × Ty)}
    (claimed : param.own lateNames ≠ []) (fillings : List PartialCall.Filling) (namesOnly : Bool)
    (late : List Ty) :
    accepts (remaining .empty (params.zip fillings) namesOnly) late lateNames = false := by
  obtain ⟨entry, member⟩ := List.exists_mem_of_ne_nil _ claimed
  obtain ⟨passed, answers⟩ := List.mem_filter.mp member
  have named : param.name = some entry.1 := by
    simp only [answersTo, Bool.and_eq_true, beq_iff_eq] at answers
    exact answers.2
  have unanswered : ∀ left ∈ remaining .empty (params.zip fillings) namesOnly,
      left.answersTo entry.1 = false := by
    intro left within
    obtain ⟨before, zipped, sameName, _⟩ := PartialCall.mem_remaining within
    rw [Bool.eq_false_iff]
    intro answering
    simp only [answersTo, Bool.and_eq_true, beq_iff_eq] at answering
    have twice : entry.1 ∈ params.filterMap Param.name :=
      List.mem_filterMap.mpr ⟨before.1, (List.of_mem_zip zipped).1, sameName ▸ answering.2⟩
    rw [List.filterMap_cons_some named] at distinct
    exact (List.nodup_cons.mp distinct).1 twice
  have impossible := seats_unanswered late (List.mem_map_of_mem passed) unanswered
  rw [accepts, impossible]
  rfl

/-- A position finds no place behind a parameter that has been filled by name. -/
theorem accepts_remaining_namesOnly {late : List Ty} (passed : late ≠ [])
    (entries : List (Param × PartialCall.Filling)) (lateNames : List (String × Ty)) :
    accepts (remaining .empty entries true) late lateNames = false := by
  rw [accepts, seats_unreached passed lateNames fun left => PartialCall.remaining_namesOnly]
  rfl

/-- A parameter that stays free takes the late arguments as it did before. It may have become
reachable by name only, but then there are no late positions. -/
theorem accepts_cons_remaining (ground : param.ty.IsGround) {namesOnly : Bool} {late : List Ty}
    (exhausted : namesOnly = true → late = []) (lefts : List Param)
    (lateNames : List (String × Ty)) :
    accepts (⟨param.name, if namesOnly then param.kind.toNamed else param.kind,
        Substitution.empty.apply param.ty⟩ :: lefts) late lateNames =
      (param.seat late (param.own lateNames)).any fun taken =>
        param.settles taken.1 && accepts lefts taken.2 (param.others lateNames) := by
  rw [accepts_cons, Substitution.apply_ground _ ground]
  cases namesOnly with
  | false => rfl
  | true =>
    obtain rfl := exhausted rfl
    obtain ⟨name, kind, ty⟩ := param
    cases kind <;> rfl

/-- If no argument names the parameter, all arguments go on to the others. -/
theorem others_eq_self {α : Type} {names : List (String × α)} (unnamed : param.own names = []) :
    param.others names = names := by
  rw [own, List.filter_eq_nil_iff] at unnamed
  rw [others, List.filter_eq_self]
  intro entry member
  simpa using unnamed entry member

/-- Early and late arguments together are accepted exactly if the early ones have suitable seats
and the parameters that are left accept the late ones. The flag says that a positional parameter in
front has been filled by name; then no position may be left. -/
def SplitsCalls (params : List Param) : Prop :=
  ∀ (early late : List Ty) (earlyNames lateNames : List (String × Ty)) (namesOnly : Bool),
    (namesOnly = true → early = [] ∧ late = []) →
      accepts params (early ++ late) (earlyNames ++ lateNames) =
        (suitableSeats params early earlyNames).any fun placed =>
          accepts (remaining .empty (params.zip (placed.map Seat.filling)) namesOnly) late lateNames

/-! ### One more parameter, by the way in which it has been filled early -/

section

variable {param : Param} {params : List Param} (rest : SplitsCalls params)
  {early late left : List Ty} {earlyNames lateNames : List (String × Ty)} {namesOnly : Bool}

/-- A parameter that has been filled early and is named late: the direct call refuses the second
argument, and later nobody answers to the name. -/
theorem accepts_append_twice (distinct : ((param :: params).filterMap Param.name).Nodup)
    {seat : Seat Ty} (taken : param.seat early (param.own earlyNames) = some (seat, left))
    (seated : seat.isFree = false) (claimed : param.own lateNames ≠ []) (late : List Ty)
    (namesOnly : Bool) :
    accepts (param :: params) (early ++ late) (earlyNames ++ lateNames) = false ∧
      ∀ placed : List (Seat Ty), accepts (remaining .empty
        ((param :: params).zip ((seat :: placed).map Seat.filling)) namesOnly) late lateNames =
          false := by
  have gone := accepts_remaining_own distinct claimed
  constructor
  · rw [accepts_cons, own_append, seat_append_twice taken seated claimed]
    rfl
  · intro placed
    cases seat with
    | free => cases seated
    | byPosition argument => exact gone _ _ late
    | byName argument => exact gone _ _ late

include rest

/-- A parameter that has been filled early by position is gone, and the later arguments pass it
by. -/
theorem accepts_append_byPosition {argument : Ty} (positional : param.kind.isPositional = true)
    (unnamed : param.own earlyNames = []) (unclaimed : param.own lateNames = [])
    (exhausted : namesOnly = true → argument :: left = [] ∧ late = []) :
    accepts (param :: params) (argument :: left ++ late) (earlyNames ++ lateNames) =
      (param.suits (.byPosition argument) &&
        (suitableSeats params left (param.others earlyNames)).any fun placed =>
          accepts (remaining .empty
            ((param :: params).zip ((.byPosition argument :: placed).map Seat.filling)) namesOnly)
            late lateNames) := by
  have noHole : namesOnly = true → left = [] ∧ late = [] := fun hole =>
    absurd (exhausted hole).1 (List.cons_ne_nil _ _)
  have direct : param.seat (argument :: left ++ late) [] =
      some (.byPosition argument, left ++ late) := by
    simp [seat, positional]
  rw [accepts_cons, own_append, others_append, unnamed, unclaimed, List.append_nil, direct,
    others_eq_self unclaimed, Option.any_some, rest left late _ _ namesOnly noHole]
  simp [settles, Seat.isFree, Seat.filling, remaining]

/-- A parameter that has been filled early by name is gone. If it was positional, the direct call
refuses positions from here on, and so do the parameters that are left. -/
theorem accepts_append_byName {name : String} {argument : Ty}
    (unreached : (if param.kind.isPositional then early else []) = [])
    (named : param.own earlyNames = [(name, argument)]) (unclaimed : param.own lateNames = [])
    (exhausted : namesOnly = true → early = [] ∧ late = []) :
    accepts (param :: params) (early ++ late) (earlyNames ++ lateNames) =
      (param.suits (.byName argument) &&
        (suitableSeats params early (param.others earlyNames)).any fun placed =>
          accepts (remaining .empty
            ((param :: params).zip ((.byName argument :: placed).map Seat.filling)) namesOnly)
            late lateNames) := by
  rw [accepts_cons, own_append, others_append, named, unclaimed, List.append_nil,
    others_eq_self unclaimed]
  by_cases positional : param.kind.isPositional = true
  · obtain rfl : early = [] := by simpa [positional] using unreached
    cases late with
    | nil =>
      have following := rest [] [] (param.others earlyNames) lateNames true fun _ => ⟨rfl, rfl⟩
      rw [List.append_nil] at following
      simp [seat, positional, following, settles, Seat.isFree, Seat.filling, remaining]
    | cons position late =>
      have blocked := accepts_remaining_namesOnly (List.cons_ne_nil position late)
      simp [seat, positional, Seat.filling, remaining, blocked]
  · have following := rest early late (param.others earlyNames) lateNames namesOnly exhausted
    simp [seat, positional, following, settles, Seat.isFree, Seat.filling, remaining]

/-- A parameter that has stayed free takes what it takes in the direct call. -/
theorem accepts_append_free (ground : param.ty.IsGround)
    (unreached : (if param.kind.isPositional then early else []) = [])
    (unnamed : param.own earlyNames = [])
    (exhausted : namesOnly = true → early = [] ∧ late = []) :
    accepts (param :: params) (early ++ late) (earlyNames ++ lateNames) =
      (param.suits .free &&
        (suitableSeats params early (param.others earlyNames)).any fun placed =>
          accepts (remaining .empty ((param :: params).zip ((.free :: placed).map Seat.filling))
            namesOnly) late lateNames) := by
  rw [accepts_cons, own_append, others_append, unnamed, List.nil_append,
    seat_append_unreached unreached]
  simp only [suits_free, Bool.true_and, List.map_cons, Seat.filling, List.zip_cons_cons, remaining,
    accepts_cons_remaining ground fun hole => (exhausted hole).2]
  cases taken : param.seat late (param.own lateNames) with
  | none => simp
  | some result =>
    obtain ⟨seat, left⟩ := result
    have noHole : namesOnly = true → early = [] ∧ left = [] := by
      intro hole
      obtain ⟨rfl, rfl⟩ := exhausted hole
      obtain ⟨_, _, passed, _⟩ | ⟨_, rfl, _⟩ := seat_cases taken
      · cases passed
      · exact ⟨rfl, rfl⟩
    simp only [Option.map_some, Option.any_some, rest early left _ _ namesOnly noHole]
    cases param.settles seat <;> simp

end

/-- Ground parameters with distinct names split calls. -/
theorem splitsCalls {params : List Param} (ground : ∀ param ∈ params, param.ty.IsGround)
    (distinct : (params.filterMap Param.name).Nodup) : SplitsCalls params := by
  induction params with
  | nil =>
    intro early late earlyNames lateNames namesOnly _
    cases early <;> cases earlyNames <;>
      simp [suitableSeats, accepts, seats, allSuit, remaining, Option.filter_some]
  | cons param params ih =>
    intro early late earlyNames lateNames namesOnly exhausted
    have rest : SplitsCalls params :=
      ih (fun param member => ground param (List.mem_cons_of_mem _ member))
        (((List.sublist_cons_self param params).filterMap _).nodup distinct)
    rw [any_suitableSeats_cons]
    cases taken : param.seat early (param.own earlyNames) with
    | none =>
      rw [accepts_cons, own_append, seat_append_eq_none taken]
      rfl
    | some result =>
      obtain ⟨seat, left⟩ := result
      rw [Option.any_some]
      by_cases twice : seat.isFree = false ∧ param.own lateNames ≠ []
      · obtain ⟨direct, staged⟩ :=
          accepts_append_twice distinct taken twice.1 twice.2 late namesOnly
        simp only [direct, staged]
        simp
      · obtain ⟨argument, positional, rfl, unnamed, rfl⟩ |
          ⟨unreached, rfl, ⟨unnamed, rfl⟩ | ⟨name, argument, named, rfl⟩⟩ := seat_cases taken
        · have unclaimed : param.own lateNames = [] := by simpa [Seat.isFree] using twice
          exact accepts_append_byPosition rest positional unnamed unclaimed exhausted
        · exact accepts_append_free rest (ground param List.mem_cons_self) unreached unnamed
            exhausted
        · have unclaimed : param.own lateNames = [] := by simpa [Seat.isFree] using twice
          exact accepts_append_byName rest unreached named unclaimed exhausted

end Param

namespace PartialCall

/-- What is left of a plain signature is a plain signature. -/
theorem isPlain_remaining {function : Signature} (plain : function.IsPlain)
    (fillings : List Filling) (namesOnly : Bool) :
    Signature.IsPlain
      ⟨remaining .empty (function.params.zip fillings) namesOnly, function.ret⟩ where
  unstarred left member := by
    obtain ⟨before, zipped, _, _, sameKind⟩ := mem_remaining member
    rw [sameKind]
    exact plain.unstarred before.1 (List.of_mem_zip zipped).1
  params left member := by
    obtain ⟨before, zipped, _, sameType, _⟩ := mem_remaining member
    have ground := plain.params before.1 (List.of_mem_zip zipped).1
    rw [sameType, Substitution.apply_ground _ ground]
    exact ground
  ret := plain.ret

/-- Giving some arguments to `partial` and the rest to the call of what it returns succeeds with a
type exactly if the direct call with all arguments succeeds with this type. -/
theorem call_after_partial_iff_call {function : Signature} (plain : function.IsPlain)
    (distinct : (function.params.filterMap Param.name).Nodup) (context : CallContext)
    (callee lateCallee : String) (location lateLocation : Location) (early late : List Ty)
    (earlyNames lateNames : List (String × Ty)) (result : Ty) :
    (∃ left groups, Given.apply ⟨early, earlyNames⟩ context function = .ok left ∧
        left.bindCall lateCallee (Argument.plain late lateNames) lateLocation =
          .ok (groups, result)) ↔
      ∃ groups, function.bindCall callee
        (Argument.plain (early ++ late) (earlyNames ++ lateNames)) location =
          .ok (groups, result) := by
  have applied := Given.apply_plain ⟨early, earlyNames⟩ context plain
  have together := Param.splitsCalls plain.params distinct early late earlyNames lateNames false
    fun hole => absurd hole Bool.false_ne_true
  rw [Signature.bindCall_plain_iff plain, together]
  constructor
  · rintro ⟨left, groups, succeeds, called⟩
    rw [succeeds] at applied
    obtain ⟨placed, suitable, rfl⟩ := Option.map_eq_some_iff.mp applied.symm
    have accepted := (Signature.bindCall_plain_iff (isPlain_remaining plain _ _) ..).mp
      ⟨groups, called⟩
    exact ⟨by simpa [suitable] using accepted.1, accepted.2⟩
  · rintro ⟨accepted, rfl⟩
    cases suitable : Param.suitableSeats function.params early earlyNames with
    | none => simp [suitable] at accepted
    | some placed =>
      rw [suitable] at applied accepted
      obtain ⟨groups, called⟩ := (Signature.bindCall_plain_iff (isPlain_remaining plain _ _)
        lateCallee late lateNames lateLocation function.ret).mpr ⟨accepted, rfl⟩
      exact ⟨_, groups, toOption_eq_some_iff.mp applied, called⟩

/-- With `f(a: int, b: str, c: float = ...) -> bool`, the call `partial(f, a=1)(b="")` gives a
`bool`, since `f(a=1, b="")` does. -/
theorem call_after_partial_by_name :
    ∃ left groups, Given.apply ⟨[], [("a", .int)]⟩ default
        ⟨[⟨some "a", .positional, .int⟩, ⟨some "b", .positional, .str⟩,
          ⟨some "c", .optional, .float⟩], .bool⟩ = .ok left ∧
      left.bindCall "g" (Argument.plain [] [("b", .str)]) default = .ok (groups, .bool) :=
  (call_after_partial_iff_call (by decide) (by decide) default "f" "g" default default [] []
    [("a", .int)] [("b", .str)] .bool).mpr ⟨[[0], [1], []], by cbv⟩

end PartialCall

end Callwise
