import Callwise.Proofs.Call.PlainCall

/-!
# Calls with one positional argument

A call with one positional argument gives it to the first positional parameter, or to the star
parameter if there is none. `Param.Receives` describes the parameters around the one that takes it.
All others stay empty, so the call is complete if no other parameter is required, and its type comes
from matching the argument with the type of that one parameter.
-/

namespace Callwise

namespace Assignment

/-- The first positional parameter is the first of the positional indices. -/
theorem positionalIndices_zero (formals : List Param) :
    (positionalIndices formals)[0]? = formals.findIdx? fun param => param.kind.isPositional := by
  induction formals with
  | nil => rfl
  | cons param formals ih =>
    rw [positionalIndices_cons, List.findIdx?_cons]
    by_cases positional : param.kind.isPositional = true
    · simp [positional]
    · simp [positional, ih]

/-- As long as nothing is given, what is missing is what is required. -/
theorem any_unfilled (formals : List Param) :
    ((formals.zip (formals.map fun _ => ([] : List Nat))).any fun entry =>
      entry.1.kind.isRequired && entry.2.isEmpty) =
        formals.any fun param => param.kind.isRequired := by
  induction formals <;> simp_all

end Assignment

namespace Param

/-- Between these parameters, this one takes the first positional argument: it is the first
positional parameter, or the first star parameter if no parameter is positional. -/
def Receives (before : List Param) (param : Param) (after : List Param) : Prop :=
  (param.kind.isPositional = true ∧ ∀ other ∈ before, other.kind.isPositional = false) ∨
    (param.kind = .star ∧ (∀ other ∈ before, other.kind ≠ .star) ∧
      ∀ other ∈ before ++ param :: after, other.kind.isPositional = false)

/-- Some parameter takes the first positional argument unless there is neither a positional
parameter nor a star parameter. -/
theorem exists_receives (params : List Param) :
    (∃ before param after, params = before ++ param :: after ∧ Receives before param after) ∨
      ∀ param ∈ params, param.kind.isPositional = false ∧ param.kind ≠ .star := by
  cases positional : params.find? fun param => param.kind.isPositional with
  | some param =>
    obtain ⟨kind, before, after, split, others⟩ := List.find?_eq_some_iff_append.mp positional
    exact .inl ⟨before, param, after, split, .inl ⟨kind, by simpa using others⟩⟩
  | none =>
    have none := List.find?_eq_none.mp positional
    cases star : params.find? fun param => param.kind == .star with
    | some param =>
      obtain ⟨kind, before, after, rfl, others⟩ := List.find?_eq_some_iff_append.mp star
      exact .inl ⟨before, param, after, rfl,
        .inr ⟨beq_iff_eq.mp kind, by simpa using others, by simpa using none⟩⟩
    | none =>
      have noStar := List.find?_eq_none.mp star
      exact .inr fun param member =>
        ⟨by simpa using none param member, by simpa using noStar param member⟩

/-- The place of the parameter that takes the first positional argument. -/
theorem Receives.place {before after : List Param} {param : Param}
    (receives : Receives before param after) :
    (Assignment.positionalIndices (before ++ param :: after))[0]?.or
      (Assignment.indexOfKind? (before ++ param :: after) .star) = some before.length := by
  rw [Assignment.positionalIndices_zero, Assignment.indexOfKind?]
  rcases receives with ⟨positional, others⟩ | ⟨star, others, noPositional⟩
  · have first : (before ++ param :: after).findIdx? (fun param => param.kind.isPositional) =
        some before.length := by
      have none := List.findIdx?_eq_none_iff.mpr others
      simp [List.findIdx?_append, none, List.findIdx?_cons, positional]
    rw [first, Option.some_or]
  · have none : (before ++ param :: after).findIdx? (fun param => param.kind.isPositional) =
        none := List.findIdx?_eq_none_iff.mpr noPositional
    have noStar : before.findIdx? (fun param => param.kind == .star) = Option.none :=
      List.findIdx?_eq_none_iff.mpr fun other member => by simpa using others other member
    rw [none, Option.none_or]
    simp [List.findIdx?_append, noStar, List.findIdx?_cons, star]

/-- The type that the first positional argument has to have. -/
theorem Receives.firstPositional? {before after : List Param} {param : Param}
    (receives : Receives before param after) (ret : Ty) :
    (Signature.mk (before ++ param :: after) ret).firstPositional? = some param.ty := by
  have place := receives.place
  rw [Assignment.positionalIndices_zero, Assignment.indexOfKind?] at place
  have here : (before ++ param :: after)[before.length]? = some param := by simp
  simp only [Signature.firstPositional?, Signature.positionals, Signature.star?, List.head?_filter,
    List.find?_eq_bind_findIdx?_getElem?]
  cases first : (before ++ param :: after).findIdx? (fun param => param.kind.isPositional) with
  | some index =>
    rw [first, Option.some_or, Option.some.injEq] at place
    simp [place]
  | none =>
    rw [first, Option.none_or] at place
    simp [place]

/-- The argument goes to the parameter that takes it, and the others stay empty. -/
theorem Receives.givePositional {before after : List Param} {param : Param}
    (receives : Receives before param after) :
    ∃ passed, Assignment.givePositional
      ⟨(before ++ param :: after).map fun _ => [], 0⟩ (before ++ param :: after) 0 =
      .ok ⟨before.map (fun _ => []) ++ [0] :: after.map fun _ => [], passed⟩ := by
  have place := receives.place
  have given : (⟨(before ++ param :: after).map fun _ => [], 0⟩ : Assignment).give before.length 0 =
      ⟨before.map (fun _ => []) ++ [0] :: after.map fun _ => [], 0⟩ := by
    simp only [Assignment.give, Assignment.mk.injEq, and_true]
    clear place receives
    induction before <;> simp_all
  simp only [Assignment.givePositional]
  cases first : (Assignment.positionalIndices (before ++ param :: after))[0]? with
  | some index =>
    rw [first, Option.some_or, Option.some.injEq] at place
    simp only [place, given]
    exact ⟨1, rfl⟩
  | none =>
    rw [first, Option.none_or] at place
    simp only [place, given]
    exact ⟨0, rfl⟩

/-- A call with one positional argument is complete if no other parameter is required. -/
theorem Receives.assign {before after : List Param} {param : Param}
    (receives : Receives before param after) (value : Ty) :
    (Argument.assign (Argument.plain [value] []) (before ++ param :: after)).toOption =
      if (before ++ after).any fun other => other.kind.isRequired then none
      else some (before.map (fun _ => []) ++ [0] :: after.map fun _ => []) := by
  obtain ⟨passed, given⟩ := receives.givePositional
  have incomplete : Assignment.isIncomplete
      ⟨before.map (fun _ => []) ++ [0] :: after.map fun _ => [], passed⟩
      (before ++ param :: after) = (before ++ after).any fun other => other.kind.isRequired := by
    rw [Assignment.isIncomplete, List.zip_append (by simp), List.zip_cons_cons, List.any_append,
      List.any_cons, Assignment.any_unfilled, Assignment.any_unfilled, List.any_append]
    simp
  have single : (Argument.plain [value] []).zipIdx = [(⟨.positional, none, value⟩, 0)] := rfl
  rw [← incomplete, Argument.assign, single, List.foldlM_cons]
  simp only [Assignment.step, given]
  change (if _ then _ else _ : Except _ _).toOption = _
  split <;> rfl

end Param

namespace Substitution

/-- Parameters that receive nothing bind nothing. -/
theorem bindGroups_unfilled (callee : String) (arguments : List Argument) (location : Location)
    (formals : List Param) (rest : List (Param × List Nat)) (subst : Substitution) :
    bindGroups callee arguments location (formals.zip (formals.map fun _ => []) ++ rest) subst =
      bindGroups callee arguments location rest subst := by
  induction formals with
  | nil => rfl
  | cons param formals ih =>
    rw [List.map_cons, List.zip_cons_cons, List.cons_append]
    exact ih

end Substitution

/-- A call with one argument matches it with the parameter that takes it. -/
theorem Substitution.bindGroups_one (before after : List Param) (param : Param) (callee : String)
    (value : Ty) (location : Location) :
    (bindGroups callee (Argument.plain [value] []) location
        ((before ++ param :: after).zip (before.map (fun _ => []) ++ [0] :: after.map fun _ => []))
        empty).toOption =
      if (empty.bind param.ty value).1 then some (empty.bind param.ty value).2 else none := by
  have found : ((Argument.plain [value] [])[0]?.map Argument.valueType).getD .any = value := rfl
  have rest : ∀ subst, bindGroups callee (Argument.plain [value] []) location
      (after.zip (after.map fun _ => [])) subst = .ok subst := by
    intro subst
    have unfilled := bindGroups_unfilled callee (Argument.plain [value] []) location after [] subst
    rw [List.append_nil] at unfilled
    exact unfilled
  rw [List.zip_append (by simp), bindGroups_unfilled, List.zip_cons_cons]
  simp only [bindGroups, bindGroup, found]
  obtain ⟨fits, subst⟩ := empty.bind param.ty value
  cases fits with
  | true =>
    simp only [rest]
    rfl
  | false => rfl

/-- Without a parameter for it, a call refuses the argument. -/
theorem Argument.assign_unreached {formals : List Param}
    (unreached : ∀ param ∈ formals, param.kind.isPositional = false ∧ param.kind ≠ .star)
    (value : Ty) : (assign (plain [value] []) formals).toOption = none := by
  have noPositional : (Assignment.positionalIndices formals)[0]? = none := by
    rw [Assignment.positionalIndices_zero, List.findIdx?_eq_none_iff]
    exact fun param member => (unreached param member).1
  have noStar : Assignment.indexOfKind? formals .star = none :=
    List.findIdx?_eq_none_iff.mpr fun param member => by simp [unreached param member]
  have single : (plain [value] []).zipIdx = [(⟨.positional, none, value⟩, 0)] := rfl
  simp only [assign, single, List.foldlM_cons, Assignment.step, Assignment.givePositional,
    noPositional, noStar]
  rfl

/-- An accepted call with one argument has matched it with the first positional type, and its type
is the instantiated result. -/
theorem Signature.exists_of_bindCall_one {signature : Signature}
    (explicit : signature.isEllipsis = false) {callee : String} {value : Ty} {location : Location}
    {groups : List (List Nat)} {result : Ty}
    (accepted : signature.bindCall callee (Argument.plain [value] []) location =
      .ok (groups, result)) :
    ∃ expected subst, signature.firstPositional? = some expected ∧
      Substitution.empty.bind expected value = (true, subst) ∧
      result = subst.instantiate signature signature.ret := by
  have called := signature.toOption_bindCall callee (Argument.plain [value] []) location
  rw [accepted, explicit] at called
  obtain ⟨before, param, after, split, receives⟩ | unreached :=
    Param.exists_receives signature.params
  · obtain ⟨params, ret⟩ := signature
    obtain rfl : params = before ++ param :: after := split
    rw [receives.assign value] at called
    split at called
    · cases called
    · simp only [Option.bind_some, Bool.false_eq_true, if_false,
        Substitution.bindGroups_one] at called
      cases matched : Substitution.empty.bind param.ty value with
      | mk fits subst =>
        rw [matched] at called
        cases fits with
        | true =>
          exact ⟨param.ty, subst, receives.firstPositional? ret, matched, Option.some.inj called⟩
        | false => cases called
  · rw [Argument.assign_unreached unreached] at called
    cases called

end Callwise
