import Callwise.Check.State
import Callwise.Proofs.Substitution.Moves

/-!
# The first argument of an accepted call

The parameters of a call are given indices of arguments, never anything else. So what a strategy
sees as the single type that the first parameter has received belongs to one argument, and the call
has matched that argument with the first parameter. If the other parameters accept anything, nothing
more is learned from them, and the type of the call comes from the first argument alone.
-/

namespace Callwise

variable {formals : List Param}

/-! ### Assignments hold indices of arguments -/

namespace Assignment

/-- Only indices below the bound have been given to parameters. -/
def IsBelow (bound : Nat) (assignment : Assignment) : Prop :=
  ∀ group ∈ assignment.groups, ∀ index ∈ group, index < bound

variable {bound argument : Nat} {assignment : Assignment}

/-- Giving an argument to a parameter. -/
theorem IsBelow.give (below : assignment.IsBelow bound) (small : argument < bound)
    (formal : Nat) : (assignment.give formal argument).IsBelow bound := by
  intro group member index within
  obtain ⟨place, found⟩ := List.mem_iff_getElem?.mp member
  rw [Assignment.give, List.getElem?_modify] at found
  obtain ⟨before, given, rfl⟩ := Option.map_eq_some_iff.mp found
  have known : ∀ index ∈ before, index < bound := below before (List.mem_of_getElem? given)
  split at within
  · rcases List.mem_append.mp within with early | last
    · exact known index early
    · rwa [List.mem_singleton.mp last]
  · exact known index within

/-- Giving an argument to a parameter if there is one. -/
theorem IsBelow.giveTo? (below : assignment.IsBelow bound) (small : argument < bound)
    (formal : Option Nat) : (assignment.giveTo? formal argument).IsBelow bound := by
  cases formal with
  | none => exact below
  | some formal => exact below.give small formal

/-- Giving `*xs` to parameters. -/
theorem IsBelow.giveStar (below : assignment.IsBelow bound) (small : argument < bound)
    (formals : List Param) : (assignment.giveStar formals argument).IsBelow bound := by
  have filled : ∀ (places : List Nat) (start : Assignment), start.IsBelow bound →
      (places.foldl (fun filled formal => filled.give formal argument) start).IsBelow bound := by
    intro places
    induction places with
    | nil => exact fun _ start => start
    | cons place rest ih =>
      intro start startBelow
      exact ih _ (startBelow.give small place)
  apply IsBelow.giveTo? _ small
  exact filled ((positionalIndices formals).drop assignment.passed) assignment below

/-- Giving `**kw` to parameters. -/
theorem IsBelow.giveDoubleStar (below : assignment.IsBelow bound) (small : argument < bound)
    (formals : List Param) : (assignment.giveDoubleStar formals argument).IsBelow bound := by
  apply IsBelow.giveTo? _ small
  intro group member index within
  obtain ⟨place, found⟩ := List.mem_iff_getElem?.mp member
  rw [List.getElem?_zipWith] at found
  split at found
  · rename_i before _ given
    cases found
    split at within
    · rwa [List.mem_singleton.mp within]
    · exact below before (List.mem_of_getElem? given) index within
  · cases found

/-- Giving `name=value` to a parameter. -/
theorem IsBelow.giveNamed {arguments : List Argument} {name : String} {next : Assignment}
    (below : assignment.IsBelow bound) (small : argument < bound)
    (given : assignment.giveNamed arguments formals argument name = .ok next) :
    next.IsBelow bound := by
  unfold Assignment.giveNamed at given
  split at given
  · split at given
    · cases given
    · cases given
      exact below.give small _
  · split at given
    · cases given
      exact below.give small _
    · cases given

/-- Giving a positional argument to a parameter. -/
theorem IsBelow.givePositional {next : Assignment} (below : assignment.IsBelow bound)
    (small : argument < bound) (given : assignment.givePositional formals argument = .ok next) :
    next.IsBelow bound := by
  unfold Assignment.givePositional at given
  split at given
  · cases given
    exact below.give small _
  · split at given
    · cases given
      exact below.give small _
    · cases given

/-- One more argument. -/
theorem IsBelow.step {arguments : List Argument} {next : Assignment} {entry : Argument × Nat}
    (below : assignment.IsBelow bound) (small : entry.2 < bound)
    (stepped : Assignment.step arguments formals assignment entry = .ok next) :
    next.IsBelow bound := by
  obtain ⟨passed, index⟩ := entry
  simp only [Assignment.step] at stepped
  split at stepped
  · cases stepped
    exact below.giveStar small formals
  · cases stepped
    exact below.giveDoubleStar small formals
  · exact below.giveNamed small stepped
  · exact below.giveNamed small stepped
  · exact below.givePositional small stepped
  · exact below.givePositional small stepped

/-- All arguments. -/
theorem IsBelow.steps {arguments : List Argument} {last : Assignment}
    (below : assignment.IsBelow bound) {entries : List (Argument × Nat)}
    (small : ∀ entry ∈ entries, entry.2 < bound)
    (stepped : entries.foldlM (Assignment.step arguments formals) assignment = .ok last) :
    last.IsBelow bound := by
  induction entries generalizing assignment with
  | nil =>
    cases stepped
    exact below
  | cons entry rest ih =>
    rw [List.forall_mem_cons] at small
    rw [List.foldlM_cons] at stepped
    cases first : Assignment.step arguments formals assignment entry with
    | error error => simp [first, bind, Except.bind] at stepped
    | ok next =>
      simp only [first, bind, Except.bind] at stepped
      exact ih (below.step small.1 first) small.2 stepped

end Assignment

/-- Parameters receive indices of arguments. -/
theorem Argument.lt_length_of_assign {arguments : List Argument} {groups : List (List Nat)}
    (assigned : Argument.assign arguments formals = .ok groups) :
    ∀ group ∈ groups, ∀ index ∈ group, index < arguments.length := by
  have start : Assignment.IsBelow arguments.length ⟨formals.map fun _ => [], 0⟩ := by
    intro group member index within
    obtain ⟨_, _, rfl⟩ := List.mem_map.mp member
    cases within
  have small : ∀ entry ∈ arguments.zipIdx, entry.2 < arguments.length := by
    intro entry member
    simpa using List.snd_lt_of_mem_zipIdx member
  unfold Argument.assign at assigned
  cases stepped : arguments.zipIdx.foldlM (Assignment.step arguments formals)
      ⟨formals.map fun _ => [], 0⟩ with
  | error error =>
    simp only [stepped, bind, Except.bind] at assigned
    cases assigned
  | ok last =>
    simp only [stepped, bind, Except.bind] at assigned
    split at assigned
    · cases assigned
    · cases assigned
      exact start.steps small stepped

/-! ### What the first parameter receives -/

/-- The single type that a strategy sees for the first parameter is the type of the one argument
that the parameter receives. -/
theorem Check.first_of_contextOf {arguments : List Argument} {call : AcceptedCall}
    (assigned : Argument.assign arguments formals = .ok call.groups) {fullName file : String}
    {location : Location} {ty : Ty}
    (single : (Check.contextOf fullName call arguments file location).args 0 = [ty]) :
    ∃ index argument others, call.groups = [index] :: others ∧
      arguments[index]? = some argument ∧ argument.ty = ty := by
  have below := Argument.lt_length_of_assign assigned
  simp only [CallContext.args, Check.contextOf] at single
  generalize call.groups = groups at below single
  match groups with
  | [] => simp at single
  | group :: others =>
    have known : ∀ index ∈ group, ∃ argument, arguments[index]? = some argument := by
      intro index within
      have small := below group List.mem_cons_self index within
      exact ⟨arguments[index], List.getElem?_eq_getElem small⟩
    match group with
    | [] => simp at single
    | [index] =>
      obtain ⟨argument, given⟩ := known index List.mem_cons_self
      refine ⟨index, argument, others, rfl, given, ?_⟩
      simpa [given] using single
    | first :: second :: rest =>
      -- two indices stand for two arguments, so there would be two types
      obtain ⟨argument, given⟩ := known first (by simp)
      obtain ⟨further, alsoGiven⟩ := known second (by simp)
      simp [given, alsoGiven] at single

/-- A function contributes itself, or anything at all if it is unpacked. -/
theorem Argument.valueType_of_callable {argument : Argument} {function : Signature}
    (isFunction : argument.ty = .callable function) :
    argument.valueType = .callable function ∨ argument.valueType = .any := by
  obtain ⟨kind, name, ty⟩ := argument
  obtain rfl : ty = .callable function := isFunction
  cases kind <;> simp [Argument.valueType]

/-! ### Parameters that accept anything -/

namespace Substitution

variable (callee : String) (arguments : List Argument) (location : Location)

/-- Nothing is learned from what a parameter of type `Any` receives. -/
theorem bindGroup_any (group : List Nat) (subst : Substitution) :
    subst.bindGroup callee arguments location .any group = .ok subst := by
  induction group with
  | nil => rfl
  | cons index rest ih =>
    simpa only [bindGroup, bind] using ih

/-- Nothing is learned from what parameters of type `Any` receive. -/
theorem bindGroups_any {entries : List (Param × List Nat)}
    (anything : ∀ entry ∈ entries, entry.1.ty = .any) (subst : Substitution) :
    subst.bindGroups callee arguments location entries = .ok subst := by
  induction entries with
  | nil => rfl
  | cons entry rest ih =>
    rw [List.forall_mem_cons] at anything
    simp only [bindGroups, anything.1, bindGroup_any]
    exact ih anything.2

end Substitution

/-- The type of a call comes from the first argument alone if all other parameters accept anything:
the substitution is what the first parameter's type and the argument's type give. -/
theorem Signature.bindCall_of_first {declared : Signature} {first : Param} {others : List Param}
    (params : declared.params = first :: others) (anything : ∀ param ∈ others, param.ty = .any)
    (proper : declared.isEllipsis = false) {callee : String} {arguments : List Argument}
    {location : Location} {groups : List (List Nat)} {defaultType : Ty}
    (accepted : declared.bindCall callee arguments location = .ok (groups, defaultType))
    {fullName file : String} {function : Signature}
    (single : (Check.contextOf fullName ⟨declared, groups, defaultType⟩ arguments file
      location).args 0 = [.callable function]) :
    ∃ found subst, (found = .callable function ∨ found = .any) ∧
      Substitution.empty.bind first.ty found = (true, subst) ∧
      defaultType = subst.instantiate declared declared.ret := by
  unfold Signature.bindCall at accepted
  split at accepted
  · cases accepted
  · rename_i assigned given
    simp only [proper, Bool.false_eq_true, if_false] at accepted
    split at accepted
    · rename_i subst bound
      cases accepted
      obtain ⟨index, argument, more, rfl, known, isFunction⟩ :=
        Check.first_of_contextOf given single
      refine ⟨argument.valueType, subst, Argument.valueType_of_callable isFunction, ?_, rfl⟩
      simp only [params, List.zip_cons_cons, Substitution.bindGroups, Substitution.bindGroup, known,
        Option.map_some, Option.getD_some] at bound
      cases matched : Substitution.empty.bind first.ty argument.valueType with
      | mk fits reached =>
        cases fits with
        | false => simp [matched] at bound
        | true =>
          have rest : ∀ entry ∈ others.zip more, entry.1.ty = .any := by
            intro entry member
            exact anything entry.1 (List.of_mem_zip member).1
          simp only [matched, Substitution.bindGroups_any _ _ _ rest, Except.ok.injEq] at bound
          rw [bound]
    · cases accepted

end Callwise
