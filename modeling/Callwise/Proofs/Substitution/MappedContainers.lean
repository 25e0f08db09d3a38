import Callwise.Proofs.Substitution.Instances
import Callwise.Proofs.Substitution.StableMatches
import Mathlib.Data.List.DropRight

/-!
# Mapping over a container

A function that works for every container takes `KindN[K, p, V, ...]` and returns
`KindN[K, q, V, ...]`: the first argument changes, the container and its other arguments are
variables. Matching a container binds `K` to its name and each further variable to the argument at
its place; variables beyond the last argument stay unsolved. Applying the result puts the container
together again and drops what is unsolved at the end.

Dropping goes by the form of the arguments and not by whether they have been solved: an argument
that is a variable of the caller looks like an unsolved one. So the container keeps its other
arguments exactly if the last of them is not a bare variable.
-/

namespace Callwise

/-! ### Variables at the end of a list -/

namespace Ty

/-- Dropping variables at the end, in the words of the library. -/
theorem dropTrailingVars_eq_rdropWhile (types : List Ty) :
    dropTrailingVars types = types.rdropWhile isTypeVar := rfl

/-- Variables that stand behind other types are dropped. -/
theorem dropTrailingVars_append_vars (types : List Ty) (vars : List String) :
    dropTrailingVars (types ++ vars.map .typeVar) = dropTrailingVars types := by
  have each : ∀ ty ∈ (vars.map Ty.typeVar).reverse, ty.isTypeVar = true := by
    intro ty member
    obtain ⟨name, _, rfl⟩ := List.mem_map.mp (List.mem_reverse.mp member)
    rfl
  rw [dropTrailingVars_eq_rdropWhile, dropTrailingVars_eq_rdropWhile, List.rdropWhile,
    List.reverse_append, List.dropWhile_append_of_pos each, List.rdropWhile]

/-- A type in front that is no variable stays. -/
theorem dropTrailingVars_cons {ty : Ty} (solid : ty.isTypeVar = false) (types : List Ty) :
    dropTrailingVars (ty :: types) = ty :: dropTrailingVars types := by
  rw [dropTrailingVars_eq_rdropWhile, dropTrailingVars_eq_rdropWhile, List.rdropWhile,
    List.rdropWhile, List.reverse_cons, List.dropWhile_append]
  split
  · rename_i nothing
    rw [List.isEmpty_iff.mp nothing]
    simp [solid]
  · simp

/-- Nothing is dropped exactly if the last type is no variable. -/
theorem dropTrailingVars_eq_self_iff (types : List Ty) :
    dropTrailingVars types = types ↔ ∀ name, types.getLast? ≠ some (.typeVar name) := by
  rw [dropTrailingVars_eq_rdropWhile, List.rdropWhile_eq_self_iff]
  cases types using List.reverseRecOn with
  | nil => simp
  | append_singleton types last =>
    cases last <;> simp [isTypeVar]

/-- A container passed as a type, with its first argument given: the container itself and its
further arguments are variables. -/
def kind (container : String) (first : Ty) (vars : List String) : Ty :=
  .generic kindName (.typeVar container :: first :: vars.map .typeVar)

end Ty

namespace Substitution

/-! ### Matching and applying -/

/-- A container is matched with a container passed as a type by its name and then by its
arguments. -/
theorem bind_kind (subst : Substitution) {name : String} (ordinary : name ≠ kindName)
    (patterns actuals : List Ty) :
    subst.bind (.generic kindName patterns) (.generic name actuals) =
      subst.bindKind patterns name actuals := by
  simp [bind, ordinary]

/-- Variables without values stay as they are. -/
theorem applyList_unbound {subst : Substitution} {vars : List String}
    (unbound : ∀ var ∈ vars, subst.find? var = none) :
    subst.applyList (vars.map .typeVar) = vars.map .typeVar := by
  rw [applyList_eq_map, List.map_map]
  apply List.map_congr_left
  intro var within
  simp [apply, unbound var within]

/-- Distinct variables without values take the types they are matched with, one by one. Variables
for which there is no type left stay unsolved. -/
theorem bindAll_fresh {subst : Substitution} {vars : List String} {actuals : List Ty}
    (distinct : vars.Nodup) (unbound : ∀ var ∈ vars, subst.find? var = none)
    (arity : actuals.length ≤ vars.length) :
    ∃ after, subst.bindAll (vars.map .typeVar) actuals = (true, after) ∧
      (∀ var, var ∉ vars → after.find? var = subst.find? var) ∧
      after.applyList (vars.map .typeVar) =
        actuals ++ (vars.drop actuals.length).map .typeVar := by
  induction vars generalizing subst actuals with
  | nil =>
    obtain rfl : actuals = [] := List.length_eq_zero_iff.mp (Nat.le_zero.mp arity)
    exact ⟨subst, rfl, fun _ _ => rfl, rfl⟩
  | cons var vars ih =>
    obtain ⟨foreign, restDistinct⟩ := List.nodup_cons.mp distinct
    cases actuals with
    | nil => exact ⟨subst, rfl, fun _ _ => rfl, applyList_unbound unbound⟩
    | cons actual actuals =>
      have restUnbound : ∀ other ∈ vars, (subst.insert var actual).find? other = none := by
        intro other within
        have different : other ≠ var := fun same => foreign (same ▸ within)
        rw [NameMap.find?_insert, beq_false_of_ne different]
        exact unbound other (List.mem_cons_of_mem var within)
      obtain ⟨after, matched, kept, applied⟩ :=
        ih restDistinct restUnbound (Nat.le_of_succ_le_succ arity)
      have first := bind_unbound subst (unbound var List.mem_cons_self) actual
      refine ⟨after, ?_, ?_, ?_⟩
      · simp only [List.map_cons, bindAll, first, matched]
      · intro other outside
        rw [List.mem_cons, not_or] at outside
        rw [kept other outside.2, NameMap.find?_insert, beq_false_of_ne outside.1]
        rfl
      · have here : after.find? var = some actual := by
          rw [kept var foreign, NameMap.find?_insert, beq_self_eq_true]
          rfl
        simp [applyList, apply, here, applied]

/-- Let a container be matched with a container passed as a type whose first argument has nothing to
bind. Applying the result to the same with another first argument gives the container with that
argument in front, without the variables at the end of its further arguments. -/
theorem apply_kind_of_bind_kind {name : String} (ordinary : name ≠ kindName) {container : String}
    {vars : List String} (distinct : (container :: vars).Nodup) {pattern replacement first : Ty}
    (closed : pattern.hasTypeVars = false) (kindFree : pattern.isKindFree = true)
    (fits : (empty.bind pattern first).1 = true) (ground : replacement.IsGround) {rest : List Ty}
    (arity : rest.length ≤ vars.length) :
    ∃ after, empty.bind (.kind container pattern vars) (.generic name (first :: rest)) =
        (true, after) ∧
      after.apply (.kind container replacement vars) =
        .generic name (replacement :: Ty.dropTrailingVars rest) := by
  obtain ⟨foreign, restDistinct⟩ := List.nodup_cons.mp distinct
  have unbound : ∀ var ∈ vars, (empty.insert container (.named name)).find? var = none := by
    intro var within
    have different : var ≠ container := fun same => foreign (same ▸ within)
    rw [NameMap.find?_insert, beq_false_of_ne different]
    rfl
  obtain ⟨after, matched, kept, applied⟩ := bindAll_fresh restDistinct unbound arity
  have constructor : after.find? container = some (.named name) := by
    rw [kept container foreign, NameMap.find?_insert, beq_self_eq_true]
    rfl
  refine ⟨after, ?_, ?_⟩
  · have free : empty.find? container = none := rfl
    have named := bind_unbound empty free (.named name)
    have argument := bind_closed (empty.insert container (.named name)) first closed kindFree
    simp only [Ty.kind, bind_kind empty ordinary, bindKind, named, bindAll, argument, fits, matched]
  · have solid : replacement.isTypeVar = false := by
      cases replacement
      case typeVar => exact absurd ground.closed (by simp [Ty.hasTypeVars])
      all_goals rfl
    simp only [Ty.kind, apply, beq_self_eq_true, if_true, applyList, constructor, Option.getD_some,
      apply_ground after ground, applied, Ty.ofKind]
    rw [Ty.dropTrailingVars_cons solid, Ty.dropTrailingVars_append_vars]

/-- Mapping over a container succeeds whenever its first argument fits, and keeps the container and
its further arguments exactly if the last of these is not a bare variable. -/
theorem mapped_container_eq_iff {name : String} (ordinary : name ≠ kindName) {container : String}
    {vars : List String} (distinct : (container :: vars).Nodup) {pattern replacement first : Ty}
    (closed : pattern.hasTypeVars = false) (kindFree : pattern.isKindFree = true)
    (fits : (empty.bind pattern first).1 = true) (ground : replacement.IsGround) {rest : List Ty}
    (arity : rest.length ≤ vars.length) :
    (empty.bind (.kind container pattern vars) (.generic name (first :: rest))).1 = true ∧
      ((empty.bind (.kind container pattern vars) (.generic name (first :: rest))).2.apply
          (.kind container replacement vars) = .generic name (replacement :: rest) ↔
        ∀ var, rest.getLast? ≠ some (.typeVar var)) := by
  obtain ⟨after, matched, applied⟩ :=
    apply_kind_of_bind_kind ordinary distinct closed kindFree fits ground arity
  rw [matched]
  refine ⟨rfl, ?_⟩
  rw [applied, Ty.generic.injEq, List.cons.injEq, ← Ty.dropTrailingVars_eq_self_iff]
  simp

/-- The second argument of a result mentions a variable of the caller inside and is kept. The third
variable has no argument and is dropped. -/
theorem mapped_result_eq :
    (empty.bind .float .int).1 = true ∧
      (empty.bind (.kind "K" .float ["S", "T"])
        (.generic "Result" [.int, .list (.typeVar "E")])).2.apply (.kind "K" .str ["S", "T"]) =
      .generic "Result" [.str, .list (.typeVar "E")] := by
  have fits : (empty.bind .float .int).1 = true := by decide +kernel
  refine ⟨fits, ?_⟩
  apply (mapped_container_eq_iff (by decide) (by decide) (by decide) (by decide) fits (by decide)
    (by decide)).2.mpr
  intro var last
  cases last

/-- The second argument of a result is a variable of the caller. It is taken for an unsolved one and
lost. -/
theorem mapped_result_loses_variable :
    (empty.bind (.kind "K" .int ["S"]) (.generic "Result" [.int, .typeVar "E"])).1 = true ∧
      (empty.bind (.kind "K" .int ["S"]) (.generic "Result" [.int, .typeVar "E"])).2.apply
        (.kind "K" .bool ["S"]) = .generic "Result" [.bool] := by
  decide +kernel

end Substitution

end Callwise
