import Callwise.Proofs.Call.Inheritance

/-!
# The callee's own type variables stay inside the call

A signature is declared with type variables of its own. A call matches some of them with the types
of the arguments; the values may mention variables again, but these came in with the arguments. The
variables that no argument has reached are erased from the type of the call. So whatever variable
is left in the type of a call occurs in an argument.

Only the names are compared: a variable of the callee and one of an argument may have the same name,
and then erasing the first also erases the second.
-/

namespace Callwise

/-- A union mentions only certain variables exactly if its members do. -/
theorem Ty.union_mentionsOnly_iff (permitted : String → Prop) (members : List Ty) :
    (∀ name ∈ (Ty.union members).typeVarOccurrences, permitted name) ↔
      ∀ member ∈ members, ∀ name ∈ member.typeVarOccurrences, permitted name := by
  simp only [Ty.typeVarOccurrences, Ty.mem_typeVarOccurrencesIn]
  constructor
  · intro whole member within name occurs
    exact whole name ⟨member, within, occurs⟩
  · rintro each name ⟨member, within, occurs⟩
    exact each member within name occurs

/-- Mentioning no other variables than certain ones is hereditary. -/
theorem Ty.Hereditary.mentionsOnly (permitted : String → Prop) :
    Hereditary fun ty => ∀ name ∈ ty.typeVarOccurrences, permitted name where
  component := by
    intro ty part whole member name occurs
    exact whole name ((Ty.mem_typeVarOccurrences ty name).mpr (.inr ⟨part, member, occurs⟩))
  build := by
    intro ty _ solid parts name occurs
    rcases (Ty.mem_typeVarOccurrences ty name).mp occurs with same | ⟨part, member, inside⟩
    · exact absurd same (solid name)
    · exact parts part member name inside
  unionOf := by
    intro types each
    exact Ty.holds_unionOf (fun name => nofun) (fun name => nofun)
      (Ty.union_mentionsOnly_iff permitted) each

namespace Substitution

/-- Erasing leaves no variable that is listed. -/
theorem not_mem_of_mem_erasing {vars : List String} {ty : Ty} {name : String}
    (occurs : name ∈ ((erasing vars).apply ty).typeVarOccurrences) :
    name ∈ ty.typeVarOccurrences ∧ name ∉ vars := by
  have hereditary := Ty.Hereditary.mentionsOnly fun name =>
    name ∈ ty.typeVarOccurrences ∧ name ∉ vars
  refine hereditary.apply_of_variables ty ?_ name occurs
  intro var inside other left
  simp only [apply, find?_erasing] at left
  split at left
  · cases left
  · rename_i unlisted
    obtain rfl : other = var := by simpa [Ty.typeVarOccurrences] using left
    exact ⟨inside, unlisted⟩

/-- Applying a substitution leaves variables without a value, and brings in those of the values. -/
theorem mem_typeVarOccurrences_apply {subst : Substitution} {permitted : String → Prop}
    (holds : subst.Holds fun value => ∀ name ∈ value.typeVarOccurrences, permitted name) {ty : Ty}
    {name : String} (occurs : name ∈ (subst.apply ty).typeVarOccurrences) :
    permitted name ∨ (name ∈ ty.typeVarOccurrences ∧ subst.contains name = false) := by
  have hereditary := Ty.Hereditary.mentionsOnly fun name =>
    permitted name ∨ (name ∈ ty.typeVarOccurrences ∧ subst.contains name = false)
  refine hereditary.apply_of_variables ty ?_ name occurs
  intro var inside other left
  simp only [apply] at left
  cases found : subst.find? var with
  | none =>
    obtain rfl : other = var := by simpa [found, Ty.typeVarOccurrences] using left
    exact .inr ⟨inside, by simp [NameMap.contains, found]⟩
  | some value =>
    rw [found, Option.getD_some] at left
    exact .inl (holds var value found other left)

/-- Instantiating a type whose variables are declared leaves only variables of the values. -/
theorem permitted_of_mem_instantiate {subst : Substitution} {permitted : String → Prop}
    (holds : subst.Holds fun value => ∀ name ∈ value.typeVarOccurrences, permitted name)
    {declared : Signature} {ty : Ty} (own : ty.typeVarOccurrences ⊆ declared.typeVarOccurrences)
    {name : String} (occurs : name ∈ (subst.instantiate declared ty).typeVarOccurrences) :
    permitted name := by
  unfold instantiate at occurs
  obtain ⟨applied, bound⟩ := not_mem_of_mem_erasing occurs
  rcases mem_typeVarOccurrences_apply holds applied with permitted | ⟨inside, unbound⟩
  · exact permitted
  · have listed : name ∈ declared.freeTypeVars := List.mem_eraseDups.mpr (own inside)
    exact absurd (List.mem_filter.mpr ⟨listed, by simp [unbound]⟩) bound

end Substitution

/-- Erasing the unsolved variables of a type leaves none. -/
theorem Ty.typeVarOccurrences_eraseUnsolved (ty : Ty) :
    ty.eraseUnsolved.typeVarOccurrences = [] := by
  apply List.eq_nil_iff_forall_not_mem.mpr
  intro name occurs
  obtain ⟨inside, unlisted⟩ := Substitution.not_mem_of_mem_erasing occurs
  exact unlisted (List.mem_eraseDups.mpr inside)

/-- The variables of the result are declared. -/
theorem Signature.typeVarOccurrences_ret_subset (signature : Signature) :
    signature.ret.typeVarOccurrences ⊆ signature.typeVarOccurrences := by
  intro name occurs
  exact (signature.mem_typeVarOccurrences name).mpr ⟨signature.ret, List.mem_cons_self, occurs⟩

/-- Every type variable in the type of a call occurs in what some argument contributes. -/
theorem Signature.exists_argument_of_mem_bindCall {signature : Signature} {callee : String}
    {arguments : List Argument} {location : Location} {groups : List (List Nat)} {ret : Ty}
    (accepted : signature.bindCall callee arguments location = .ok (groups, ret)) {name : String}
    (occurs : name ∈ ret.freeTypeVars) :
    ∃ argument ∈ arguments, name ∈ argument.valueType.freeTypeVars := by
  rw [Ty.freeTypeVars, List.mem_eraseDups] at occurs
  simp only [Ty.freeTypeVars, List.mem_eraseDups]
  unfold Signature.bindCall at accepted
  split at accepted
  · cases accepted
  · rename_i assigned _
    split at accepted
    · cases accepted
      rw [Ty.typeVarOccurrences_eraseUnsolved] at occurs
      cases occurs
    · -- the values of the substitution mention only variables that some argument contributes
      have hereditary := Ty.Hereditary.mentionsOnly fun name =>
        ∃ argument ∈ arguments, name ∈ argument.valueType.typeVarOccurrences
      have given : ∀ argument ∈ arguments, ∀ name ∈ argument.valueType.typeVarOccurrences,
          ∃ argument ∈ arguments, name ∈ argument.valueType.typeVarOccurrences :=
        fun argument within name inside => ⟨argument, within, inside⟩
      have matched := hereditary.bindGroups given callee location
        (signature.params.zip assigned) .empty Substitution.holds_empty
      split at accepted
      · rename_i subst found
        rw [found] at matched
        cases accepted
        exact Substitution.permitted_of_mem_instantiate matched
          signature.typeVarOccurrences_ret_subset occurs
      · cases accepted

/-- A function from lists of `T` to pairs of `T` and lists of `U` is called with a list of `V`: the
call has the variable `V` of its argument, the value of `T`, and neither `T` nor `U`. -/
theorem Signature.exists_argument_of_mem_bindCall_list :
    (Signature.mk [⟨some "items", .positional, .list (.typeVar "T")⟩]
      (.tuple [.typeVar "T", .list (.typeVar "U")])).bindCall "pairs"
        [⟨.positional, none, .list (.typeVar "V")⟩] default =
      .ok ([[0]], .tuple [.typeVar "V", .list .never]) ∧
    ∃ argument ∈ [(⟨.positional, none, .list (.typeVar "V")⟩ : Argument)],
      "V" ∈ argument.valueType.freeTypeVars := by
  have accepted : (Signature.mk [⟨some "items", .positional, .list (.typeVar "T")⟩]
      (.tuple [.typeVar "T", .list (.typeVar "U")])).bindCall "pairs"
        [⟨.positional, none, .list (.typeVar "V")⟩] default =
      .ok ([[0]], .tuple [.typeVar "V", .list .never]) := by
    rfl
  exact ⟨accepted, Signature.exists_argument_of_mem_bindCall accepted (by decide)⟩

end Callwise
