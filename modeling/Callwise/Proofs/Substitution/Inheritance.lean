import Callwise.Proofs.Substitution.Moves

/-!
# Substitutions that keep a hereditary property

If all values of a substitution have a hereditary property, matching a type that has it keeps this
so, and applying the substitution to a type with the property gives a type with the property. More
precisely, only what the substitution makes of the variables in the type has to have the property.
-/

namespace Callwise

variable {subst : Substitution}

namespace Substitution

/-- Every variable that has a value has one with the property. -/
def Holds (kept : Ty → Prop) (subst : Substitution) : Prop :=
  ∀ name ty, subst.find? name = some ty → kept ty

variable {kept : Ty → Prop}

/-- There is no value without bindings. -/
theorem holds_empty : Holds kept empty := by
  intro name ty found
  cases found

/-- Storing a type with the property. -/
theorem Holds.insert (holds : subst.Holds kept) (name : String) {ty : Ty} (inside : kept ty) :
    Holds kept (NameMap.insert subst name ty) := by
  intro other value found
  rw [NameMap.find?_insert] at found
  split at found
  · cases found
    exact inside
  · exact holds other value found

/-- Keeping the property of all values is respected by every store. -/
theorem moves_holds (names : List String) :
    Moves kept names fun before after => before.Holds kept → after.Holds kept where
  refl _ := id
  trans first second := second ∘ first
  store _ inside _ := fun holds => holds.insert _ inside

/-- Matching a type with the property keeps the property of all values. -/
theorem Holds.bind (hereditary : Ty.Hereditary kept) (holds : subst.Holds kept) (pattern : Ty)
    {actual : Ty} (inside : kept actual) :
    (subst.bind pattern actual).2.Holds kept :=
  (moves_holds pattern.typeVarOccurrences).bind hereditary pattern (List.Subset.refl _) actual
    inside subst holds

/-- Erasing sends the listed variables to `Never` and leaves the others open. -/
theorem find?_erasing (vars : List String) (name : String) :
    (erasing vars).find? name = if name ∈ vars then some .never else none := by
  have inserted : ∀ (vars : List String) (erased : Substitution),
      (vars.foldl (fun erased var => erased.insert var Ty.never) erased).find? name =
        if name ∈ vars then some .never else erased.find? name := by
    intro vars
    induction vars with
    | nil => simp
    | cons var rest ih =>
      intro erased
      rw [List.foldl_cons, ih, NameMap.find?_insert]
      by_cases inRest : name ∈ rest
      · simp [inRest]
      · by_cases same : name = var <;> simp [inRest, same]
  exact inserted vars empty

end Substitution

namespace Ty.Hereditary

open Substitution

variable {kept : Ty → Prop}

/-- A container and its arguments as one type again. -/
theorem ofKind (hereditary : Hereditary kept) {args : List Ty} (each : ∀ arg ∈ args, kept arg) :
    kept (Ty.ofKind args) := by
  have shortened : ∀ (rest : List Ty), (∀ arg ∈ rest, kept arg) →
      ∀ arg ∈ Ty.dropTrailingVars rest, kept arg := by
    intro rest all arg within
    apply all
    have kept := (List.dropWhile_sublist _).subset (List.mem_reverse.mp within)
    exact List.mem_reverse.mp kept
  unfold Ty.ofKind
  split
  · rw [List.forall_mem_cons] at each
    exact (hereditary.generic_iff _ _).mpr (shortened _ each.2)
  · rw [List.forall_mem_cons] at each
    exact (hereditary.generic_iff _ _).mpr (shortened _ each.2)
  · exact (hereditary.generic_iff _ _).mpr each

mutual

/-- What a substitution makes of a type has the property if what it makes of each variable in the
type has it. Nothing else is asked of the type: unions are simplified again, a container that has
become known takes its arguments, and all other types are put together from their parts. -/
theorem apply_of_variables (hereditary : Hereditary kept) {subst : Substitution} :
    (ty : Ty) → (∀ name ∈ ty.typeVarOccurrences, kept (subst.apply (.typeVar name))) →
      kept (subst.apply ty)
  | .any, _ | .never, _ | .none, _ | .bool, _ | .int, _ | .float, _ | .str, _ | .bytes, _
  | .named _, _ | .placeholder _, _ => hereditary.atom rfl
  | .typeVar name, each => each name (by simp [Ty.typeVarOccurrences])
  | .list item, each => by
    simp only [Substitution.apply, hereditary.list_iff]
    exact hereditary.apply_of_variables item each
  | .tuple items, each => by
    simp only [Substitution.apply, hereditary.tuple_iff]
    exact hereditary.applyList items each
  | .dict key value, each => by
    simp only [Ty.typeVarOccurrences, List.forall_mem_append] at each
    simp only [Substitution.apply, hereditary.dict_iff]
    exact ⟨hereditary.apply_of_variables key each.1, hereditary.apply_of_variables value each.2⟩
  | .union members, each => by
    simp only [Substitution.apply]
    exact hereditary.unionOf (hereditary.applyList members each)
  | .generic name args, each => by
    have applied := hereditary.applyList args each
    simp only [Substitution.apply]
    split
    · exact hereditary.ofKind applied
    · exact (hereditary.generic_iff _ _).mpr applied
  | .callable signature, each => by
    simp only [Substitution.apply, hereditary.callable_iff]
    exact hereditary.applySignature signature each
  | .overloaded signatures, each => by
    simp only [Substitution.apply, hereditary.overloaded_iff]
    exact hereditary.applySignatures signatures each

/-- The same of several types. -/
theorem applyList (hereditary : Hereditary kept) {subst : Substitution} :
    (types : List Ty) →
      (∀ name ∈ Ty.typeVarOccurrencesIn types, kept (subst.apply (.typeVar name))) →
      ∀ ty ∈ subst.applyList types, kept ty
  | [], _ => by simp [Substitution.applyList]
  | first :: rest, each => by
    simp only [Ty.typeVarOccurrencesIn, List.forall_mem_append] at each
    simp only [Substitution.applyList, List.forall_mem_cons]
    exact ⟨hereditary.apply_of_variables first each.1, hereditary.applyList rest each.2⟩

/-- The same of a signature. -/
theorem applySignature (hereditary : Hereditary kept) {subst : Substitution} :
    (signature : Signature) →
      (∀ name ∈ signature.typeVarOccurrences, kept (subst.apply (.typeVar name))) →
      (subst.applySignature signature).All kept
  | ⟨params, ret⟩, each => by
    simp only [Signature.typeVarOccurrences, List.forall_mem_append] at each
    simp only [Substitution.applySignature]
    exact ⟨hereditary.apply_of_variables ret each.2, hereditary.applyParams params each.1⟩

/-- The same of several signatures. -/
theorem applySignatures (hereditary : Hereditary kept) {subst : Substitution} :
    (signatures : List Signature) →
      (∀ name ∈ Signature.typeVarOccurrencesIn signatures, kept (subst.apply (.typeVar name))) →
      ∀ signature ∈ subst.applySignatures signatures, signature.All kept
  | [], _ => by simp [Substitution.applySignatures]
  | first :: rest, each => by
    simp only [Signature.typeVarOccurrencesIn, List.forall_mem_append] at each
    simp only [Substitution.applySignatures, List.forall_mem_cons]
    exact ⟨hereditary.applySignature first each.1, hereditary.applySignatures rest each.2⟩

/-- The same of a parameter. -/
theorem applyParam (hereditary : Hereditary kept) {subst : Substitution} :
    (param : Param) → (∀ name ∈ param.typeVarOccurrences, kept (subst.apply (.typeVar name))) →
      kept (subst.applyParam param).ty
  | ⟨_, _, ty⟩, each => by
    simp only [Substitution.applyParam]
    exact hereditary.apply_of_variables ty each

/-- The same of several parameters. -/
theorem applyParams (hereditary : Hereditary kept) {subst : Substitution} :
    (params : List Param) →
      (∀ name ∈ Param.typeVarOccurrencesIn params, kept (subst.apply (.typeVar name))) →
      ∀ param ∈ subst.applyParams params, kept param.ty
  | [], _ => by simp [Substitution.applyParams]
  | first :: rest, each => by
    simp only [Param.typeVarOccurrencesIn, List.forall_mem_append] at each
    simp only [Substitution.applyParams, List.forall_mem_cons]
    exact ⟨hereditary.applyParam first each.1, hereditary.applyParams rest each.2⟩

end

/-- A variable that occurs in a type with the property has it. -/
theorem typeVar (hereditary : Hereditary kept) {ty : Ty} (inside : kept ty) {name : String}
    (occurs : name ∈ ty.typeVarOccurrences) : kept (.typeVar name) := by
  rcases (Ty.mem_typeVarOccurrences ty name).mp occurs with rfl | ⟨part, member, occursInside⟩
  · exact inside
  · have smaller := Ty.sizeOf_component_lt member
    exact hereditary.typeVar (hereditary.component inside member) occursInside
termination_by sizeOf ty

/-- Applying values with the property to a type with the property. -/
theorem apply (hereditary : Hereditary kept) (holds : subst.Holds kept) (ty : Ty)
    (inside : kept ty) : kept (subst.apply ty) := by
  apply hereditary.apply_of_variables
  intro name occurs
  simp only [Substitution.apply]
  cases found : subst.find? name with
  | none => exact hereditary.typeVar inside occurs
  | some value => exact holds name value found

/-- Erased variables have the value `Never`. -/
theorem holds_erasing (hereditary : Hereditary kept) (vars : List String) :
    (erasing vars).Holds kept := by
  intro name ty found
  rw [find?_erasing] at found
  split at found
  · cases found
    exact hereditary.atom rfl
  · cases found

/-- Instantiating a type with the property. -/
theorem instantiate (hereditary : Hereditary kept) (holds : subst.Holds kept) (declared : Signature)
    {ty : Ty} (inside : kept ty) :
    kept (subst.instantiate declared ty) := by
  unfold Substitution.instantiate
  exact hereditary.apply (hereditary.holds_erasing _) _ (hereditary.apply holds ty inside)

/-- Erasing the variables of a type with the property. -/
theorem eraseUnsolved (hereditary : Hereditary kept) {ty : Ty} (inside : kept ty) :
    kept ty.eraseUnsolved := by
  unfold Ty.eraseUnsolved
  exact hereditary.apply (hereditary.holds_erasing _) ty inside

end Ty.Hereditary

end Callwise
