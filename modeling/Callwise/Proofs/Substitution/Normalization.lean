import Callwise.Proofs.Substitution.Inheritance
import Callwise.Proofs.Substitution.Instantiation

/-!
# Substitutions normalize, and only at the variables

Applying a substitution does two things at once: it replaces variables, and it simplifies every
union again from the inside out. So the result is canonical whatever unions the type has, as long as
the values are. Of the substitution, only the values of the variables in the type matter. And where
nothing is replaced and nothing is left to simplify, the result is the type itself, unless a
container is passed as a type, which applying rewrites.
-/

namespace Callwise

namespace Ty

/-- A type that passes no container itself passes none anywhere if this holds directly inside. -/
theorem isKindFree_iff_components (ty : Ty) :
    ty.isKindFree = true ↔ ty.isKind = false ∧ ∀ part ∈ ty.components, part.isKindFree = true := by
  rw [isKindFree, everywhere_iff_components, Bool.not_eq_true']
  rfl

/-- No container is passed as a type in the simplified union of types in which none is. -/
theorem isKindFree_unionOf {types : List Ty} (each : ∀ ty ∈ types, ty.isKindFree = true) :
    (unionOf types).isKindFree = true := by
  apply @holds_unionOf types (fun ty => ty.isKindFree = true) rfl rfl ?_ each
  intro members
  rw [isKindFree_iff_components]
  exact and_iff_right rfl

end Ty

namespace Substitution

/-! ### Only the variables of the type matter -/

/-- Two substitutions make the same of several types if they do of each. -/
theorem applyList_congr {first second : Substitution} {types : List Ty}
    (each : ∀ ty ∈ types, first.apply ty = second.apply ty) :
    first.applyList types = second.applyList types := by
  simp only [applyList_eq_map]
  exact List.map_congr_left each

/-- Two substitutions make the same of a signature if they do of the types directly inside. -/
theorem applySignature_congr {first second : Substitution} {signature : Signature}
    (parts : ∀ part ∈ signature.components, first.apply part = second.apply part) :
    first.applySignature signature = second.applySignature signature := by
  obtain ⟨params, ret⟩ := signature
  simp only [Signature.components, List.forall_mem_cons, List.forall_mem_map] at parts
  have each : ∀ param ∈ params, first.applyParam param = second.applyParam param := by
    intro param member
    have type := parts.2 param member
    cases param
    simpa [applyParam] using type
  simp only [applySignature, applyParams_eq_map, List.map_congr_left each, parts.1]

/-- Substitutions that give the same values to the variables of a type make the same of it. -/
theorem apply_congr {first second : Substitution} (ty : Ty)
    (agree : ∀ name ∈ ty.typeVarOccurrences, first.find? name = second.find? name) :
    first.apply ty = second.apply ty := by
  have parts : ∀ part ∈ ty.components, first.apply part = second.apply part := by
    intro part member
    have smaller := Ty.sizeOf_component_lt member
    apply apply_congr part
    intro name occurs
    exact agree name ((Ty.mem_typeVarOccurrences ty name).mpr (.inr ⟨part, member, occurs⟩))
  cases ty
  case typeVar name =>
    have same := agree name (by simp [Ty.typeVarOccurrences])
    simp only [apply, same]
  case list item => simp only [apply, parts item List.mem_cons_self]
  case dict key value =>
    have keys := parts key List.mem_cons_self
    have values := parts value (List.mem_cons_of_mem _ List.mem_cons_self)
    simp only [apply, keys, values]
  case tuple items =>
    have same : first.applyList items = second.applyList items := applyList_congr parts
    simp only [apply, same]
  case union members =>
    have same : first.applyList members = second.applyList members := applyList_congr parts
    simp only [apply, same]
  case generic name args =>
    have same : first.applyList args = second.applyList args := applyList_congr parts
    simp only [apply, same]
  case callable signature => simp only [apply, applySignature_congr parts]
  case overloaded signatures =>
    have each : ∀ signature ∈ signatures,
        first.applySignature signature = second.applySignature signature := by
      intro signature within
      apply applySignature_congr
      intro part inside
      exact parts part (List.mem_flatMap.mpr ⟨signature, within, inside⟩)
    simp only [apply, applySignatures_eq_map, List.map_congr_left each]
  all_goals simp only [apply]
termination_by sizeOf ty

/-! ### No containers come in -/

/-- What stands directly inside the result on a signature is the result on what stands there. -/
theorem components_applySignature (subst : Substitution) (signature : Signature) :
    (subst.applySignature signature).components = signature.components.map subst.apply := by
  obtain ⟨params, ret⟩ := signature
  simp [applySignature, Signature.components, applyParams_eq_map, Function.comp_def]

/-- A type that is neither a variable nor a union nor a container passed as a type keeps its form:
the result is no such container, and inside stand the results on what stood there. -/
theorem components_apply (subst : Substitution) {ty : Ty} (solid : ∀ name, ty ≠ .typeVar name)
    (single : ∀ members, ty ≠ .union members) (ordinary : ty.isKind = false) :
    (subst.apply ty).isKind = false ∧
      (subst.apply ty).components = ty.components.map subst.apply := by
  cases ty
  case typeVar name => exact absurd rfl (solid name)
  case union members => exact absurd rfl (single members)
  case generic name args =>
    have notKind : (name == kindName) = false := ordinary
    simp [apply, notKind, Ty.isKind, Ty.components, applyList_eq_map]
  all_goals
    simp [apply, Ty.isKind, Ty.components, applyList_eq_map, applySignatures_eq_map,
      components_applySignature, List.flatMap_map, List.map_flatMap]

/-- Values without containers passed as types bring none into a type without them. -/
theorem isKindFree_apply {subst : Substitution}
    (values : subst.Holds fun value => value.isKindFree = true) (ty : Ty)
    (kindFree : ty.isKindFree = true) : (subst.apply ty).isKindFree = true := by
  obtain ⟨ordinary, inside⟩ := (Ty.isKindFree_iff_components ty).mp kindFree
  have parts : ∀ part ∈ ty.components, (subst.apply part).isKindFree = true := by
    intro part member
    have smaller := Ty.sizeOf_component_lt member
    exact isKindFree_apply values part (inside part member)
  by_cases bare : ∃ name, ty = .typeVar name
  · obtain ⟨name, rfl⟩ := bare
    simp only [apply]
    cases found : subst.find? name with
    | none => rfl
    | some value => exact values name value found
  by_cases several : ∃ members, ty = .union members
  · obtain ⟨members, rfl⟩ := several
    simp only [apply, applyList_eq_map]
    apply Ty.isKindFree_unionOf
    rw [List.forall_mem_map]
    exact parts
  obtain ⟨notKind, applied⟩ := subst.components_apply (fun name same => bare ⟨name, same⟩)
    (fun members same => several ⟨members, same⟩) ordinary
  rw [Ty.isKindFree_iff_components, applied, List.forall_mem_map]
  exact ⟨notKind, parts⟩
termination_by sizeOf ty

/-! ### Normal results -/

/-- What a substitution with canonical values makes of a type is canonical, whatever unions the type
has. -/
theorem isCanonical_apply {subst : Substitution}
    (values : subst.Holds fun value => value.isCanonical = true) (ty : Ty) :
    (subst.apply ty).isCanonical = true := by
  apply Ty.Hereditary.isCanonical.apply_of_variables
  intro name _
  simp only [apply]
  cases found : subst.find? name with
  | none => rfl
  | some value => exact values name value found

/-- Applying the substitution without bindings a second time changes nothing. -/
theorem empty_apply_empty_apply {ty : Ty} (kindFree : ty.isKindFree = true) :
    empty.apply (empty.apply ty) = empty.apply ty :=
  empty_apply (isCanonical_apply holds_empty ty) (isKindFree_apply holds_empty ty kindFree)

/-- Substitution normalizes and is local. With canonical values it gives a canonical type; two
substitutions that agree on the variables of a type make the same of it; a canonical type without
containers passed as types stays as it is if none of its variables has a value. So without bindings,
applying twice is applying once on types without such containers. -/
theorem apply_normalizes_locally (subst : Substitution) (ty : Ty) :
    (subst.Holds (fun value => value.isCanonical = true) →
        (subst.apply ty).isCanonical = true) ∧
      (∀ other : Substitution,
        (∀ name ∈ ty.freeTypeVars, subst.find? name = other.find? name) →
          subst.apply ty = other.apply ty) ∧
      (ty.isCanonical = true → ty.isKindFree = true →
        (∀ name ∈ ty.freeTypeVars, subst.find? name = none) → subst.apply ty = ty) ∧
      (ty.isKindFree = true → empty.apply (empty.apply ty) = empty.apply ty) := by
  simp only [Ty.freeTypeVars, List.mem_eraseDups]
  refine ⟨fun values => isCanonical_apply values ty, ?_, ?_, empty_apply_empty_apply⟩
  · intro other agree
    exact apply_congr ty agree
  · intro canonical kindFree unbound
    exact apply_eq_self subst ty canonical kindFree unbound

/-- In `list[T | (bool | int) | int]`, where `T` stands for `str | None`: the union is simplified,
the value of `U` does not matter, and `list[U | None]` stays as it is. -/
theorem apply_normalizes_nested_union :
    (apply (empty.insert "T" (.union [.str, .none]))
        (.list (.union [.typeVar "T", .union [.bool, .int], .int]))).isCanonical = true ∧
      apply (empty.insert "T" (.union [.str, .none]))
          (.list (.union [.typeVar "T", .union [.bool, .int], .int])) =
        apply ((empty.insert "U" .bytes).insert "T" (.union [.str, .none]))
          (.list (.union [.typeVar "T", .union [.bool, .int], .int])) ∧
      apply (empty.insert "T" (.union [.str, .none])) (.list (.union [.typeVar "U", .none])) =
        .list (.union [.typeVar "U", .none]) ∧
      empty.apply (empty.apply (.list (.union [.typeVar "T", .union [.bool, .int], .int]))) =
        empty.apply (.list (.union [.typeVar "T", .union [.bool, .int], .int])) := by
  have values : Holds (fun value => value.isCanonical = true)
      (empty.insert "T" (.union [.str, .none])) := holds_empty.insert "T" (by decide +kernel)
  obtain ⟨canonical, congruent, _, idempotent⟩ :=
    apply_normalizes_locally (empty.insert "T" (.union [.str, .none]))
      (.list (.union [.typeVar "T", .union [.bool, .int], .int]))
  obtain ⟨_, _, unchanged, _⟩ :=
    apply_normalizes_locally (empty.insert "T" (.union [.str, .none]))
      (.list (.union [.typeVar "U", .none]))
  refine ⟨canonical values, congruent _ ?_, unchanged ?_ ?_ ?_, idempotent ?_⟩
  all_goals decide +kernel

end Substitution

end Callwise
