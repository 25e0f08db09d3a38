import Callwise.Proofs.Substitution.Stability
import Callwise.Proofs.Ty.Subtyping

/-!
# A type and its instances

Type variables fit everywhere and everything fits them. So a type fits what it becomes when some of
its variables get values, and is fitted by it, as long as the substitution changes nothing else. It
does so in three places: a union is simplified again, a container passed as a type takes its
arguments, and overloaded types only fit others that are the same. A *plain* type has none of them
inside.

Both directions are needed together, since the comparison turns around at parameters.
-/

namespace Callwise

/-! ### Types of which substitutions change only the variables -/

/-- Substitutions change the type only at its variables, and it is compared part by part. -/
def Ty.keepsShape : Ty → Bool
  | .union _ | .overloaded _ => false
  | ty => !ty.isKind

/-- No union, no overloaded type and no container passed as a type stands anywhere inside. -/
def Ty.isPlain (ty : Ty) : Bool := ty.everywhere Ty.keepsShape

/-- What stands directly inside a plain type is plain. -/
theorem Ty.isPlain_component {ty part : Ty} (plain : ty.isPlain = true)
    (member : part ∈ ty.components) : part.isPlain = true :=
  ((Ty.everywhere_iff_components ty).mp plain).2 part member

/-- A plain type passes no container as a type. -/
theorem Ty.isKindFree_of_isPlain {ty : Ty} (plain : ty.isPlain = true) :
    ty.isKindFree = true := by
  rw [Ty.isKindFree, Ty.everywhere_iff_inside]
  intro part inside
  have shape : part.keepsShape = true := (Ty.everywhere_iff_inside ty).mp plain part inside
  cases part <;> first | rfl | exact shape

/-- A plain type is canonical, for lack of unions. -/
theorem Ty.isCanonical_of_isPlain {ty : Ty} (plain : ty.isPlain = true) :
    ty.isCanonical = true := by
  rw [Ty.isCanonical, Ty.everywhere_iff_inside]
  intro part inside
  have shape : part.keepsShape = true := (Ty.everywhere_iff_inside ty).mp plain part inside
  cases part <;> first | rfl | cases shape

/-! ### Comparing part by part -/

/-- Each type fits the other. -/
def Ty.Interchangeable (left right : Ty) : Prop :=
  left.isSubtype right = true ∧ right.isSubtype left = true

namespace Ty.Interchangeable

/-- A type and itself. -/
theorem refl (ty : Ty) : Interchangeable ty ty := ⟨Ty.isSubtype_refl ty, Ty.isSubtype_refl ty⟩

/-- Any type and one that fits everywhere. -/
theorem ofFlexible (left : Ty) {right : Ty} (flexible : right.isFlexible = true) :
    Interchangeable left right :=
  ⟨Ty.isSubtype_flexible left flexible, Ty.isSubtype_of_flexible flexible left⟩

end Ty.Interchangeable

/-! ### Applying to lists -/

namespace Substitution

variable (subst : Substitution)

/-- Applying to several types applies to each. -/
theorem applyList_eq_map (types : List Ty) : subst.applyList types = types.map subst.apply := by
  induction types with
  | nil => rfl
  | cons first rest ih => simp [applyList, ih]

/-- Applying to several parameters applies to each. -/
theorem applyParams_eq_map (params : List Param) :
    subst.applyParams params = params.map subst.applyParam := by
  induction params with
  | nil => rfl
  | cons first rest ih => simp [applyParams, ih]

/-- Applying changes the type of a parameter. -/
@[simp]
theorem applyParam_ty (param : Param) : (subst.applyParam param).ty = subst.apply param.ty := by
  cases param
  simp [applyParam]

/-- Applying keeps the kind of a parameter. -/
@[simp]
theorem applyParam_kind (param : Param) : (subst.applyParam param).kind = param.kind := by
  cases param
  simp [applyParam]

/-- Applying keeps the places of the positional parameters. -/
theorem applySignature_positionalTypes (signature : Signature) :
    (subst.applySignature signature).positionalTypes =
      subst.applyList signature.positionalTypes := by
  obtain ⟨params, ret⟩ := signature
  simp [Signature.positionalTypes, Signature.positionals, applySignature, applyParams_eq_map,
    applyList_eq_map, List.filter_map, Function.comp_def]

/-! ### Instances -/

/-- Types and their instances fit each other if this holds type by type. -/
theorem applyList_interchangeable {types : List Ty}
    (parts : ∀ part ∈ types, (subst.apply part).Interchangeable part) :
    Ty.allSubtypes (subst.applyList types) types = true ∧
      Ty.allSubtypes types (subst.applyList types) = true := by
  rw [Ty.allSubtypes_iff, Ty.allSubtypes_iff, applyList_eq_map]
  simp only [List.length_map, true_and, List.getElem?_map, Option.map_eq_some_iff]
  constructor
  · rintro index _ sup ⟨part, here, rfl⟩ alsoHere
    obtain rfl : part = sup := Option.some.inj (here.symm.trans alsoHere)
    exact (parts part (List.mem_of_getElem? here)).1
  · rintro index sub _ here ⟨part, alsoHere, rfl⟩
    obtain rfl : sub = part := Option.some.inj (here.symm.trans alsoHere)
    exact (parts sub (List.mem_of_getElem? here)).2

/-- A signature and its instance may be called in the same places if types and instances in it fit
each other. -/
theorem applySignature_interchangeable {signature : Signature}
    (parts : ∀ part ∈ signature.components, (subst.apply part).Interchangeable part) :
    (subst.applySignature signature).isSubtype signature = true ∧
      signature.isSubtype (subst.applySignature signature) = true := by
  have ret : (subst.apply signature.ret).Interchangeable signature.ret :=
    parts _ List.mem_cons_self
  have positionals : ∀ part ∈ signature.positionalTypes,
      (subst.apply part).Interchangeable part := by
    intro part member
    exact parts part (Signature.mem_components_of_positional member)
  obtain ⟨narrower, wider⟩ := subst.applyList_interchangeable positionals
  have applied : (subst.applySignature signature).ret = subst.apply signature.ret := by
    cases signature
    simp [applySignature]
  constructor
  · apply Signature.isSubtype_of_positionalTypes
    · rw [applied]
      exact ret.1
    · rw [applySignature_positionalTypes]
      exact wider
  · apply Signature.isSubtype_of_positionalTypes
    · rw [applied]
      exact ret.2
    · rw [applySignature_positionalTypes]
      exact narrower

/-- A plain type and its instance fit each other, whatever the variables stand for. -/
theorem apply_interchangeable (ty : Ty) (plain : ty.isPlain = true) :
    (subst.apply ty).Interchangeable ty := by
  have parts : ∀ part ∈ ty.components, (subst.apply part).Interchangeable part := by
    intro part member
    have smaller := Ty.sizeOf_component_lt member
    exact apply_interchangeable part (Ty.isPlain_component plain member)
  have shape : ty.keepsShape = true := Ty.everywhere_root plain
  cases ty
  case typeVar name => exact .ofFlexible _ rfl
  case list item =>
    have inner := parts item (by simp [Ty.components])
    simpa only [Ty.Interchangeable, apply, Ty.list_isSubtype_list] using inner
  case tuple items =>
    have inner : ∀ part ∈ items, (subst.apply part).Interchangeable part := parts
    simpa only [Ty.Interchangeable, apply, Ty.tuple_isSubtype_tuple]
      using subst.applyList_interchangeable inner
  case dict key value =>
    have keys := parts key (by simp [Ty.components])
    have values := parts value (by simp [Ty.components])
    simp only [Ty.Interchangeable, apply, Ty.dict_isSubtype_dict, Bool.and_eq_true]
    exact ⟨⟨keys.1, values.1⟩, ⟨keys.2, values.2⟩⟩
  case generic name args =>
    have ordinary : (name == kindName) = false := by
      simpa [Ty.keepsShape, Ty.isKind] using shape
    have inner : ∀ part ∈ args, (subst.apply part).Interchangeable part := parts
    simpa [Ty.Interchangeable, apply, ordinary] using subst.applyList_interchangeable inner
  case callable signature =>
    simpa only [Ty.Interchangeable, apply, Ty.callable_isSubtype_callable]
      using subst.applySignature_interchangeable parts
  case union members => cases shape
  case overloaded signatures => cases shape
  all_goals exact .refl _
termination_by sizeOf ty

/-- A plain type stays as it is under the substitution without bindings. -/
theorem empty_apply_of_isPlain {ty : Ty} (plain : ty.isPlain = true) : empty.apply ty = ty :=
  empty_apply (Ty.isCanonical_of_isPlain plain) (Ty.isKindFree_of_isPlain plain)

end Substitution

end Callwise
