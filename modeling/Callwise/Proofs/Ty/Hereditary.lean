import Callwise.Proofs.Ty.CanonicalUnion

/-!
# Properties that types inherit

A property of types is hereditary if it passes from a type to what stands inside, if every type but
a union or a type variable has it once all that stands inside has it, and if joining types that have
it gives a type that has it. Whatever takes types apart and puts them together again, and makes
unions by `Ty.unionOf` only, keeps such a property. Being canonical is one.
-/

namespace Callwise

/-- The property holds of the result and of the type of each parameter. -/
def Signature.All (kept : Ty → Prop) (signature : Signature) : Prop :=
  kept signature.ret ∧ ∀ param ∈ signature.params, kept param.ty

/-- What receives a positional argument has the property. -/
theorem Signature.All.slot {kept : Ty → Prop} {signature : Signature} (all : signature.All kept)
    {index : Nat} {ty : Ty} (found : signature.slot? index = some ty) : kept ty := by
  obtain ⟨param, chosen, rfl⟩ := Option.map_eq_some_iff.mp found
  apply all.2
  rcases Option.or_eq_some_iff.mp chosen with atIndex | ⟨_, starred⟩
  · exact (List.mem_filter.mp (List.mem_of_getElem? atIndex)).1
  · exact List.mem_of_find?_eq_some starred

namespace Ty

/-- Nothing stands inside the type, and it is neither a union nor a type variable. -/
def isAtom : Ty → Bool
  | .any | .never | .none | .bool | .int | .float | .str | .bytes | .named _
  | .placeholder _ => true
  | _ => false

/-- A property that passes to what stands inside and back, and from types to their union. -/
structure Hereditary (kept : Ty → Prop) : Prop where
  component : ∀ {ty part : Ty}, kept ty → part ∈ ty.components → kept part
  build : ∀ {ty : Ty}, (∀ members, ty ≠ .union members) → (∀ name, ty ≠ .typeVar name) →
    (∀ part ∈ ty.components, kept part) → kept ty
  unionOf : ∀ {types : List Ty}, (∀ ty ∈ types, kept ty) → kept (Ty.unionOf types)

namespace Hereditary

/-- Asking nothing is hereditary. -/
theorem trivial : Hereditary fun _ => True where
  component _ _ := True.intro
  build _ _ _ := True.intro
  unionOf _ := True.intro

/-- Having only simplified unions inside is hereditary. -/
theorem isCanonical : Hereditary fun ty => ty.isCanonical = true where
  component := fun holds member => ((everywhere_iff_components _).mp holds).2 _ member
  build := by
    intro ty single _ parts
    refine (everywhere_iff_components ty).mpr ⟨?_, parts⟩
    cases ty
    case union => exact absurd rfl (single _)
    all_goals rfl
  unionOf := isCanonical_unionOf

variable {kept : Ty → Prop} (hereditary : Hereditary kept)

include hereditary

/-- A type with nothing inside has the property. -/
theorem atom {ty : Ty} (atom : ty.isAtom = true) : kept ty := by
  apply hereditary.build
  · rintro members rfl
    cases atom
  · rintro name rfl
    cases atom
  · cases ty <;> simp_all [isAtom, components]

/-- A type that is neither a union nor a variable has the property exactly if all that stands inside
has it. -/
theorem iff_components {ty : Ty} (single : ∀ members, ty ≠ .union members)
    (solid : ∀ name, ty ≠ .typeVar name) : kept ty ↔ ∀ part ∈ ty.components, kept part := by
  constructor
  · intro holds part member
    exact hereditary.component holds member
  · exact hereditary.build single solid

theorem list_iff (item : Ty) : kept (.list item) ↔ kept item := by
  simp [hereditary.iff_components, components]

theorem tuple_iff (items : List Ty) : kept (.tuple items) ↔ ∀ item ∈ items, kept item := by
  simp [hereditary.iff_components, components]

theorem dict_iff (key value : Ty) : kept (.dict key value) ↔ kept key ∧ kept value := by
  simp [hereditary.iff_components, components]

theorem generic_iff (name : String) (args : List Ty) :
    kept (.generic name args) ↔ ∀ arg ∈ args, kept arg := by
  simp [hereditary.iff_components, components]

theorem callable_iff (signature : Signature) : kept (.callable signature) ↔ signature.All kept := by
  simp [hereditary.iff_components, components, Signature.components, Signature.All]

theorem overloaded_iff (signatures : List Signature) :
    kept (.overloaded signatures) ↔ ∀ signature ∈ signatures, signature.All kept := by
  rw [hereditary.iff_components (by simp) (by simp)]
  simp only [components, List.mem_flatMap]
  constructor
  · intro parts signature within
    apply (hereditary.callable_iff signature).mp
    apply hereditary.build (by simp) (by simp)
    intro part inside
    exact parts part ⟨signature, within, inside⟩
  · rintro all part ⟨signature, within, inside⟩
    have whole := (hereditary.callable_iff signature).mpr (all signature within)
    exact hereditary.component whole inside

/-- The members of a union have the property. -/
theorem member {members : List Ty} (holds : kept (.union members)) {member : Ty}
    (within : member ∈ members) : kept member :=
  hereditary.component holds within

end Hereditary

end Ty

end Callwise
