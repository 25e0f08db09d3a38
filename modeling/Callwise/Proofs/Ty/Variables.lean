import Callwise.Proofs.Ty.Everywhere
import Callwise.Ty.TypeVars

/-!
# The type variables of a type

The test for type variables and the list of their occurrences are two traversals of a type. They
agree: the test is negative exactly when the list is empty. So a type that passes the test gives a
match nothing to bind and a substitution nothing to replace.

A variable occurs in a type if it is the type or occurs in a type directly inside.
-/

namespace Callwise

/-- No variable in a list means none in any of its types. -/
theorem Ty.anyHasTypeVars_eq_false_iff (types : List Ty) :
    Ty.anyHasTypeVars types = false ↔ ∀ ty ∈ types, ty.hasTypeVars = false := by
  induction types with
  | nil => simp [Ty.anyHasTypeVars]
  | cons first rest ih => simp [Ty.anyHasTypeVars, ih]

/-- No variable in parameters means none in the type of any. -/
theorem Param.anyHasTypeVars_eq_false_iff (params : List Param) :
    Param.anyHasTypeVars params = false ↔ ∀ param ∈ params, param.ty.hasTypeVars = false := by
  induction params with
  | nil => simp [Param.anyHasTypeVars]
  | cons first rest ih =>
    obtain ⟨name, kind, ty⟩ := first
    simp [Param.anyHasTypeVars, Param.hasTypeVars, ih]

/-- No variable in a signature means none in its parameter types and none in its result. -/
theorem Signature.hasTypeVars_eq_false_iff (signature : Signature) :
    signature.hasTypeVars = false ↔
      (∀ param ∈ signature.params, param.ty.hasTypeVars = false) ∧
        signature.ret.hasTypeVars = false := by
  obtain ⟨params, ret⟩ := signature
  simp only [Signature.hasTypeVars, Bool.or_eq_false_iff, Param.anyHasTypeVars_eq_false_iff]
  exact and_comm

mutual

/-- The list of occurrences is empty exactly when the test is negative. -/
theorem Ty.typeVarOccurrences_eq_nil_iff :
    (ty : Ty) → (ty.typeVarOccurrences = [] ↔ ty.hasTypeVars = false)
  | .any | .never | .none | .bool | .int | .float | .str | .bytes | .named _ | .placeholder _
  | .typeVar _ => by simp [Ty.typeVarOccurrences, Ty.hasTypeVars]
  | .list item => by
    simpa [Ty.typeVarOccurrences, Ty.hasTypeVars] using Ty.typeVarOccurrences_eq_nil_iff item
  | .tuple items => by
    simpa [Ty.typeVarOccurrences, Ty.hasTypeVars] using Ty.typeVarOccurrencesIn_eq_nil_iff items
  | .union members => by
    simpa [Ty.typeVarOccurrences, Ty.hasTypeVars] using Ty.typeVarOccurrencesIn_eq_nil_iff members
  | .generic _ args => by
    simpa [Ty.typeVarOccurrences, Ty.hasTypeVars] using Ty.typeVarOccurrencesIn_eq_nil_iff args
  | .dict key value => by
    simp [Ty.typeVarOccurrences, Ty.hasTypeVars, Ty.typeVarOccurrences_eq_nil_iff key,
      Ty.typeVarOccurrences_eq_nil_iff value]
  | .callable signature => by
    simpa [Ty.typeVarOccurrences, Ty.hasTypeVars] using
      Signature.typeVarOccurrences_eq_nil_iff signature
  | .overloaded signatures => by
    simpa [Ty.typeVarOccurrences, Ty.hasTypeVars] using
      Signature.typeVarOccurrencesIn_eq_nil_iff signatures

/-- The same of several types. -/
theorem Ty.typeVarOccurrencesIn_eq_nil_iff :
    (types : List Ty) → (Ty.typeVarOccurrencesIn types = [] ↔ Ty.anyHasTypeVars types = false)
  | [] => by simp [Ty.typeVarOccurrencesIn, Ty.anyHasTypeVars]
  | first :: rest => by
    simp [Ty.typeVarOccurrencesIn, Ty.anyHasTypeVars, Ty.typeVarOccurrences_eq_nil_iff first,
      Ty.typeVarOccurrencesIn_eq_nil_iff rest]

/-- The same of a signature. -/
theorem Signature.typeVarOccurrences_eq_nil_iff :
    (signature : Signature) →
      (signature.typeVarOccurrences = [] ↔ signature.hasTypeVars = false)
  | ⟨params, ret⟩ => by
    simp [Signature.typeVarOccurrences, Signature.hasTypeVars,
      Param.typeVarOccurrencesIn_eq_nil_iff params, Ty.typeVarOccurrences_eq_nil_iff ret,
      and_comm]

/-- The same of several signatures. -/
theorem Signature.typeVarOccurrencesIn_eq_nil_iff :
    (signatures : List Signature) →
      (Signature.typeVarOccurrencesIn signatures = [] ↔
        Signature.anyHasTypeVars signatures = false)
  | [] => by simp [Signature.typeVarOccurrencesIn, Signature.anyHasTypeVars]
  | first :: rest => by
    simp [Signature.typeVarOccurrencesIn, Signature.anyHasTypeVars,
      Signature.typeVarOccurrences_eq_nil_iff first,
      Signature.typeVarOccurrencesIn_eq_nil_iff rest]

/-- The same of a parameter. -/
theorem Param.typeVarOccurrences_eq_nil_iff :
    (param : Param) → (param.typeVarOccurrences = [] ↔ param.hasTypeVars = false)
  | ⟨_, _, ty⟩ => by
    simpa [Param.typeVarOccurrences, Param.hasTypeVars] using Ty.typeVarOccurrences_eq_nil_iff ty

/-- The same of several parameters. -/
theorem Param.typeVarOccurrencesIn_eq_nil_iff :
    (params : List Param) →
      (Param.typeVarOccurrencesIn params = [] ↔ Param.anyHasTypeVars params = false)
  | [] => by simp [Param.typeVarOccurrencesIn, Param.anyHasTypeVars]
  | first :: rest => by
    simp [Param.typeVarOccurrencesIn, Param.anyHasTypeVars,
      Param.typeVarOccurrences_eq_nil_iff first, Param.typeVarOccurrencesIn_eq_nil_iff rest]

end

/-- A type that the test finds without variables has none to list. -/
theorem Ty.freeTypeVars_eq_nil {ty : Ty} (closed : ty.hasTypeVars = false) :
    ty.freeTypeVars = [] := by
  simp [Ty.freeTypeVars, (Ty.typeVarOccurrences_eq_nil_iff ty).mpr closed]

/-! ### Where variables occur -/

/-- A variable occurs in several types if it occurs in one of them. -/
theorem Ty.mem_typeVarOccurrencesIn (types : List Ty) (name : String) :
    name ∈ Ty.typeVarOccurrencesIn types ↔ ∃ ty ∈ types, name ∈ ty.typeVarOccurrences := by
  induction types with
  | nil => simp [Ty.typeVarOccurrencesIn]
  | cons first rest ih => simp [Ty.typeVarOccurrencesIn, ih]

/-- A variable occurs in parameters if it occurs in the type of one. -/
theorem Param.mem_typeVarOccurrencesIn (params : List Param) (name : String) :
    name ∈ Param.typeVarOccurrencesIn params ↔
      ∃ param ∈ params, name ∈ param.ty.typeVarOccurrences := by
  induction params with
  | nil => simp [Param.typeVarOccurrencesIn]
  | cons first rest ih =>
    obtain ⟨_, _, ty⟩ := first
    simp [Param.typeVarOccurrencesIn, Param.typeVarOccurrences, ih]

/-- A variable occurs in a signature if it occurs in a parameter type or in the result. -/
theorem Signature.mem_typeVarOccurrences (signature : Signature) (name : String) :
    name ∈ signature.typeVarOccurrences ↔
      ∃ part ∈ signature.components, name ∈ part.typeVarOccurrences := by
  obtain ⟨params, ret⟩ := signature
  simp only [Signature.typeVarOccurrences, Signature.components, List.mem_append, List.mem_cons,
    List.mem_map, Param.mem_typeVarOccurrencesIn]
  constructor
  · rintro (⟨param, within, occurs⟩ | occurs)
    · exact ⟨param.ty, .inr ⟨param, within, rfl⟩, occurs⟩
    · exact ⟨ret, .inl rfl, occurs⟩
  · rintro ⟨part, rfl | ⟨param, within, rfl⟩, occurs⟩
    · exact .inr occurs
    · exact .inl ⟨param, within, occurs⟩

/-- A variable occurs in several signatures if it occurs in one of them. -/
theorem Signature.mem_typeVarOccurrencesIn (signatures : List Signature) (name : String) :
    name ∈ Signature.typeVarOccurrencesIn signatures ↔
      ∃ signature ∈ signatures, name ∈ signature.typeVarOccurrences := by
  induction signatures with
  | nil => simp [Signature.typeVarOccurrencesIn]
  | cons first rest ih =>
    simp [Signature.typeVarOccurrencesIn, ih]

/-- A variable occurs in a type if it is the type or occurs directly inside. -/
theorem Ty.mem_typeVarOccurrences (ty : Ty) (name : String) :
    name ∈ ty.typeVarOccurrences ↔
      ty = .typeVar name ∨ ∃ part ∈ ty.components, name ∈ part.typeVarOccurrences := by
  cases ty
  case overloaded signatures =>
    simp only [Ty.typeVarOccurrences, Ty.components, Signature.mem_typeVarOccurrencesIn,
      Signature.mem_typeVarOccurrences, List.mem_flatMap, reduceCtorEq, false_or]
    constructor
    · rintro ⟨signature, within, part, inside, occurs⟩
      exact ⟨part, ⟨signature, within, inside⟩, occurs⟩
    · rintro ⟨part, ⟨signature, within, inside⟩, occurs⟩
      exact ⟨signature, within, part, inside, occurs⟩
  all_goals
    simp [Ty.typeVarOccurrences, Ty.components, Ty.mem_typeVarOccurrencesIn,
      Signature.mem_typeVarOccurrences, eq_comm]

end Callwise
