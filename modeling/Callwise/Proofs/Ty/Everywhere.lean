import Callwise.Proofs.Ty.Subtyping
import Callwise.Substitution

/-!
# Conditions on every part of a type

Many facts hold of types in which some construct never occurs. `Ty.everywhere` asks a Boolean
question of a type and of all types inside it: items, members, arguments, parameter types and
results, at any depth. Fragments of the types are such questions, so they can be evaluated, and
one set of lemmas takes a fragment apart at every constructor.

Two fragments are named here. A type without containers passed as types never mentions `KindN`,
which substitution would rewrite. A canonical type has only unions that `Ty.unionOf` leaves as
they are.
-/

namespace Callwise

variable {question : Ty → Bool}

mutual

/-- The question is answered with yes by the type and by every type inside it. -/
def Ty.everywhere (question : Ty → Bool) : Ty → Bool
  | .list item => question (.list item) && item.everywhere question
  | .tuple items => question (.tuple items) && Ty.everywhereIn question items
  | .dict key value =>
    question (.dict key value) && (key.everywhere question && value.everywhere question)
  | .union members => question (.union members) && Ty.everywhereIn question members
  | .generic name args => question (.generic name args) && Ty.everywhereIn question args
  | .callable signature => question (.callable signature) && signature.everywhere question
  | .overloaded signatures =>
    question (.overloaded signatures) && Signature.everywhereIn question signatures
  | other => question other

/-- The question is answered with yes everywhere in several types. -/
def Ty.everywhereIn (question : Ty → Bool) : List Ty → Bool
  | [] => true
  | first :: rest => first.everywhere question && Ty.everywhereIn question rest

/-- The question is answered with yes everywhere in a signature. -/
def Signature.everywhere (question : Ty → Bool) : Signature → Bool
  | ⟨params, ret⟩ => Param.everywhereIn question params && ret.everywhere question

/-- The question is answered with yes everywhere in several signatures. -/
def Signature.everywhereIn (question : Ty → Bool) : List Signature → Bool
  | [] => true
  | first :: rest => first.everywhere question && Signature.everywhereIn question rest

/-- The question is answered with yes everywhere in a parameter's type. -/
def Param.everywhere (question : Ty → Bool) : Param → Bool
  | ⟨_, _, ty⟩ => ty.everywhere question

/-- The question is answered with yes everywhere in several parameters. -/
def Param.everywhereIn (question : Ty → Bool) : List Param → Bool
  | [] => true
  | first :: rest => first.everywhere question && Param.everywhereIn question rest

end

section

variable {question : Ty → Bool}

/-- A question that holds everywhere holds at the root. -/
theorem Ty.everywhere_root {ty : Ty} (holds : ty.everywhere question = true) :
    question ty = true := by
  cases ty <;> simp_all [Ty.everywhere]

/-- Everywhere in a list means everywhere in each of its types. -/
theorem Ty.everywhereIn_iff (types : List Ty) :
    Ty.everywhereIn question types = true ↔ ∀ ty ∈ types, ty.everywhere question = true := by
  induction types with
  | nil => simp [Ty.everywhereIn]
  | cons first rest ih => simp [Ty.everywhereIn, ih]

/-- Everywhere in parameters means everywhere in the type of each. -/
theorem Param.everywhereIn_iff (params : List Param) :
    Param.everywhereIn question params = true ↔
      ∀ param ∈ params, param.ty.everywhere question = true := by
  induction params with
  | nil => simp [Param.everywhereIn]
  | cons first rest ih =>
    obtain ⟨name, kind, ty⟩ := first
    simp [Param.everywhereIn, Param.everywhere, ih]

/-- Everywhere in a signature means everywhere in its parameter types and its result. -/
theorem Signature.everywhere_iff (signature : Signature) :
    signature.everywhere question = true ↔
      (∀ param ∈ signature.params, param.ty.everywhere question = true) ∧
        signature.ret.everywhere question = true := by
  obtain ⟨params, ret⟩ := signature
  simp [Signature.everywhere, Param.everywhereIn_iff]

/-- Everywhere in several signatures means everywhere in each. -/
theorem Signature.everywhereIn_iff (signatures : List Signature) :
    Signature.everywhereIn question signatures = true ↔
      ∀ signature ∈ signatures, signature.everywhere question = true := by
  induction signatures with
  | nil => simp [Signature.everywhereIn]
  | cons first rest ih => simp [Signature.everywhereIn, ih]

end

/-! ### Parts of a type -/

/-- The parameter types and the result of a signature. -/
def Signature.components (signature : Signature) : List Ty :=
  signature.ret :: signature.params.map Param.ty

/-- The types of positional parameters stand directly inside. -/
theorem Signature.mem_components_of_positional {signature : Signature} {ty : Ty}
    (member : ty ∈ signature.positionalTypes) : ty ∈ signature.components := by
  obtain ⟨param, positional, rfl⟩ := List.mem_map.mp member
  exact List.mem_cons_of_mem _ (List.mem_map_of_mem (List.mem_filter.mp positional).1)

/-- The types directly inside a type. -/
def Ty.components : Ty → List Ty
  | .list item => [item]
  | .tuple items => items
  | .dict key value => [key, value]
  | .union members => members
  | .generic _ args => args
  | .callable signature => signature.components
  | .overloaded signatures => signatures.flatMap Signature.components
  | _ => []

/-- A question holds everywhere in a signature if it does in its parameter types and result. -/
theorem Signature.everywhere_iff_components (signature : Signature) :
    signature.everywhere question = true ↔
      ∀ part ∈ signature.components, part.everywhere question = true := by
  rw [Signature.everywhere_iff, Signature.components, List.forall_mem_cons, List.forall_mem_map]
  exact and_comm

/-- A question holds everywhere in a type if it holds at the root and everywhere in the types
directly inside. -/
theorem Ty.everywhere_iff_components (ty : Ty) :
    ty.everywhere question = true ↔
      question ty = true ∧ ∀ part ∈ ty.components, part.everywhere question = true := by
  cases ty <;> simp [Ty.everywhere, Ty.components, Ty.everywhereIn_iff, Signature.everywhereIn_iff,
    Signature.everywhere_iff_components]
  case overloaded signatures =>
    intro _
    constructor
    · intro holds part signature member within
      exact holds signature member part within
    · intro holds signature member part within
      exact holds part signature member within

theorem Ty.everywhere_of_mem_components {ty part : Ty} (holds : ty.everywhere question = true)
    (member : part ∈ ty.components) :
    part.everywhere question = true :=
  ((Ty.everywhere_iff_components ty).mp holds).2 part member

/-- What is directly inside a signature is smaller. -/
theorem Signature.sizeOf_component_lt {part : Ty} {signature : Signature}
    (member : part ∈ signature.components) : sizeOf part < sizeOf signature := by
  rcases List.mem_cons.mp member with rfl | inParams
  · exact signature.sizeOf_ret_lt
  · obtain ⟨param, within, rfl⟩ := List.mem_map.mp inParams
    exact Signature.sizeOf_ty_lt within

/-- What is directly inside a type is smaller. -/
theorem Ty.sizeOf_component_lt {part ty : Ty} (member : part ∈ ty.components) :
    sizeOf part < sizeOf ty := by
  cases ty <;> simp only [Ty.components, List.mem_cons, List.not_mem_nil, or_false] at member
  case list item => subst member; simp
  case dict key value =>
    simp only [Ty.dict.sizeOf_spec]
    rcases member with rfl | rfl <;> omega
  case callable signature =>
    have smaller := Signature.sizeOf_component_lt member
    simp only [Ty.callable.sizeOf_spec]
    omega
  case overloaded signatures =>
    obtain ⟨signature, within, inside⟩ := List.mem_flatMap.mp member
    have outer := List.sizeOf_lt_of_mem within
    have smaller := Signature.sizeOf_component_lt inside
    simp only [Ty.overloaded.sizeOf_spec]
    omega
  all_goals
    have smaller := List.sizeOf_lt_of_mem member
    simp
    omega

/-- The first type occurs in the second, at any depth. -/
inductive Ty.Inside : Ty → Ty → Prop where
  | root (ty : Ty) : Inside ty ty
  | deeper {part component ty : Ty} (member : component ∈ ty.components)
      (inside : Inside part component) : Inside part ty

/-- A question holds everywhere exactly if it holds of all that occurs inside. -/
theorem Ty.everywhere_iff_inside (ty : Ty) :
    ty.everywhere question = true ↔ ∀ part, part.Inside ty → question part = true := by
  constructor
  · intro holds part inside
    induction inside with
    | root => exact ((Ty.everywhere_iff_components _).mp holds).1
    | deeper member _ ih =>
      exact ih (((Ty.everywhere_iff_components _).mp holds).2 _ member)
  · intro holds
    rw [Ty.everywhere_iff_components]
    refine ⟨holds ty (.root ty), fun component member => ?_⟩
    have smaller := Ty.sizeOf_component_lt member
    rw [Ty.everywhere_iff_inside component]
    intro part inside
    exact holds part (.deeper member inside)
termination_by sizeOf ty

/-! ### Two fragments -/

/-- The type passes a container and its arguments as one type. -/
def Ty.isKind : Ty → Bool
  | .generic name _ => name == kindName
  | _ => false

/-- No container is passed as a type anywhere inside. -/
def Ty.isKindFree (ty : Ty) : Bool := ty.everywhere fun part => !part.isKind

/-- The type can be a member of a simplified union. -/
def Ty.canBeMember : Ty → Bool
  | .union _ | .any | .never => false
  | _ => true

/-- No member of the list absorbs another. -/
def Ty.Independent (members : List Ty) : Prop :=
  members.Pairwise fun left right =>
    Ty.absorbs left right = false ∧ Ty.absorbs right left = false

instance (members : List Ty) : Decidable (Ty.Independent members) :=
  inferInstanceAs (Decidable (List.Pairwise _ _))

/-- If the type is a union, it has at least two members, each can be a member, and none absorbs
another. -/
def Ty.isSimplified : Ty → Bool
  | .union members =>
    decide (2 ≤ members.length) && members.all Ty.canBeMember && decide (Ty.Independent members)
  | _ => true

/-- Every union inside the type is simplified. -/
def Ty.isCanonical (ty : Ty) : Bool := ty.everywhere Ty.isSimplified

end Callwise
