import Callwise.Ty.Subtype

/-!
# Subtyping constructor by constructor

The comparison of two types first asks whether they are equal and then looks at their constructors.
The second question makes the first one redundant on containers and signatures, because every type
fits itself. The equations here leave it out: a container fits another exactly when its parts fit.
-/

namespace Callwise

-- Each proof here looks at one case of the comparison.
attribute [local simp] Ty.isSubtype Ty.allSubtypes

/-- Every type fits itself. -/
@[simp]
theorem Ty.isSubtype_refl (ty : Ty) : ty.isSubtype ty = true := by
  unfold Ty.isSubtype
  simp

/-- A flexible type fits every type. -/
theorem Ty.isSubtype_of_flexible {sub : Ty} (flexible : sub.isFlexible = true) (sup : Ty) :
    sub.isSubtype sup = true := by
  unfold Ty.isSubtype
  simp [flexible]

/-- Every type fits a flexible type. -/
theorem Ty.isSubtype_flexible (sub : Ty) {sup : Ty} (flexible : sup.isFlexible = true) :
    sub.isSubtype sup = true := by
  unfold Ty.isSubtype
  simp [flexible]

/-- `Any` fits every type. -/
@[simp]
theorem Ty.any_isSubtype (sup : Ty) : Ty.any.isSubtype sup = true :=
  Ty.isSubtype_of_flexible rfl sup

/-- Every type fits `Any`. -/
@[simp]
theorem Ty.isSubtype_any (sub : Ty) : sub.isSubtype .any = true :=
  Ty.isSubtype_flexible sub rfl

/-- A placeholder fits every type. -/
@[simp]
theorem Ty.placeholder_isSubtype (id : Nat) (sup : Ty) :
    (Ty.placeholder id).isSubtype sup = true :=
  Ty.isSubtype_of_flexible rfl sup

/-- The type without values fits every type. -/
@[simp]
theorem Ty.never_isSubtype (sup : Ty) : Ty.never.isSubtype sup = true := by
  unfold Ty.isSubtype
  simp

/-- Every list of types fits itself. -/
@[simp]
theorem Ty.allSubtypes_refl (types : List Ty) : Ty.allSubtypes types types = true := by
  induction types with
  | nil => simp
  | cons first rest ih => simp [ih]

/-- Lists fit exactly if they have the same length and fit at each index. -/
theorem Ty.allSubtypes_iff (subs sups : List Ty) :
    Ty.allSubtypes subs sups = true ↔ subs.length = sups.length ∧
      ∀ (index : Nat) (sub sup : Ty), subs[index]? = some sub → sups[index]? = some sup →
        sub.isSubtype sup = true := by
  induction subs generalizing sups with
  | nil =>
    cases sups with
    | nil => simp
    | cons sup rest => simp
  | cons sub rest ih =>
    cases sups with
    | nil => simp
    | cons sup others =>
      simp only [Ty.allSubtypes, Bool.and_eq_true, ih, List.length_cons,
        Nat.add_right_cancel_iff]
      constructor
      · rintro ⟨first, sameLength, later⟩
        refine ⟨sameLength, fun index narrow wide => ?_⟩
        cases index with
        | zero =>
          rintro ⟨⟩ ⟨⟩
          exact first
        | succ index => exact later index narrow wide
      · rintro ⟨sameLength, all⟩
        exact ⟨all 0 sub sup rfl rfl, sameLength,
          fun index narrow wide => all (index + 1) narrow wide⟩

/-- Lists of different lengths do not fit. -/
theorem Ty.allSubtypes_eq_false {subs sups : List Ty} (different : subs.length ≠ sups.length) :
    Ty.allSubtypes subs sups = false := by
  rw [Bool.eq_false_iff]
  intro fits
  exact different ((Ty.allSubtypes_iff subs sups).mp fits).1

/-- A positional parameter takes one argument only. -/
theorem ParamKind.isVariadic_of_isPositional {kind : ParamKind}
    (positional : kind.isPositional = true) : kind.isVariadic = false := by
  cases kind <;> first | rfl | cases positional

/-- A signature without a star parameter does not take any arguments at all. -/
theorem Signature.isEllipsis_of_star?_eq_none {signature : Signature}
    (unstarred : signature.star? = none) :
    signature.isEllipsis = false := by
  unfold Signature.isEllipsis
  split
  · rename_i star doubleStar shape
    have other := List.find?_eq_none.mp unstarred star (by simp [shape])
    simp_all
  · rfl

/-- Without star parameters a signature does not take any arguments at all. -/
theorem Signature.isEllipsis_eq_false {signature : Signature}
    (unstarred : ∀ param ∈ signature.params, param.kind.isVariadic = false) :
    signature.isEllipsis = false := by
  apply Signature.isEllipsis_of_star?_eq_none
  rw [Signature.star?, List.find?_eq_none]
  intro param member star
  have ordinary := unstarred param member
  rw [beq_iff_eq.mp star] at ordinary
  cases ordinary

/-- What receives the argument at the index of a positional parameter is that parameter. -/
theorem Signature.slot?_of_mem_zipIdx {signature : Signature} {param : Param} {index : Nat}
    (member : (param, index) ∈ signature.positionals.zipIdx) :
    signature.slot? index = some param.ty := by
  have here : signature.positionals[index]? = some param := by
    simpa [List.mem_zipIdx_iff_getElem?] using member
  simp [Signature.slot?, here]

/-- One signature may be called wherever another may: the results fit, and unless one of the two
takes any arguments, no further argument is required and each positional parameter of the other is
received by a type at least as wide. -/
theorem Signature.isSubtype_iff (sub sup : Signature) :
    sub.isSubtype sup = true ↔
      sub.ret.isSubtype sup.ret = true ∧
        (sub.isEllipsis = true ∨ sup.isEllipsis = true ∨
          ((sub.requiresFrom sup.positionals.length = false ∨ sup.star?.isSome = true) ∧
            ∀ param index, (param, index) ∈ sup.positionals.zipIdx →
              ∃ received, sub.slot? index = some received ∧
                param.ty.isSubtype received = true)) := by
  rw [Signature.isSubtype]
  simp only [Bool.and_eq_true, Bool.or_eq_true, Bool.not_eq_true', List.all_eq_true,
    List.mem_attach, forall_const, Subtype.forall, Prod.forall, or_assoc]
  refine and_congr_right fun _ => or_congr_right (or_congr_right (and_congr_right fun _ => ?_))
  refine forall_congr' fun param => forall_congr' fun index => forall_congr' fun _ => ?_
  split
  · rename_i received found
    simp [found]
  · rename_i found
    simp [found]

/-- The types of the positional parameters. -/
def Signature.positionalTypes (signature : Signature) : List Ty :=
  signature.positionals.map Param.ty

/-- One signature may be called wherever another may if the results fit and the positional
parameters correspond and fit in the other direction. -/
theorem Signature.isSubtype_of_positionalTypes {sub sup : Signature}
    (ret : sub.ret.isSubtype sup.ret = true)
    (params : Ty.allSubtypes sup.positionalTypes sub.positionalTypes = true) :
    sub.isSubtype sup = true := by
  rw [Ty.allSubtypes_iff] at params
  obtain ⟨sameLength, fits⟩ := params
  have positionals : sup.positionals.length = sub.positionals.length := by
    simpa [Signature.positionalTypes] using sameLength
  rw [Signature.isSubtype_iff]
  refine ⟨ret, .inr (.inr ⟨.inl ?_, ?_⟩)⟩
  · simp [Signature.requiresFrom, positionals]
  · intro param index member
    have supAt : sup.positionals[index]? = some param := by
      simpa [List.mem_zipIdx_iff_getElem?] using member
    have bound : index < sub.positionals.length := by
      rw [← positionals]
      exact (List.getElem?_eq_some_iff.mp supAt).1
    refine ⟨sub.positionals[index].ty, ?_, fits index _ _ ?_ ?_⟩
    · simp [Signature.slot?, List.getElem?_eq_getElem bound]
    · simp [Signature.positionalTypes, supAt]
    · simp [Signature.positionalTypes, List.getElem?_eq_getElem bound]

/-- Every signature may be called wherever it may be called. -/
@[simp]
theorem Signature.isSubtype_refl (signature : Signature) :
    signature.isSubtype signature = true :=
  Signature.isSubtype_of_positionalTypes (Ty.isSubtype_refl _) (Ty.allSubtypes_refl _)

/-- Lists fit as their items do. -/
@[simp]
theorem Ty.list_isSubtype_list (item wider : Ty) :
    (Ty.list item).isSubtype (.list wider) = item.isSubtype wider := by
  by_cases same : item = wider
  · simp [same]
  · simp [Ty.isFlexible, Ty.isWidened, same]

/-- Dictionaries fit as their keys and values do. -/
@[simp]
theorem Ty.dict_isSubtype_dict (key value widerKey widerValue : Ty) :
    (Ty.dict key value).isSubtype (.dict widerKey widerValue) =
      (key.isSubtype widerKey && value.isSubtype widerValue) := by
  by_cases same : key = widerKey ∧ value = widerValue
  · simp [same]
  · simp [Ty.isFlexible, Ty.isWidened, same]

/-- Tuples fit as their items do. -/
@[simp]
theorem Ty.tuple_isSubtype_tuple (items wider : List Ty) :
    (Ty.tuple items).isSubtype (.tuple wider) = Ty.allSubtypes items wider := by
  by_cases same : items = wider
  · simp [same]
  · simp [Ty.isFlexible, Ty.isWidened, same]

/-- Applied named types fit if the names agree and the arguments fit. -/
@[simp]
theorem Ty.generic_isSubtype_generic (name other : String) (args wider : List Ty) :
    (Ty.generic name args).isSubtype (.generic other wider) =
      (name == other && Ty.allSubtypes args wider) := by
  by_cases same : name = other ∧ args = wider
  · simp [same]
  · simp [Ty.isFlexible, Ty.isWidened, same]

/-- Callable types fit as their signatures do. -/
@[simp]
theorem Ty.callable_isSubtype_callable (signature wider : Signature) :
    (Ty.callable signature).isSubtype (.callable wider) = signature.isSubtype wider := by
  by_cases same : signature = wider
  · simp [same]
  · simp [Ty.isFlexible, Ty.isWidened, same]

/-- An overloaded type fits a callable type if one of its signatures does. -/
@[simp]
theorem Ty.overloaded_isSubtype_callable (signatures : List Signature) (wider : Signature) :
    (Ty.overloaded signatures).isSubtype (.callable wider) =
      signatures.any fun signature => signature.isSubtype wider := by
  simp [Ty.isFlexible, Ty.isWidened]

/-! ### Unions -/

/-- Every type fits `object`. -/
theorem Ty.isSubtype_object (sub : Ty) : sub.isSubtype (.named "object") = true := by
  unfold Ty.isSubtype
  simp

/-- Why a union fits: the other type takes everything, or is that union, or takes each member. -/
theorem Ty.union_isSubtype_cases {members : List Ty} {sup : Ty}
    (fits : (Ty.union members).isSubtype sup = true) :
    sup.isFlexible = true ∨ .union members = sup ∨ sup = .named "object" ∨
      ∀ member ∈ members, member.isSubtype sup = true := by
  simpa [Ty.isFlexible, Ty.isWidened, or_assoc] using fits

/-- A union fits a type if all its members do. -/
theorem Ty.union_isSubtype_of_forall {members : List Ty} {sup : Ty}
    (fits : ∀ member ∈ members, member.isSubtype sup = true) :
    (Ty.union members).isSubtype sup = true := by
  unfold Ty.isSubtype
  simp only [List.all_eq_true, List.mem_attach, forall_const, Subtype.forall, Bool.or_eq_true]
  exact .inr fits

/-- A type that is no union fits a union if it fits one of the members. -/
theorem Ty.isSubtype_union_of_single {sub member : Ty} {members : List Ty}
    (single : ∀ parts, sub ≠ .union parts) (within : member ∈ members)
    (fits : sub.isSubtype member = true) : sub.isSubtype (.union members) = true := by
  have found : ∃ member ∈ members, sub.isSubtype member = true := ⟨member, within, fits⟩
  unfold Ty.isSubtype
  cases sub
  case union parts => exact absurd rfl (single parts)
  all_goals simp [found, Ty.isFlexible]

/-- A type that fits a member of a union fits the union. If the type is a union itself, its members
fit, and the recursion goes on with them. -/
theorem Ty.isSubtype_union_of_mem {members : List Ty} {member : Ty} (within : member ∈ members)
    (sub : Ty) (fits : sub.isSubtype member = true) : sub.isSubtype (.union members) = true := by
  cases sub
  case union parts =>
    apply Ty.union_isSubtype_of_forall
    intro part inside
    have smaller : sizeOf part < sizeOf (Ty.union parts) := by
      have bound := List.sizeOf_lt_of_mem inside
      simp only [Ty.union.sizeOf_spec]
      omega
    apply Ty.isSubtype_union_of_mem within part
    rcases Ty.union_isSubtype_cases fits with flexible | rfl | rfl | all
    · exact Ty.isSubtype_flexible part flexible
    · exact Ty.isSubtype_union_of_mem inside part (Ty.isSubtype_refl part)
    · exact Ty.isSubtype_object part
    · exact all part inside
  all_goals exact Ty.isSubtype_union_of_single (by simp) within fits
termination_by sizeOf sub

/-- A union fits a type exactly if all its members do. -/
theorem Ty.union_isSubtype_iff (members : List Ty) (sup : Ty) :
    (Ty.union members).isSubtype sup = true ↔
      ∀ member ∈ members, member.isSubtype sup = true := by
  constructor
  · intro fits member within
    rcases Ty.union_isSubtype_cases fits with flexible | rfl | rfl | all
    · exact Ty.isSubtype_flexible member flexible
    · exact Ty.isSubtype_union_of_mem within member (Ty.isSubtype_refl member)
    · exact Ty.isSubtype_object member
    · exact all member within
  · exact Ty.union_isSubtype_of_forall

end Callwise
