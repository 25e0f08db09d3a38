import Callwise.Proofs.Ty.Subtyping
import Callwise.Proofs.Ty.Everywhere

/-!
# Subtyping is transitive where nothing is left open

`Any`, placeholders and type variables fit everywhere and are fitted by everything, so a chain of
subtypes through one of them says nothing. The same is true of a name that stands alone in one type
and with arguments in another, of overloaded types, and of callables that leave the number of their
positional arguments open. On the remaining types, which are called definite, subtyping is
transitive. Unions need not be simplified.

The comparison is a list of overlapping cases, and transitivity goes through three types at once. So
the cases are inverted first: a union fits if its members do, another type fits a union if it fits a
member, and two types that are no unions fit for one of five reasons. The induction is on the three
sizes together, because at parameters the types change their roles.
-/

namespace Callwise

variable {applied : String → Bool}

/-! ### Definite types -/

/-- Every positional argument is required and none is collected. -/
def Signature.isFixed (signature : Signature) : Bool :=
  signature.params.all fun param => param.kind != .optional && param.kind != .star

/-- The root of the type is not left open: it is neither `Any`, a placeholder, a type variable nor
overloaded, it does not apply `object` to arguments, and if it can be called, the number of
positional arguments is fixed. -/
def Ty.isSettled : Ty → Bool
  | .any | .placeholder _ | .typeVar _ | .overloaded _ => false
  | .generic name _ => name != "object"
  | .callable signature => signature.isFixed
  | _ => true

/-- Nothing inside the type is left open. -/
def Ty.isDefinite (ty : Ty) : Bool := ty.everywhere Ty.isSettled

/-- The name is applied to arguments somewhere in the type. -/
def Ty.applies (name : String) (ty : Ty) : Bool :=
  !ty.everywhere fun
    | .generic other _ => other != name
    | _ => true

/-- No name stands alone in one of the types and is applied to arguments in one of them. -/
def Ty.namesApart (types : List Ty) : Bool :=
  types.all fun ty => ty.everywhere fun
    | .named name => !types.any (Ty.applies name)
    | _ => true

/-- The root of the type is settled, and it stands alone or is applied as the names say. -/
def Ty.isFirm (applied : String → Bool) : Ty → Bool
  | .named name => !applied name
  | .generic name args => applied name && (Ty.generic name args).isSettled
  | ty => ty.isSettled

/-- A settled part of one of several types with names apart is firm for the names that they
apply. -/
theorem Ty.isFirm_of_inside {types : List Ty} {ty part : Ty} (member : ty ∈ types)
    (apart : Ty.namesApart types = true) (inside : part.Inside ty)
    (settled : part.isSettled = true) :
    part.isFirm (fun name => types.any (Ty.applies name)) = true := by
  cases part
  case named name =>
    have alone := (Ty.everywhere_iff_inside ty).mp (List.all_eq_true.mp apart ty member) _ inside
    exact alone
  case generic name args =>
    have applied : ty.applies name = true := by
      rw [Ty.applies, Bool.not_eq_true']
      apply Bool.eq_false_iff.mpr
      intro everywhere
      have different := (Ty.everywhere_iff_inside ty).mp everywhere _ inside
      simp at different
    have someApplies : types.any (Ty.applies name) = true :=
      List.any_eq_true.mpr ⟨ty, member, applied⟩
    simp [Ty.isFirm, someApplies, settled]
  all_goals exact settled

/-- What is inside definite types with names apart is firm for the names that they apply. -/
theorem Ty.firm_of_definite {types : List Ty} {ty : Ty} (member : ty ∈ types)
    (definite : ty.isDefinite = true) (apart : Ty.namesApart types = true) :
    ty.everywhere (Ty.isFirm fun name => types.any (Ty.applies name)) = true := by
  rw [Ty.everywhere_iff_inside]
  intro part inside
  exact Ty.isFirm_of_inside member apart inside
    ((Ty.everywhere_iff_inside ty).mp definite part inside)

/-! ### How firm types fit -/

/-- The two types have the same constructor, and what stands inside fits. -/
inductive Ty.FitsByParts : Ty → Ty → Prop where
  | list {item wider : Ty} (items : item.isSubtype wider = true) :
      FitsByParts (.list item) (.list wider)
  | dict {key value widerKey widerValue : Ty} (keys : key.isSubtype widerKey = true)
      (values : value.isSubtype widerValue = true) :
      FitsByParts (.dict key value) (.dict widerKey widerValue)
  | tuple {items wider : List Ty} (all : Ty.allSubtypes items wider = true) :
      FitsByParts (.tuple items) (.tuple wider)
  | generic {name : String} {args wider : List Ty} (all : Ty.allSubtypes args wider = true) :
      FitsByParts (.generic name args) (.generic name wider)
  | callable {signature wider : Signature} (fits : signature.isSubtype wider = true) :
      FitsByParts (.callable signature) (.callable wider)

/-- Types that fit by parts fit. -/
theorem Ty.FitsByParts.isSubtype {sub sup : Ty} (parts : sub.FitsByParts sup) :
    sub.isSubtype sup = true := by
  cases parts with
  | list items => simpa using items
  | dict keys values => simp [keys, values]
  | tuple all => simpa using all
  | generic all => simpa using all
  | callable fits => simpa using fits

/-- The three ways to widen a number. -/
theorem Ty.isWidened_iff (sub sup : Ty) :
    Ty.isWidened sub sup = true ↔
      (sub = .bool ∧ sup = .int) ∨ (sub = .bool ∧ sup = .float) ∨ (sub = .int ∧ sup = .float) := by
  unfold Ty.isWidened
  split <;> simp_all

/-- A firm type is settled. -/
theorem Ty.isSettled_of_isFirm {ty : Ty} (firm : ty.isFirm applied = true) :
    ty.isSettled = true := by
  cases ty
  case generic name args => exact (Bool.and_eq_true_iff.mp firm).2
  case named name => rfl
  all_goals exact firm

/-- A firm type is not flexible. -/
theorem Ty.isFlexible_of_isFirm {ty : Ty} (firm : ty.isFirm applied = true) :
    ty.isFlexible = false := by
  cases ty <;> first | rfl | cases firm

/-- Why a firm type that is no union fits another one. -/
theorem Ty.isSubtype_cases {sub sup : Ty} (subFirm : sub.isFirm applied = true)
    (supFirm : sup.isFirm applied = true) (subSingle : ∀ members, sub ≠ .union members)
    (supSingle : ∀ members, sup ≠ .union members) (fits : sub.isSubtype sup = true) :
    sub = .never ∨ sub = sup ∨ Ty.isWidened sub sup = true ∨ sup = .named "object" ∨
      sub.FitsByParts sup := by
  rw [Ty.isSubtype.eq_def] at fits
  simp only [Ty.isFlexible_of_isFirm subFirm, Ty.isFlexible_of_isFirm supFirm, Bool.false_or,
    Bool.or_eq_true, beq_iff_eq] at fits
  rcases fits with (((never | same) | widened) | object) | inside
  · exact .inl never
  · exact .inr (.inl same)
  · exact .inr (.inr (.inl widened))
  · exact .inr (.inr (.inr (.inl object)))
  · refine .inr (.inr (.inr (.inr ?_)))
    split at inside
    · exact absurd rfl (subSingle _)
    · exact absurd rfl (supSingle _)
    · exact .list inside
    · rw [Bool.and_eq_true] at inside
      exact .dict inside.1 inside.2
    · exact .tuple inside
    · rw [Bool.and_eq_true, beq_iff_eq] at inside
      obtain ⟨rfl, all⟩ := inside
      exact .generic all
    · -- a name applied on the left stands alone on the right
      simp_all [Ty.isFirm]
    · simp_all [Ty.isFirm]
    · exact .callable inside
    · cases subFirm
    · cases supFirm
    · cases inside

/-- A type is a union or not. -/
theorem Ty.union_or_single (ty : Ty) :
    (∃ members, ty = .union members) ∨ ∀ members, ty ≠ .union members := by
  cases ty <;> simp

/-- A type that is neither flexible nor a union fits a union only if it has no values or fits a
member. -/
theorem Ty.isSubtype_union_cases {sub : Ty} {members : List Ty}
    (rigid : sub.isFlexible = false) (single : ∀ parts, sub ≠ .union parts)
    (fits : sub.isSubtype (.union members) = true) :
    sub = .never ∨ ∃ member ∈ members, sub.isSubtype member = true := by
  rw [Ty.isSubtype.eq_def] at fits
  cases sub
  case union parts => exact absurd rfl (single parts)
  all_goals simp_all [Ty.isFlexible, Ty.isWidened]

/-- Only a type without values fits the type without values. -/
theorem Ty.eq_never_of_isSubtype {sub : Ty} (firm : sub.isFirm applied = true)
    (single : ∀ members, sub ≠ .union members) (fits : sub.isSubtype .never = true) :
    sub = .never := by
  rcases Ty.isSubtype_cases firm rfl single (by simp) fits with
    never | same | widened | impossible | parts
  · exact never
  · exact same
  · simp [Ty.isWidened_iff] at widened
  · cases impossible
  · cases parts

/-! ### Signatures with a fixed number of positional arguments -/

namespace Signature

variable {signature : Signature}

/-- Positional arguments beyond the parameters are not collected. -/
theorem star?_of_isFixed (fixed : signature.isFixed = true) :
    signature.star? = none := by
  rw [star?, List.find?_eq_none]
  intro param member star
  have other := List.all_eq_true.mp fixed param member
  simp_all

/-- A signature with a fixed number of positional arguments does not take any arguments at all. -/
theorem isEllipsis_of_isFixed (fixed : signature.isFixed = true) :
    signature.isEllipsis = false :=
  isEllipsis_of_star?_eq_none (star?_of_isFixed fixed)

/-- Each positional argument goes to the parameter at its index. -/
theorem slot?_of_isFixed (fixed : signature.isFixed = true) (index : Nat) :
    signature.slot? index = signature.positionalTypes[index]? := by
  simp [slot?, positionalTypes, star?_of_isFixed fixed]

/-- No argument is required from an index on exactly if there are no parameters from there on. -/
theorem requiresFrom_eq_false_iff (fixed : signature.isFixed = true) (index : Nat) :
    signature.requiresFrom index = false ↔ signature.positionalTypes.length ≤ index := by
  have required : ∀ param ∈ signature.positionals, param.kind = .positional := by
    intro param member
    obtain ⟨within, positional⟩ := List.mem_filter.mp member
    have other := List.all_eq_true.mp fixed param within
    cases kind : param.kind <;> simp_all [ParamKind.isPositional]
  rw [requiresFrom, positionalTypes, List.length_map, List.any_eq_false]
  constructor
  · intro noneLeft
    apply List.drop_eq_nil_iff.mp
    rw [List.eq_nil_iff_forall_not_mem]
    intro param member
    exact noneLeft param member (by simp [required param (List.mem_of_mem_drop member)])
  · intro short param member
    rw [List.drop_eq_nil_of_le short] at member
    cases member

/-- Signatures that fix the number of positional arguments fit exactly if the results fit and the
positional parameters fit in the other direction. -/
theorem isSubtype_iff_of_isFixed {sub sup : Signature} (subFixed : sub.isFixed = true)
    (supFixed : sup.isFixed = true) :
    sub.isSubtype sup = true ↔ sub.ret.isSubtype sup.ret = true ∧
      Ty.allSubtypes sup.positionalTypes sub.positionalTypes = true := by
  constructor
  · intro fits
    have lengths : sup.positionals.length = sup.positionalTypes.length := by simp [positionalTypes]
    rw [isSubtype_iff, isEllipsis_of_isFixed subFixed, isEllipsis_of_isFixed supFixed,
      star?_of_isFixed supFixed, lengths, requiresFrom_eq_false_iff subFixed] at fits
    simp only [Bool.false_eq_true, false_or, Option.isSome_none, or_false,
      slot?_of_isFixed subFixed] at fits
    obtain ⟨ret, short, received⟩ := fits
    have indexed : ∀ (index : Nat) (ty : Ty), sup.positionalTypes[index]? = some ty ↔
        ∃ param, (param, index) ∈ sup.positionals.zipIdx ∧ param.ty = ty := by
      intro index ty
      simp [positionalTypes, List.mem_zipIdx_iff_getElem?]
    rw [Ty.allSubtypes_iff]
    refine ⟨ret, ?_, ?_⟩
    · apply Nat.le_antisymm _ short
      by_cases longer : sub.positionalTypes.length < sup.positionalTypes.length
      · obtain ⟨param, member, _⟩ := (indexed _ _).mp (List.getElem?_eq_getElem longer)
        obtain ⟨ty, found, _⟩ := received param _ member
        rw [List.getElem?_eq_none (Nat.le_refl _)] at found
        cases found
      · exact Nat.le_of_not_lt longer
    · intro index expected found supAt subAt
      obtain ⟨param, member, rfl⟩ := (indexed index expected).mp supAt
      obtain ⟨ty, here, fits⟩ := received param index member
      rw [subAt, Option.some.injEq] at here
      rw [here]
      exact fits
  · rintro ⟨ret, params⟩
    exact isSubtype_of_positionalTypes ret params

end Signature

/-! ### Chains -/

/-- Lists fit along a chain if their types do. -/
theorem Ty.allSubtypes_trans {first second third : List Ty}
    (chain : ∀ narrow ∈ first, ∀ middle ∈ second, ∀ wide ∈ third,
      narrow.isSubtype middle = true → middle.isSubtype wide = true →
        narrow.isSubtype wide = true)
    (left : Ty.allSubtypes first second = true) (right : Ty.allSubtypes second third = true) :
    Ty.allSubtypes first third = true := by
  rw [Ty.allSubtypes_iff] at left right ⊢
  refine ⟨left.1.trans right.1, fun index narrow wide firstAt thirdAt => ?_⟩
  have bound : index < second.length := by
    rw [← left.1]
    exact (List.getElem?_eq_some_iff.mp firstAt).1
  have secondAt := List.getElem?_eq_getElem bound
  exact chain narrow (List.mem_of_getElem? firstAt) _ (List.mem_of_getElem? secondAt) wide
    (List.mem_of_getElem? thirdAt) (left.2 index _ _ firstAt secondAt)
    (right.2 index _ _ secondAt thirdAt)

/-- Chains of types that stand directly inside three types. -/
def Ty.ChainsInside (first second third : Ty) : Prop :=
  ∀ narrow ∈ first.components, ∀ middle ∈ second.components, ∀ wide ∈ third.components,
    narrow.isSubtype middle = true → middle.isSubtype wide = true → narrow.isSubtype wide = true

/-- Fitting by parts is transitive if the parts chain. The parameters of signatures chain in the
other direction. -/
theorem Ty.FitsByParts.trans {first second third : Ty} (firstSettled : first.isSettled = true)
    (secondSettled : second.isSettled = true) (thirdSettled : third.isSettled = true)
    (inside : Ty.ChainsInside first second third) (reversed : Ty.ChainsInside third second first)
    (left : first.FitsByParts second) (right : second.FitsByParts third) :
    first.FitsByParts third := by
  cases left with
  | list leftItems =>
    cases right with
    | list rightItems =>
      exact .list (inside _ (by simp [Ty.components]) _ (by simp [Ty.components]) _
        (by simp [Ty.components]) leftItems rightItems)
  | dict leftKeys leftValues =>
    cases right with
    | dict rightKeys rightValues =>
      exact .dict
        (inside _ (by simp [Ty.components]) _ (by simp [Ty.components]) _
          (by simp [Ty.components]) leftKeys rightKeys)
        (inside _ (by simp [Ty.components]) _ (by simp [Ty.components]) _
          (by simp [Ty.components]) leftValues rightValues)
  | tuple leftItems =>
    cases right with
    | tuple rightItems => exact .tuple (Ty.allSubtypes_trans inside leftItems rightItems)
  | generic leftArgs =>
    cases right with
    | generic rightArgs => exact .generic (Ty.allSubtypes_trans inside leftArgs rightArgs)
  | callable leftFits =>
    cases right with
    | callable rightFits =>
      rw [Signature.isSubtype_iff_of_isFixed firstSettled secondSettled] at leftFits
      rw [Signature.isSubtype_iff_of_isFixed secondSettled thirdSettled] at rightFits
      refine .callable ((Signature.isSubtype_iff_of_isFixed firstSettled thirdSettled).mpr ⟨?_, ?_⟩)
      · exact inside _ List.mem_cons_self _ List.mem_cons_self _ List.mem_cons_self
          leftFits.1 rightFits.1
      · refine Ty.allSubtypes_trans ?_ rightFits.2 leftFits.2
        intro narrow inThird middle inSecond wide inFirst
        exact reversed narrow (Signature.mem_components_of_positional inThird) middle
          (Signature.mem_components_of_positional inSecond) wide
          (Signature.mem_components_of_positional inFirst)

/-- A chain of types of which none is a union. What the first step does leaves few ways to go on:
behind a wider number only numbers follow, behind `object` only `object`, and behind a container
only a container of the same kind. -/
theorem Ty.isSubtype_trans_of_single {first second third : Ty}
    (firstFirm : first.isFirm applied = true) (secondFirm : second.isFirm applied = true)
    (thirdFirm : third.isFirm applied = true) (firstSingle : ∀ members, first ≠ .union members)
    (secondSingle : ∀ members, second ≠ .union members)
    (thirdSingle : ∀ members, third ≠ .union members) (inside : Ty.ChainsInside first second third)
    (reversed : Ty.ChainsInside third second first) (left : first.isSubtype second = true)
    (right : second.isSubtype third = true) :
    first.isSubtype third = true := by
  rcases Ty.isSubtype_cases secondFirm thirdFirm secondSingle thirdSingle right with
    rfl | rfl | rightWidened | rfl | rightParts
  · rw [Ty.eq_never_of_isSubtype firstFirm firstSingle left]
    exact Ty.never_isSubtype third
  · exact left
  · rcases Ty.isSubtype_cases firstFirm secondFirm firstSingle secondSingle left with
      rfl | rfl | leftWidened | rfl | leftParts
    · exact Ty.never_isSubtype third
    · exact right
    · have widened : Ty.isWidened first third = true := by
        rw [Ty.isWidened_iff] at leftWidened rightWidened ⊢
        grind
      rw [Ty.isSubtype.eq_def]
      simp [widened]
    · simp [Ty.isWidened_iff] at rightWidened
    · cases leftParts <;> simp [Ty.isWidened_iff] at rightWidened
  · exact Ty.isSubtype_object first
  · rcases Ty.isSubtype_cases firstFirm secondFirm firstSingle secondSingle left with
      rfl | rfl | leftWidened | rfl | leftParts
    · exact Ty.never_isSubtype third
    · exact right
    · cases rightParts <;> simp [Ty.isWidened_iff] at leftWidened
    · cases rightParts
    · exact (Ty.FitsByParts.trans (Ty.isSettled_of_isFirm firstFirm)
        (Ty.isSettled_of_isFirm secondFirm) (Ty.isSettled_of_isFirm thirdFirm) inside reversed
        leftParts rightParts).isSubtype

/-- Subtyping is transitive on firm types. A union on the left is taken apart first, then one in
the middle, then one on the right; each step keeps the other two types. Where no union is left, the
induction goes on inside. -/
theorem Ty.isSubtype_trans_of_firm (first second third : Ty)
    (firstFirm : first.everywhere (Ty.isFirm applied) = true)
    (secondFirm : second.everywhere (Ty.isFirm applied) = true)
    (thirdFirm : third.everywhere (Ty.isFirm applied) = true) (left : first.isSubtype second = true)
    (right : second.isSubtype third = true) :
    first.isSubtype third = true := by
  have parts {ty component : Ty} (firm : ty.everywhere (Ty.isFirm applied) = true)
      (member : component ∈ ty.components) :
      component.everywhere (Ty.isFirm applied) = true ∧ sizeOf component < sizeOf ty :=
    ⟨((Ty.everywhere_iff_components ty).mp firm).2 component member,
      Ty.sizeOf_component_lt member⟩
  rcases Ty.union_or_single first with ⟨members, rfl⟩ | firstSingle
  · rw [Ty.union_isSubtype_iff] at left ⊢
    intro member within
    obtain ⟨memberFirm, smaller⟩ := parts firstFirm within
    exact Ty.isSubtype_trans_of_firm member second third memberFirm secondFirm thirdFirm
      (left member within) right
  rcases Ty.union_or_single second with ⟨members, rfl⟩ | secondSingle
  · rw [Ty.union_isSubtype_iff] at right
    have rigid := Ty.isFlexible_of_isFirm (Ty.everywhere_root firstFirm)
    rcases Ty.isSubtype_union_cases rigid firstSingle left with rfl | ⟨member, within, fits⟩
    · exact Ty.never_isSubtype third
    · obtain ⟨memberFirm, smaller⟩ := parts secondFirm within
      exact Ty.isSubtype_trans_of_firm first member third firstFirm memberFirm thirdFirm fits
        (right member within)
  rcases Ty.union_or_single third with ⟨members, rfl⟩ | thirdSingle
  · have rigid := Ty.isFlexible_of_isFirm (Ty.everywhere_root secondFirm)
    rcases Ty.isSubtype_union_cases rigid secondSingle right with rfl | ⟨member, within, fits⟩
    · rw [Ty.eq_never_of_isSubtype (Ty.everywhere_root firstFirm) firstSingle left]
      exact Ty.never_isSubtype _
    · obtain ⟨memberFirm, smaller⟩ := parts thirdFirm within
      exact Ty.isSubtype_union_of_mem within first
        (Ty.isSubtype_trans_of_firm first second member firstFirm secondFirm memberFirm left fits)
  apply Ty.isSubtype_trans_of_single (Ty.everywhere_root firstFirm)
    (Ty.everywhere_root secondFirm) (Ty.everywhere_root thirdFirm) firstSingle secondSingle
    thirdSingle ?_ ?_ left right
  · intro narrow inFirst middle inSecond wide inThird
    obtain ⟨narrowFirm, narrowSmaller⟩ := parts firstFirm inFirst
    obtain ⟨middleFirm, middleSmaller⟩ := parts secondFirm inSecond
    obtain ⟨wideFirm, wideSmaller⟩ := parts thirdFirm inThird
    exact Ty.isSubtype_trans_of_firm narrow middle wide narrowFirm middleFirm wideFirm
  · intro narrow inThird middle inSecond wide inFirst
    obtain ⟨narrowFirm, narrowSmaller⟩ := parts thirdFirm inThird
    obtain ⟨middleFirm, middleSmaller⟩ := parts secondFirm inSecond
    obtain ⟨wideFirm, wideSmaller⟩ := parts firstFirm inFirst
    exact Ty.isSubtype_trans_of_firm narrow middle wide narrowFirm middleFirm wideFirm
termination_by sizeOf first + sizeOf second + sizeOf third

/-- Subtyping is transitive on definite types among which no name stands alone in one place and is
applied to arguments in another. -/
theorem Ty.isSubtype_trans_of_definite {first second third : Ty}
    (definite : ∀ ty ∈ [first, second, third], ty.isDefinite = true)
    (apart : Ty.namesApart [first, second, third] = true)
    (left : first.isSubtype second = true) (right : second.isSubtype third = true) :
    first.isSubtype third = true := by
  have firm : ∀ ty ∈ [first, second, third], ty.everywhere
      (Ty.isFirm fun name => [first, second, third].any (Ty.applies name)) = true := by
    intro ty member
    exact Ty.firm_of_definite member (definite ty member) apart
  exact Ty.isSubtype_trans_of_firm first second third (firm first (by simp))
    (firm second (by simp)) (firm third (by simp)) left right

/-- A function of requests and lists that gives results of truth values fits a function of lists of
integers, which in turn fits a union with a function of lists of truth values. -/
theorem Ty.isSubtype_trans_of_functions :
    (Ty.callable (.ofTypes [.union [.list .int, .named "Request"]]
      (.generic "Result" [.bool, .never]))).isSubtype
      (.union [.none, .callable (.ofTypes [.list .bool]
        (.generic "Result" [.union [.str, .float], .named "object"]))]) = true := by
  have left : (Ty.callable (.ofTypes [.union [.list .int, .named "Request"]]
      (.generic "Result" [.bool, .never]))).isSubtype
      (.callable (.ofTypes [.list .int] (.generic "Result" [.int, .str]))) = true := by
    decide +kernel
  exact Ty.isSubtype_trans_of_definite (by decide) (by decide) left (by decide +kernel)

end Callwise
