import Callwise.Proofs.Ty.CanonicalUnion
import Callwise.Proofs.Ty.Variables

/-!
# Types that a substitution leaves alone

Applying a substitution replaces variables, simplifies unions and rewrites containers that are
passed as types. A canonical type without such containers, none of whose variables has a value, is
therefore its own result. Two cases are used throughout: the substitution without bindings, and
any substitution on a ground type, which has no variables at all.
-/

namespace Callwise

/-- A type with nothing to solve and nothing to simplify: it has no variables and no containers
passed as types, and its unions are canonical. -/
structure Ty.IsGround (ty : Ty) : Prop where
  closed : ty.hasTypeVars = false
  kindFree : ty.isKindFree = true
  canonical : ty.isCanonical = true

instance (ty : Ty) : Decidable ty.IsGround :=
  decidable_of_iff (ty.hasTypeVars = false ∧ ty.isKindFree = true ∧ ty.isCanonical = true)
    ⟨fun ⟨closed, kindFree, canonical⟩ => ⟨closed, kindFree, canonical⟩,
      fun ⟨closed, kindFree, canonical⟩ => ⟨closed, kindFree, canonical⟩⟩

namespace Substitution

/-- The substitution gives no value to any of the names. -/
def Ignores (subst : Substitution) (names : List String) : Prop :=
  ∀ name ∈ names, subst.find? name = none

/-- The substitution without bindings gives no value to any name. -/
theorem empty_ignores (names : List String) : empty.Ignores names := by
  intro name member
  rfl

/-- Ignoring the names of two lists is ignoring the names of both. -/
theorem ignores_append {subst : Substitution} {left right : List String} :
    subst.Ignores (left ++ right) ↔ subst.Ignores left ∧ subst.Ignores right := by
  simp only [Ignores, List.mem_append]
  constructor
  · intro ignored
    exact ⟨fun name member => ignored name (.inl member),
      fun name member => ignored name (.inr member)⟩
  · rintro ⟨leftIgnored, rightIgnored⟩ name (member | member)
    · exact leftIgnored name member
    · exact rightIgnored name member

mutual

/-- A canonical type without containers passed as types stays as it is when none of its variables
has a value. The union case is the only one in which applying does more than rebuild: there the
members stay, and the simplified union of simplified members is the union itself. -/
theorem apply_eq_self (subst : Substitution) :
    (ty : Ty) → ty.isCanonical = true → ty.isKindFree = true →
      subst.Ignores ty.typeVarOccurrences → subst.apply ty = ty
  | .any, _, _, _ | .never, _, _, _ | .none, _, _, _ | .bool, _, _, _ | .int, _, _, _
  | .float, _, _, _ | .str, _, _, _ | .bytes, _, _, _ | .named _, _, _, _
  | .placeholder _, _, _, _ => by simp [apply]
  | .typeVar name, _, _, ignored => by
    have unbound : subst.find? name = none := ignored name (by simp [Ty.typeVarOccurrences])
    simp [apply, unbound]
  | .list item, canonical, kindFree, ignored => by
    simp only [Ty.isCanonical, Ty.isKindFree, Ty.everywhere, Bool.and_eq_true] at canonical kindFree
    simp only [apply, apply_eq_self subst item canonical.2 kindFree.2 ignored]
  | .tuple items, canonical, kindFree, ignored => by
    simp only [Ty.isCanonical, Ty.isKindFree, Ty.everywhere, Bool.and_eq_true] at canonical kindFree
    simp only [apply, applyList_eq_self subst items canonical.2 kindFree.2 ignored]
  | .dict key value, canonical, kindFree, ignored => by
    simp only [Ty.isCanonical, Ty.isKindFree, Ty.everywhere, Bool.and_eq_true] at canonical kindFree
    simp only [Ty.typeVarOccurrences, ignores_append] at ignored
    simp only [apply, apply_eq_self subst key canonical.2.1 kindFree.2.1 ignored.1,
      apply_eq_self subst value canonical.2.2 kindFree.2.2 ignored.2]
  | .union members, canonical, kindFree, ignored => by
    simp only [Ty.isCanonical, Ty.isKindFree, Ty.everywhere, Bool.and_eq_true] at canonical kindFree
    simp only [apply, applyList_eq_self subst members canonical.2 kindFree.2 ignored]
    exact Ty.unionOf_of_isSimplified canonical.1
  | .generic name args, canonical, kindFree, ignored => by
    simp only [Ty.isCanonical, Ty.isKindFree, Ty.everywhere, Bool.and_eq_true] at canonical kindFree
    have ordinary : (name == kindName) = false := by simpa [Ty.isKind] using kindFree.1
    simp [apply, ordinary, applyList_eq_self subst args canonical.2 kindFree.2 ignored]
  | .callable signature, canonical, kindFree, ignored => by
    simp only [Ty.isCanonical, Ty.isKindFree, Ty.everywhere, Bool.and_eq_true] at canonical kindFree
    simp only [apply, applySignature_eq_self subst signature canonical.2 kindFree.2 ignored]
  | .overloaded signatures, canonical, kindFree, ignored => by
    simp only [Ty.isCanonical, Ty.isKindFree, Ty.everywhere, Bool.and_eq_true] at canonical kindFree
    simp only [apply, applySignatures_eq_self subst signatures canonical.2 kindFree.2 ignored]

/-- The same of several types. -/
theorem applyList_eq_self (subst : Substitution) :
    (types : List Ty) → Ty.everywhereIn Ty.isSimplified types = true →
      Ty.everywhereIn (fun part => !part.isKind) types = true →
      subst.Ignores (Ty.typeVarOccurrencesIn types) → subst.applyList types = types
  | [], _, _, _ => rfl
  | first :: rest, canonical, kindFree, ignored => by
    simp only [Ty.everywhereIn, Bool.and_eq_true] at canonical kindFree
    simp only [Ty.typeVarOccurrencesIn, ignores_append] at ignored
    simp only [applyList, apply_eq_self subst first canonical.1 kindFree.1 ignored.1,
      applyList_eq_self subst rest canonical.2 kindFree.2 ignored.2]

/-- The same of a signature. -/
theorem applySignature_eq_self (subst : Substitution) :
    (signature : Signature) → signature.everywhere Ty.isSimplified = true →
      signature.everywhere (fun part => !part.isKind) = true →
      subst.Ignores signature.typeVarOccurrences → subst.applySignature signature = signature
  | ⟨params, ret⟩, canonical, kindFree, ignored => by
    simp only [Signature.everywhere, Bool.and_eq_true] at canonical kindFree
    simp only [Signature.typeVarOccurrences, ignores_append] at ignored
    simp only [applySignature, applyParams_eq_self subst params canonical.1 kindFree.1 ignored.1,
      apply_eq_self subst ret canonical.2 kindFree.2 ignored.2]

/-- The same of several signatures. -/
theorem applySignatures_eq_self (subst : Substitution) :
    (signatures : List Signature) → Signature.everywhereIn Ty.isSimplified signatures = true →
      Signature.everywhereIn (fun part => !part.isKind) signatures = true →
      subst.Ignores (Signature.typeVarOccurrencesIn signatures) →
      subst.applySignatures signatures = signatures
  | [], _, _, _ => rfl
  | first :: rest, canonical, kindFree, ignored => by
    simp only [Signature.everywhereIn, Bool.and_eq_true] at canonical kindFree
    simp only [Signature.typeVarOccurrencesIn, ignores_append] at ignored
    simp only [applySignatures,
      applySignature_eq_self subst first canonical.1 kindFree.1 ignored.1,
      applySignatures_eq_self subst rest canonical.2 kindFree.2 ignored.2]

/-- The same of a parameter. -/
theorem applyParam_eq_self (subst : Substitution) :
    (param : Param) → param.everywhere Ty.isSimplified = true →
      param.everywhere (fun part => !part.isKind) = true →
      subst.Ignores param.typeVarOccurrences → subst.applyParam param = param
  | ⟨name, kind, ty⟩, canonical, kindFree, ignored => by
    simp only [Param.everywhere] at canonical kindFree
    simp only [applyParam, apply_eq_self subst ty canonical kindFree ignored]

/-- The same of several parameters. -/
theorem applyParams_eq_self (subst : Substitution) :
    (params : List Param) → Param.everywhereIn Ty.isSimplified params = true →
      Param.everywhereIn (fun part => !part.isKind) params = true →
      subst.Ignores (Param.typeVarOccurrencesIn params) → subst.applyParams params = params
  | [], _, _, _ => rfl
  | first :: rest, canonical, kindFree, ignored => by
    simp only [Param.everywhereIn, Bool.and_eq_true] at canonical kindFree
    simp only [Param.typeVarOccurrencesIn, ignores_append] at ignored
    simp only [applyParams, applyParam_eq_self subst first canonical.1 kindFree.1 ignored.1,
      applyParams_eq_self subst rest canonical.2 kindFree.2 ignored.2]

end

/-- Without bindings, a canonical type without containers passed as types stays as it is. -/
theorem empty_apply {ty : Ty} (canonical : ty.isCanonical = true)
    (kindFree : ty.isKindFree = true) : empty.apply ty = ty :=
  apply_eq_self empty ty canonical kindFree (empty_ignores _)

/-- A ground type stays as it is under every substitution. -/
theorem apply_ground (subst : Substitution) {ty : Ty} (ground : ty.IsGround) :
    subst.apply ty = ty := by
  apply apply_eq_self subst ty ground.canonical ground.kindFree
  intro name member
  rw [(Ty.typeVarOccurrences_eq_nil_iff ty).mpr ground.closed] at member
  cases member

/-- A ground result is not changed by a call: neither bindings nor the erasure of unbound variables
reach it. -/
theorem instantiate_ground (subst : Substitution) (declared : Signature) {ty : Ty}
    (ground : ty.IsGround) : subst.instantiate declared ty = ty := by
  simp only [instantiate, apply_ground _ ground]

end Substitution

end Callwise
