import Callwise.Ty.Basic

/-!
# Subtyping

`Any`, placeholders and type variables fit everywhere. Otherwise a scalar fits itself and
the wider scalars, a union fits what all its members fit, containers and named types are
covariant in their arguments, and a signature fits another when every positional call that
the other allows is a call of the first with parameters at least as wide.

The comparison turns around at parameters, so neither type alone gets smaller; their sizes
together do, and that is the measure of the recursion.
-/

namespace Callwise

/-- The type of the parameter that receives the positional argument at this index: the
positional parameter there, or the star parameter behind the last one. -/
def Signature.slot? (signature : Signature) (index : Nat) : Option Ty :=
  (signature.positionals[index]?.or signature.star?).map Param.ty

/-- Some required positional parameter stands at this index or later. -/
def Signature.requiresFrom (signature : Signature) (index : Nat) : Bool :=
  (signature.positionals.drop index).any fun param => param.kind == .positional

/-- A parameter's type is smaller than the signature it stands in. -/
theorem Signature.sizeOf_ty_lt {signature : Signature} {param : Param}
    (member : param ∈ signature.params) : sizeOf param.ty < sizeOf signature := by
  have inList : sizeOf param < sizeOf signature.params := List.sizeOf_lt_of_mem member
  have inParam : sizeOf param.ty < sizeOf param := by
    cases param
    simp only [Param.mk.sizeOf_spec]
    omega
  have inSignature : sizeOf signature.params < sizeOf signature := by
    cases signature
    simp only [Signature.mk.sizeOf_spec]
    omega
  omega

/-- The result type is smaller than the signature. -/
theorem Signature.sizeOf_ret_lt (signature : Signature) :
    sizeOf signature.ret < sizeOf signature := by
  cases signature
  simp only [Signature.mk.sizeOf_spec]
  omega

/-- What receives a positional argument is smaller than the signature. -/
theorem Signature.sizeOf_slot_lt {signature : Signature} {index : Nat} {ty : Ty}
    (found : signature.slot? index = some ty) : sizeOf ty < sizeOf signature := by
  simp only [Signature.slot?, Option.map_eq_some_iff] at found
  obtain ⟨param, chosen, rfl⟩ := found
  apply Signature.sizeOf_ty_lt
  rcases Option.or_eq_some_iff.mp chosen with atIndex | ⟨_, starred⟩
  · exact (List.mem_filter.mp (List.mem_of_getElem? atIndex)).1
  · exact List.mem_of_find?_eq_some starred

/-- A positional parameter, listed with its index, is smaller than the signature. -/
theorem Signature.sizeOf_positional_lt {signature : Signature} {param : Param} {index : Nat}
    (member : (param, index) ∈ signature.positionals.zipIdx) :
    sizeOf param.ty < sizeOf signature := by
  have positional : param ∈ signature.positionals := List.fst_mem_of_mem_zipIdx member
  exact Signature.sizeOf_ty_lt (List.mem_filter.mp positional).1

namespace Ty

/-- Fits every type, and every type fits it. -/
def isFlexible : Ty → Bool
  | .any | .placeholder _ | .typeVar _ => true
  | _ => false

/-- A truth value is an integer, and an integer is a floating-point number. -/
def isWidened : Ty → Ty → Bool
  | .bool, .int | .bool, .float | .int, .float => true
  | _, _ => false

end Ty

mutual

/-- A value of the first type may stand where the second is expected. -/
def Ty.isSubtype (sub sup : Ty) : Bool :=
  sub.isFlexible || sup.isFlexible || sub == .never || sub == sup || Ty.isWidened sub sup
    || sup == .named "object" ||
  match sub, sup with
  | .union members, wider => members.attach.all fun ⟨member, _within⟩ => member.isSubtype wider
  | narrower, .union members =>
    members.attach.any fun ⟨member, _within⟩ => narrower.isSubtype member
  | .list item, .list wider => item.isSubtype wider
  | .dict key value, .dict widerKey widerValue =>
    key.isSubtype widerKey && value.isSubtype widerValue
  | .tuple items, .tuple wider => Ty.allSubtypes items wider
  | .generic name args, .generic other wider => name == other && Ty.allSubtypes args wider
  | .generic name _, .named other | .named name, .generic other _ => name == other
  | .callable signature, .callable wider => signature.isSubtype wider
  | .overloaded signatures, .callable wider =>
    signatures.attach.any fun ⟨signature, _within⟩ => signature.isSubtype wider
  | .callable signature, .overloaded signatures =>
    signatures.attach.all fun ⟨wider, _within⟩ => signature.isSubtype wider
  | _, _ => false
termination_by sizeOf sub + sizeOf sup
decreasing_by
  all_goals simp_wf
  all_goals first
    | omega
    | (have smaller := List.sizeOf_lt_of_mem _within; omega)

/-- Both lists have the same length, and the first fits the second type by type. -/
def Ty.allSubtypes : List Ty → List Ty → Bool
  | [], [] => true
  | sub :: subs, sup :: sups => sub.isSubtype sup && Ty.allSubtypes subs sups
  | _, _ => false
termination_by subs sups => sizeOf subs + sizeOf sups

/-- The first signature may be called wherever the second may. -/
def Signature.isSubtype (sub sup : Signature) : Bool :=
  sub.ret.isSubtype sup.ret &&
    (sub.isEllipsis || sup.isEllipsis ||
      ((!sub.requiresFrom sup.positionals.length || sup.star?.isSome) &&
        sup.positionals.zipIdx.attach.all fun ⟨(param, index), _member⟩ =>
          match _found : sub.slot? index with
          | some received => param.ty.isSubtype received
          | none => false))
termination_by sizeOf sub + sizeOf sup
decreasing_by
  · have left := sub.sizeOf_ret_lt
    have right := sup.sizeOf_ret_lt
    omega
  · have left := Signature.sizeOf_slot_lt _found
    have right := Signature.sizeOf_positional_lt _member
    omega

end

end Callwise
