import Callwise.Proofs.Ty.CanonicalUnion
import Callwise.Proofs.Ty.Transitivity

/-!
# The simplified union is the least upper bound

What all types of a list fit is fitted by their simplified union, whatever the types are: a union
consists of parts of the types that it joins.

That each type fits the union is not so plain. A type may be left out because some member absorbs
it, and this member may be thrown out later in favour of a wider one, so at the end the type is
covered only by way of members that are gone. Such chains need transitivity, and the second half is
therefore about definite types. It follows that the order in which definite types are joined makes
no difference beyond the spelling of the union.
-/

namespace Callwise.Ty

/-- The simplified union of types fits every bound of the types. -/
theorem unionOf_isSubtype {types : List Ty} {bound : Ty}
    (bounded : ∀ ty ∈ types, ty.isSubtype bound = true) :
    (unionOf types).isSubtype bound = true :=
  holds_unionOf (any_isSubtype bound) (never_isSubtype bound)
    (fun members => union_isSubtype_iff members bound) bounded

/-- A type fits what absorbs it. -/
theorem isSubtype_of_absorbs {wide narrow : Ty} (absorbed : absorbs wide narrow = true) :
    narrow.isSubtype wide = true := by
  rw [absorbs, Bool.or_eq_true, beq_iff_eq, Bool.and_eq_true] at absorbed
  rcases absorbed with rfl | ⟨_, fits⟩
  · exact isSubtype_refl wide
  · exact fits

/-- What fits one of the members that a union is made of fits the union. -/
theorem isSubtype_ofMembers {members : List Ty} {member sub : Ty} (within : member ∈ members)
    (fits : sub.isSubtype member = true) : sub.isSubtype (ofMembers members) = true := by
  match members with
  | [] => cases within
  | [single] =>
    rw [List.mem_singleton.mp within] at fits
    exact fits
  | first :: second :: rest => exact isSubtype_union_of_mem within sub fits

section

variable {applied : String → Bool}

/-- Adding a member keeps the types covered that were covered before, and covers the one added. A
type whose member is thrown out fits the new member through the old one. -/
theorem exists_covering_addMember {members : List Ty} {ty part : Ty}
    (membersFirm : ∀ member ∈ members, member.everywhere (isFirm applied) = true)
    (tyFirm : ty.everywhere (isFirm applied) = true)
    (partFirm : part.everywhere (isFirm applied) = true)
    (covered : part = ty ∨ ∃ member ∈ members, part.isSubtype member = true) :
    ∃ member ∈ addMember members ty, part.isSubtype member = true := by
  unfold addMember
  split
  · rename_i absorbed
    rcases covered with rfl | before
    · obtain ⟨member, within, absorbs⟩ := List.any_eq_true.mp absorbed
      exact ⟨member, within, isSubtype_of_absorbs absorbs⟩
    · exact before
  · have added : ty ∈ (members.filter fun member => !absorbs ty member) ++ [ty] := by simp
    rcases covered with rfl | ⟨member, within, fits⟩
    · exact ⟨part, added, isSubtype_refl part⟩
    · by_cases replaced : absorbs ty member = true
      · have chained : part.isSubtype ty = true :=
          isSubtype_trans_of_firm part member ty partFirm (membersFirm member within) tyFirm fits
            (isSubtype_of_absorbs replaced)
        exact ⟨ty, added, chained⟩
      · have kept : member ∈ members.filter fun member => !absorbs ty member :=
          List.mem_filter.mpr ⟨within, by simpa using replaced⟩
        exact ⟨member, List.mem_append_left _ kept, fits⟩

/-- Adding types one after another covers all of them, and keeps covered what was. -/
theorem exists_covering_foldl {types seen : List Ty} {part : Ty}
    (seenFirm : ∀ member ∈ seen, member.everywhere (isFirm applied) = true)
    (typesFirm : ∀ ty ∈ types, ty.everywhere (isFirm applied) = true)
    (partFirm : part.everywhere (isFirm applied) = true)
    (covered : part ∈ types ∨ ∃ member ∈ seen, part.isSubtype member = true) :
    ∃ member ∈ types.foldl addMember seen, part.isSubtype member = true := by
  induction types generalizing seen with
  | nil =>
    rcases covered with impossible | before
    · cases impossible
    · exact before
  | cons first rest ih =>
    rw [List.forall_mem_cons] at typesFirm
    have nextFirm : ∀ member ∈ addMember seen first,
        member.everywhere (isFirm applied) = true := by
      intro member within
      rcases mem_addMember within with before | rfl
      · exact seenFirm member before
      · exact typesFirm.1
    apply ih nextFirm typesFirm.2
    have step := exists_covering_addMember seenFirm typesFirm.1 partFirm
    rcases covered with given | before
    · rcases List.mem_cons.mp given with rfl | later
      · exact .inr (step (.inl rfl))
      · exact .inl later
    · exact .inr (step (.inr before))

/-- What firm types contribute to their union fits it. -/
theorem isSubtype_unionOf_of_mem_flatten {types : List Ty}
    (firm : ∀ ty ∈ types, ty.everywhere (isFirm applied) = true) {part : Ty}
    (within : part ∈ flatten types) : part.isSubtype (unionOf types) = true := by
  have opened : ∀ members, (Ty.union members).everywhere (isFirm applied) = true →
      ∀ member ∈ members, member.everywhere (isFirm applied) = true :=
    fun members whole => ((everywhere_iff_components _).mp whole).2
  have flatFirm : ∀ part ∈ flatten types, part.everywhere (isFirm applied) = true :=
    fun part within => holds_of_mem_flatten opened firm within
  unfold unionOf
  simp only
  split
  · exact isSubtype_any part
  · have nothingSeen : ∀ member ∈ ([] : List Ty),
        member.everywhere (isFirm applied) = true := by simp
    obtain ⟨member, kept, fits⟩ :=
      exists_covering_foldl nothingSeen flatFirm (flatFirm part within) (.inl within)
    exact isSubtype_ofMembers kept fits

/-- Each of some firm types fits their union. -/
theorem isSubtype_unionOf_of_firm {types : List Ty}
    (firm : ∀ ty ∈ types, ty.everywhere (isFirm applied) = true) {ty : Ty}
    (given : ty ∈ types) : ty.isSubtype (unionOf types) = true := by
  have contributes : ∀ part, part ∈ flatten [ty] → part.isSubtype (unionOf types) = true := by
    intro part contributed
    apply isSubtype_unionOf_of_mem_flatten firm
    exact List.mem_flatMap.mpr ⟨ty, given, by simpa [flatten] using contributed⟩
  cases ty
  case union members =>
    apply union_isSubtype_of_forall
    intro member within
    exact contributes member (by simpa [flatten] using within)
  case never => exact never_isSubtype _
  all_goals exact contributes _ (by simp [flatten])

end

/-- The simplified union is the least upper bound of its types. That it is below every upper bound
holds of all types. That it is an upper bound, and that the order of the types makes no difference
up to subtyping both ways, holds of definite types among which no name stands alone in one place and
is applied to arguments in another. -/
theorem unionOf_isLeastUpperBound (types : List Ty) :
    (∀ bound : Ty, (∀ ty ∈ types, ty.isSubtype bound = true) →
        (unionOf types).isSubtype bound = true) ∧
      ((∀ ty ∈ types, ty.isDefinite = true) → namesApart types = true →
        (∀ ty ∈ types, ty.isSubtype (unionOf types) = true) ∧
          ∀ reordered : List Ty, types.Perm reordered →
            (unionOf types).isSubtype (unionOf reordered) = true ∧
              (unionOf reordered).isSubtype (unionOf types) = true) := by
  refine ⟨fun bound bounded => unionOf_isSubtype bounded, fun definite apart => ?_⟩
  have firm : ∀ ty ∈ types,
      ty.everywhere (isFirm fun name => types.any (applies name)) = true :=
    fun ty given => firm_of_definite given (definite ty given) apart
  refine ⟨fun ty given => isSubtype_unionOf_of_firm firm given, fun reordered same => ⟨?_, ?_⟩⟩
  · have reorderedFirm : ∀ ty ∈ reordered,
        ty.everywhere (isFirm fun name => types.any (applies name)) = true :=
      fun ty given => firm ty (same.mem_iff.mpr given)
    apply unionOf_isSubtype
    intro ty given
    exact isSubtype_unionOf_of_firm reorderedFirm (same.mem_iff.mp given)
  · apply unionOf_isSubtype
    intro ty given
    exact isSubtype_unionOf_of_firm firm (same.mem_iff.mpr given)

/-- Truth values and lists of them are thrown out once integers and lists of integers come in, and
are left out if these are there before. Either way they fit the union, and the two unions differ in
the order of their members only. -/
theorem unionOf_isLeastUpperBound_of_lists :
    unionOf [.bool, .union [.none, .list .bool], .int, .list .int] =
        .union [.none, .int, .list .int] ∧
      unionOf [.list .int, .int, .union [.none, .list .bool], .bool] =
        .union [.list .int, .int, .none] ∧
      (Ty.union [.none, .list .bool]).isSubtype
        (unionOf [.bool, .union [.none, .list .bool], .int, .list .int]) = true ∧
      (unionOf [.bool, .union [.none, .list .bool], .int, .list .int]).isSubtype
        (unionOf [.list .int, .int, .union [.none, .list .bool], .bool]) = true := by
  have joined := (unionOf_isLeastUpperBound
    [.bool, .union [.none, .list .bool], .int, .list .int]).2 (by decide) (by decide)
  refine ⟨by decide +kernel, by decide +kernel, joined.1 _ (by simp), ?_⟩
  exact (joined.2 [.list .int, .int, .union [.none, .list .bool], .bool] (by decide)).1

end Callwise.Ty
