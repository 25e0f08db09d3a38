import Callwise.Proofs.Substitution.Moves

/-!
# Matching an optional pattern

The pattern `Optional[V]` is the union of `V` and `None`. A match sets aside what `None` covers of
the matched type and binds `V` to the rest. What is covered is decided by the subtype test, which
takes type variables and placeholders for subtypes of everything. So they are set aside with
`None`: `V` is bound to the matched type without its `None` exactly if none of its alternatives is a
bare variable or a placeholder. If nothing is left, `V` is bound to `Any`.
-/

namespace Callwise

namespace Ty

/-- A canonical type with values of a known form is made up of members of which none absorbs
another. -/
theorem alternatives_simplified {ty : Ty} (canonical : ty.isCanonical = true) (known : ty ≠ .any)
    (inhabited : ty ≠ .never) :
    (∀ alternative ∈ ty.alternatives, alternative.canBeMember = true) ∧
      Independent ty.alternatives := by
  cases ty
  case any => exact absurd rfl known
  case never => exact absurd rfl inhabited
  case union members =>
    have simplified : (Ty.union members).isSimplified = true := everywhere_root canonical
    simp only [isSimplified, Bool.and_eq_true, List.all_eq_true, decide_eq_true_eq] at simplified
    exact ⟨simplified.1.2, simplified.2⟩
  all_goals exact ⟨by simp [alternatives, canBeMember], List.pairwise_singleton _ _⟩

/-- The union of members that can stand beside each other has them as its alternatives. -/
theorem alternatives_unionOf {members : List Ty}
    (canBeMembers : ∀ member ∈ members, member.canBeMember = true)
    (independent : Independent members) (nonempty : members ≠ []) :
    (unionOf members).alternatives = members := by
  rw [unionOf_eq_ofMembers canBeMembers independent]
  cases members with
  | nil => exact absurd rfl nonempty
  | cons first rest =>
    cases rest with
    | nil =>
      have single := canBeMembers first List.mem_cons_self
      cases first <;> first | rfl | cases single
    | cons second rest => rfl

/-- Of members that can stand beside each other, some make up the same type as all exactly if they
are all. The type of none of them is taken to be `Any`, which they cannot make up. -/
theorem unionOf_sublist_eq_iff {chosen members : List Ty} (sublist : chosen.Sublist members)
    (canBeMembers : ∀ member ∈ members, member.canBeMember = true)
    (independent : Independent members) (nonempty : members ≠ []) :
    (if chosen = [] then .any else unionOf chosen) = unionOf members ↔ chosen = members := by
  have whole := alternatives_unionOf canBeMembers independent nonempty
  constructor
  · intro same
    rw [← same] at whole
    split at whole
    · have member : Ty.any ∈ members := whole ▸ List.mem_cons_self
      exact absurd (canBeMembers .any member) (by decide)
    · rename_i something
      rwa [alternatives_unionOf (fun member inside => canBeMembers member (sublist.subset inside))
        (independent.sublist sublist) something] at whole
  · rintro rfl
    rw [if_neg nonempty]

/-- A type that can be a member is the union of itself alone. -/
theorem unionOf_singleton {ty : Ty} (canBe : ty.canBeMember = true) : unionOf [ty] = ty :=
  unionOf_eq_ofMembers (by simpa using canBe) (List.pairwise_singleton _ _)

/-- A type without its `None` is the union of its other alternatives. -/
theorem removeNone_eq_unionOf (ty : Ty) :
    ty.removeNone = unionOf (ty.alternatives.filter (· != .none)) := by
  cases ty
  case union members => rfl
  case any | never | none => decide
  all_goals exact (unionOf_singleton rfl).symm

/-- Of the types that can be members of a union, `None` covers itself and the flexible ones. -/
theorem isSubtype_none_iff {ty : Ty} (canBe : ty.canBeMember = true) :
    ty.isSubtype .none = true ↔ ty.isFlexible = true ∨ ty = .none := by
  unfold isSubtype
  cases ty <;> simp_all [isFlexible, isWidened, canBeMember]

/-- A canonical type other than `None` has an alternative that is not `None`, since no two
alternatives of a union are the same. -/
theorem exists_alternative_ne_none {ty : Ty} (canonical : ty.isCanonical = true)
    (other : ty ≠ .none) : ∃ alternative ∈ ty.alternatives, alternative ≠ .none := by
  cases ty
  case union members =>
    have simplified : (Ty.union members).isSimplified = true := everywhere_root canonical
    simp only [isSimplified, Bool.and_eq_true, decide_eq_true_eq] at simplified
    obtain ⟨⟨atLeastTwo, _⟩, independent⟩ := simplified
    cases members with
    | nil => cases atLeastTwo
    | cons first rest =>
      cases rest with
      | nil => exact absurd atLeastTwo (by simp)
      | cons second rest =>
        have apart := List.rel_of_pairwise_cons independent List.mem_cons_self
        by_cases firstNone : first = .none
        · refine ⟨second, List.mem_cons_of_mem _ List.mem_cons_self, ?_⟩
          rintro rfl
          rw [firstNone] at apart
          exact absurd apart.1 (by decide)
        · exact ⟨first, List.mem_cons_self, firstNone⟩
  all_goals exact ⟨_, List.mem_cons_self, other⟩

end Ty

namespace Substitution

/-- What an optional pattern with an unsolved variable learns: the variable stands for what `None`
does not cover, or for anything if nothing is left. -/
theorem bind_optional {subst : Substitution} {name : String} (unbound : subst.find? name = none)
    {actual : Ty} (known : actual.isGradual = false) (inhabited : actual ≠ .never) :
    subst.bind (.union [.typeVar name, .none]) actual =
      (true, subst.insert name
        (if Ty.uncovered [.none] actual = [] then .any
          else Ty.unionOf (Ty.uncovered [.none] actual))) := by
  have filled : subst.fillAny (Ty.typeVar name).freeTypeVars = subst.insert name .any := by
    have listed : (Ty.typeVar name).freeTypeVars = [name] := rfl
    simp [listed, fillAny, NameMap.insertIfNew, NameMap.contains, unbound]
  have opened : ([.typeVar name, .none] : List Ty).filter Ty.hasTypeVars = [.typeVar name] := rfl
  have concrete : ([.typeVar name, .none] : List Ty).filter (fun member => !member.hasTypeVars) =
    [.none] := rfl
  rw [bind.eq_def]
  split
  case h_6 same _ _ _ =>
    cases same
    simp only [opened, concrete]
    split
    · rename_i nothing
      rw [filled, nothing, if_pos rfl]
    · rename_i something
      rw [if_neg something, ← bind_unbound subst unbound]
      rfl
  case h_3 | h_4 => cases known
  case h_5 => exact absurd rfl inhabited
  case h_13 =>
    have single : ∀ members, Ty.union [.typeVar name, .none] = .union members → False := ‹_›
    exact (single _ rfl).elim
  all_goals contradiction

/-- What `None` does not cover of a type made up of members: those that are neither `None` nor
flexible. -/
theorem uncovered_none {ty : Ty}
    (canBeMembers : ∀ alternative ∈ ty.alternatives, alternative.canBeMember = true) :
    Ty.uncovered [.none] ty =
      (ty.alternatives.filter (· != .none)).filter fun alternative => !alternative.isFlexible := by
  rw [Ty.uncovered, List.filter_filter]
  apply List.filter_congr
  intro alternative within
  have covered := Ty.isSubtype_none_iff (canBeMembers alternative within)
  rw [Bool.eq_iff_iff]
  simp [← Bool.not_eq_true, covered]

/-- An optional pattern with an unsolved variable matches every canonical type that is not `Any`,
a placeholder, `Never` or `None`. The variable is bound to exactly that type without its `None` if
and only if no alternative of the type is a variable or a placeholder. -/
theorem bind_optional_iff {subst : Substitution} {name : String}
    (unbound : subst.find? name = none) {actual : Ty} (canonical : actual.isCanonical = true)
    (known : actual.isGradual = false) (inhabited : actual ≠ .never) (present : actual ≠ .none) :
    (subst.bind (.union [.typeVar name, .none]) actual).1 = true ∧
      (NameMap.find? (subst.bind (.union [.typeVar name, .none]) actual).2 name =
          some actual.removeNone ↔
        ∀ alternative ∈ actual.alternatives, alternative.isFlexible = false) := by
  have notAny : actual ≠ .any := by
    rintro rfl
    cases known
  obtain ⟨canBeMembers, independent⟩ :=
    Ty.alternatives_simplified canonical notAny inhabited
  have others : actual.alternatives.filter (· != .none) ≠ [] := by
    obtain ⟨other, within, different⟩ := Ty.exists_alternative_ne_none canonical present
    exact List.ne_nil_of_mem (List.mem_filter.mpr ⟨within, by simpa using different⟩)
  rw [bind_optional unbound known inhabited]
  refine ⟨rfl, ?_⟩
  rw [NameMap.find?_insert, beq_self_eq_true, if_pos rfl, Option.some.injEq,
    Ty.removeNone_eq_unionOf, uncovered_none canBeMembers]
  rw [Ty.unionOf_sublist_eq_iff List.filter_sublist
    (fun member inside => canBeMembers member (List.mem_filter.mp inside).1)
    (independent.sublist List.filter_sublist) others, List.filter_eq_self]
  constructor
  · intro rigid alternative within
    by_cases isNone : alternative = .none
    · rw [isNone]
      rfl
    · have kept : alternative ∈ actual.alternatives.filter (· != .none) :=
        List.mem_filter.mpr ⟨within, by simpa using isNone⟩
      simpa using rigid alternative kept
  · intro rigid alternative inside
    rw [rigid alternative (List.mem_filter.mp inside).1]
    rfl

/-- An optional list of `T` or a text, where `T` is a variable of the caller: the variable stands
for the list or the text. -/
theorem bind_optional_of_list_or_text :
    (Ty.union [.list (.typeVar "T"), .none, .str]).isCanonical = true ∧
      NameMap.find? (bind ⟨[("T", .int)]⟩ (.union [.typeVar "V", .none])
        (.union [.list (.typeVar "T"), .none, .str])).2 "V" =
      some (.union [.list (.typeVar "T"), .str]) := by
  have canonical : (Ty.union [.list (.typeVar "T"), .none, .str]).isCanonical = true := by
    decide +kernel
  have unbound : (⟨[("T", .int)]⟩ : Substitution).find? "V" = none := rfl
  have bound := (bind_optional_iff unbound canonical rfl (by decide) (by decide)).2.mpr (by decide)
  exact ⟨canonical, bound.trans (by decide +kernel)⟩

/-- An optional `T`, where `T` is a variable of the caller: the variable stands for anything instead
of `T`. If something else is left, `T` is dropped. -/
theorem bind_optional_drops_variable :
    (NameMap.find? (empty.bind (.union [.typeVar "V", .none])
        (.union [.typeVar "T", .none])).2 "V" = some .any ∧
      (Ty.union [.typeVar "T", .none]).removeNone = .typeVar "T") ∧
    (NameMap.find? (empty.bind (.union [.typeVar "V", .none])
        (.union [.typeVar "T", .int])).2 "V" = some .int ∧
      (Ty.union [.typeVar "T", .int]).removeNone = .union [.typeVar "T", .int]) := by
  decide +kernel

end Substitution

end Callwise
