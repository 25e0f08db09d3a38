import Callwise.Proofs.Ty.Everywhere

/-!
# Simplified unions

`Ty.unionOf` opens unions, drops `Never`, gives way to `Any` and leaves out absorbed members. On
members that need none of this it only puts the union back together: the fold that adds member
after member keeps all members seen so far, because none of them absorbs or is absorbed.

On canonical types, whatever they are, it gives a canonical type. At every step of the fold no
member absorbs another, and what canonical unions contribute needs no further opening. So a union of
canonical types may be built in steps: opening the union of the first types brings the fold back to
where it stood behind them.
-/

namespace Callwise.Ty

variable {types : List Ty} {members : List Ty}

/-- Types that can be members contribute themselves to a union and nothing else. -/
theorem flatten_eq_self (members : ∀ ty ∈ types, ty.canBeMember = true) :
    flatten types = types := by
  induction types with
  | nil => rfl
  | cons first rest ih =>
    have restSame : flatten rest = rest :=
      ih fun ty member => members ty (List.mem_cons_of_mem first member)
    have firstMember : first.canBeMember = true := members first List.mem_cons_self
    simp only [flatten, List.flatMap_cons] at restSame ⊢
    cases first <;> simp_all [canBeMember]

/-- A type that absorbs no member and that no member absorbs is added at the end. -/
theorem addMember_eq_append {ty : Ty}
    (apart : ∀ member ∈ members, absorbs member ty = false ∧ absorbs ty member = false) :
    addMember members ty = members ++ [ty] := by
  have unabsorbed : (members.any fun member => absorbs member ty) = false := by
    rw [List.any_eq_false]
    intro member within
    simp [(apart member within).1]
  have allKept : (members.filter fun member => !absorbs ty member) = members := by
    rw [List.filter_eq_self]
    intro member within
    simp [(apart member within).2]
  simp [addMember, unabsorbed, allKept]

/-- Adding independent types one after another to the members they are independent of keeps all
of them in order. -/
theorem foldl_addMember_eq_append {seen types : List Ty} (apart : Independent (seen ++ types)) :
    types.foldl addMember seen = seen ++ types := by
  induction types generalizing seen with
  | nil => simp
  | cons first rest ih =>
    have firstApart : ∀ member ∈ seen,
        absorbs member first = false ∧ absorbs first member = false := by
      intro member within
      exact (List.pairwise_append.mp apart).2.2 member within first List.mem_cons_self
    have restApart : Independent ((seen ++ [first]) ++ rest) := by
      simpa using apart
    rw [List.foldl_cons, addMember_eq_append firstApart, ih restApart]
    simp

/-- Independent types that can be members are joined as they are. -/
theorem unionOf_eq_ofMembers (canBeMembers : ∀ member ∈ members, member.canBeMember = true)
    (independent : Independent members) : unionOf members = ofMembers members := by
  have flat : flatten members = members := flatten_eq_self canBeMembers
  have noAny : Ty.any ∉ members := by
    intro member
    exact absurd (canBeMembers .any member) (by decide)
  have kept : members.foldl addMember [] = members := foldl_addMember_eq_append independent
  simp [unionOf, flat, noAny, kept]

/-- The union of the members of a simplified union is that union. -/
theorem unionOf_of_isSimplified (simplified : (Ty.union members).isSimplified = true) :
    unionOf members = .union members := by
  simp only [isSimplified, Bool.and_eq_true, decide_eq_true_eq, List.all_eq_true] at simplified
  obtain ⟨⟨atLeastTwo, canBeMembers⟩, independent⟩ := simplified
  rw [unionOf_eq_ofMembers canBeMembers independent]
  match members, atLeastTwo with
  | first :: second :: rest, _ => rfl

/-! ### Joining canonical types -/

/-- Adding a member keeps members independent. -/
theorem independent_addMember (independent : Independent members) (ty : Ty) :
    Independent (addMember members ty) := by
  unfold addMember
  split
  · exact independent
  · rename_i unabsorbed
    simp only [List.any_eq_true, not_exists, not_and, Bool.not_eq_true] at unabsorbed
    rw [Independent, List.pairwise_append]
    refine ⟨List.Pairwise.filter _ independent, List.pairwise_singleton _ _, ?_⟩
    intro member within other single
    rw [List.mem_singleton] at single
    subst single
    obtain ⟨old, unneeded⟩ := List.mem_filter.mp within
    exact ⟨unabsorbed member old, by simpa using unneeded⟩

/-- Members come from those before or are the one added. -/
theorem mem_addMember {ty member : Ty} (within : member ∈ addMember members ty) :
    member ∈ members ∨ member = ty := by
  unfold addMember at within
  split at within
  · exact .inl within
  · rcases List.mem_append.mp within with old | new
    · exact .inl (List.mem_filter.mp old).1
    · exact .inr (List.mem_singleton.mp new)

/-- Adding types one after another to independent members gives independent members among the old
ones and the types. -/
theorem foldl_addMember_spec (types : List Ty) {seen : List Ty} (independent : Independent seen) :
    Independent (types.foldl addMember seen) ∧
      ∀ member ∈ types.foldl addMember seen, member ∈ seen ∨ member ∈ types := by
  induction types generalizing seen with
  | nil => exact ⟨independent, fun member within => .inl within⟩
  | cons first rest ih =>
    obtain ⟨apart, origin⟩ := ih (independent_addMember independent first)
    refine ⟨apart, fun member within => ?_⟩
    rcases origin member within with earlier | later
    · rcases mem_addMember earlier with old | rfl
      · exact .inl old
      · exact .inr List.mem_cons_self
    · exact .inr (List.mem_cons_of_mem first later)

/-- What types with a property contribute to a union has the property if it passes from unions to
their members. -/
theorem holds_of_mem_flatten {holds : Ty → Prop}
    (opened : ∀ members, holds (.union members) → ∀ member ∈ members, holds member)
    (each : ∀ ty ∈ types, holds ty) {part : Ty} (within : part ∈ flatten types) : holds part := by
  obtain ⟨ty, given, contributed⟩ := List.mem_flatMap.mp within
  have whole := each ty given
  cases ty
  case union members => exact opened members whole part contributed
  case never => cases contributed
  all_goals
    rw [List.mem_singleton.mp contributed]
    exact whole

/-- A property that a union has exactly if its members have it passes from types to their simplified
union. -/
theorem holds_unionOf {holds : Ty → Prop} (any : holds .any) (never : holds .never)
    (union : ∀ members, holds (.union members) ↔ ∀ member ∈ members, holds member)
    (each : ∀ ty ∈ types, holds ty) : holds (unionOf types) := by
  have ofMembers_holds : ∀ members, (∀ member ∈ members, holds member) →
      holds (ofMembers members) := by
    intro members all
    match members with
    | [] => exact never
    | [single] => exact all single List.mem_cons_self
    | first :: second :: rest => exact (union _).mpr all
  unfold unionOf
  simp only
  split
  · exact any
  · apply ofMembers_holds
    intro member kept
    rcases (foldl_addMember_spec (flatten types) List.Pairwise.nil).2 member kept with
      impossible | contributed
    · cases impossible
    · exact holds_of_mem_flatten (fun members => (union members).mp) each contributed

/-- What canonical types contribute to a union is canonical, and it can be a member unless it is
`Any`. -/
theorem mem_flatten_of_isCanonical (canonical : ∀ ty ∈ types, ty.isCanonical = true) {member : Ty}
    (within : member ∈ flatten types) :
    member.isCanonical = true ∧ (member = .any ∨ member.canBeMember = true) := by
  obtain ⟨ty, given, contributed⟩ := List.mem_flatMap.mp within
  have whole := canonical ty given
  cases ty
  case union members =>
    have parts := (everywhere_iff_components _).mp whole
    refine ⟨parts.2 member contributed, .inr ?_⟩
    have simplified : (Ty.union members).isSimplified = true := parts.1
    simp only [isSimplified, Bool.and_eq_true, List.all_eq_true] at simplified
    exact simplified.1.2 member contributed
  case never => cases contributed
  case any =>
    rw [List.mem_singleton.mp contributed]
    exact ⟨whole, .inl rfl⟩
  all_goals
    rw [List.mem_singleton.mp contributed]
    exact ⟨whole, .inr rfl⟩

/-- Independent canonical members make a canonical union. -/
theorem isCanonical_ofMembers (independent : Independent members)
    (kept : ∀ member ∈ members, member.isCanonical = true ∧ member.canBeMember = true) :
    (ofMembers members).isCanonical = true := by
  match members with
  | [] => rfl
  | [single] => exact (kept single List.mem_cons_self).1
  | first :: second :: rest =>
    have simplified : (Ty.union (first :: second :: rest)).isSimplified = true := by
      simp only [isSimplified, Bool.and_eq_true, decide_eq_true_eq, List.all_eq_true]
      exact ⟨⟨by simp, fun member within => (kept member within).2⟩, independent⟩
    exact (everywhere_iff_components _).mpr ⟨simplified, fun part within => (kept part within).1⟩

/-- A union with `Any` in it is `Any`. -/
theorem unionOf_of_any (hasAny : Ty.any ∈ flatten types) :
    unionOf types = .any := by
  simp [unionOf, hasAny]

/-- Without `Any`, the members are what adding one after another leaves. -/
theorem unionOf_of_noAny (noAny : Ty.any ∉ flatten types) :
    unionOf types = ofMembers ((flatten types).foldl addMember []) := by
  simp [unionOf, noAny]

/-- What canonical types without `Any` leave of each other is canonical and can be a member. -/
theorem kept_of_isCanonical (canonical : ∀ ty ∈ types, ty.isCanonical = true)
    (noAny : Ty.any ∉ flatten types) :
    ∀ member ∈ (flatten types).foldl addMember [],
      member.isCanonical = true ∧ member.canBeMember = true := by
  intro member within
  rcases (foldl_addMember_spec (flatten types) List.Pairwise.nil).2 member within with
    impossible | contributed
  · cases impossible
  · obtain ⟨whole, rfl | canBe⟩ := mem_flatten_of_isCanonical canonical contributed
    · exact absurd contributed noAny
    · exact ⟨whole, canBe⟩

/-- The simplified union of canonical types is canonical. -/
theorem isCanonical_unionOf (canonical : ∀ ty ∈ types, ty.isCanonical = true) :
    (unionOf types).isCanonical = true := by
  by_cases hasAny : Ty.any ∈ flatten types
  · rw [unionOf_of_any hasAny]
    rfl
  · rw [unionOf_of_noAny hasAny]
    apply isCanonical_ofMembers
    · exact (foldl_addMember_spec (flatten types) List.Pairwise.nil).1
    · exact kept_of_isCanonical canonical hasAny

/-! ### Joining in steps -/

/-- Lists of types contribute one after another. -/
theorem flatten_append (left right : List Ty) :
    flatten (left ++ right) = flatten left ++ flatten right := by
  simp [flatten]

/-- A union of members contributes the members again. -/
theorem flatten_ofMembers_cons (canBeMembers : ∀ member ∈ members, member.canBeMember = true)
    (types : List Ty) :
    flatten (ofMembers members :: types) = members ++ flatten types := by
  match members with
  | [] => rfl
  | [single] =>
    have itself : flatten [single] = [single] := flatten_eq_self canBeMembers
    rw [ofMembers, ← List.singleton_append, flatten_append, itself]
  | first :: second :: rest => rfl

/-- Joining canonical types and then further ones is joining all at once. -/
theorem unionOf_unionOf_append {left : List Ty} (canonical : ∀ ty ∈ left, ty.isCanonical = true)
    (right : List Ty) : unionOf (unionOf left :: right) = unionOf (left ++ right) := by
  by_cases hasAny : Ty.any ∈ flatten left
  · have inAll : Ty.any ∈ flatten (left ++ right) := by
      rw [flatten_append]
      exact List.mem_append_left _ hasAny
    rw [unionOf_of_any hasAny, unionOf_of_any inAll]
    apply unionOf_of_any
    exact List.mem_append_left _ List.mem_cons_self
  · have kept := kept_of_isCanonical canonical hasAny
    have noAny : Ty.any ∉ (flatten left).foldl addMember [] := by
      intro within
      exact absurd (kept _ within).2 (by decide)
    -- the members of the first union are added again, and all of them stay
    have again := flatten_ofMembers_cons (fun member within => (kept member within).2) right
    have apart := (foldl_addMember_spec (flatten left) List.Pairwise.nil).1
    have refolded := @foldl_addMember_eq_append [] _ apart
    simp only [unionOf_of_noAny hasAny]
    simp only [unionOf, again, flatten_append, List.foldl_append, refolded, List.nil_append,
      List.contains_eq_mem, List.mem_append, hasAny, noAny, false_or]

/-- The union of one canonical type is that type. -/
theorem unionOf_singleton_of_isCanonical {ty : Ty} (canonical : ty.isCanonical = true) :
    unionOf [ty] = ty := by
  cases ty
  case union members =>
    obtain ⟨simplified, parts⟩ := (everywhere_iff_components _).mp canonical
    have itself := unionOf_of_isSimplified simplified
    calc unionOf [.union members] = unionOf [unionOf members] := by rw [itself]
      _ = unionOf (members ++ []) := unionOf_unionOf_append parts []
      _ = .union members := by rw [List.append_nil, itself]
  all_goals rfl

/-- Joining canonical types one after another to the union of those before is joining them all. -/
theorem foldl_unionOf {seen rest : List Ty}
    (canonical : ∀ ty ∈ seen ++ rest, ty.isCanonical = true) :
    rest.foldl (fun joined ty => unionOf [joined, ty]) (unionOf seen) = unionOf (seen ++ rest) := by
  induction rest generalizing seen with
  | nil => simp
  | cons first rest ih =>
    have seenCanonical : ∀ ty ∈ seen, ty.isCanonical = true :=
      fun ty within => canonical ty (List.mem_append_left _ within)
    have regrouped : seen ++ first :: rest = seen ++ [first] ++ rest := by simp
    rw [regrouped] at canonical ⊢
    rw [List.foldl_cons, unionOf_unionOf_append seenCanonical, ih canonical]

end Callwise.Ty
