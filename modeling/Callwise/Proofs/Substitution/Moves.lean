import Callwise.Proofs.Substitution.ClosedPattern
import Callwise.Proofs.Ty.Hereditary

/-!
# What a match can do to a substitution

A match stores types under variables of its pattern, one after another. Each is `Any` or comes from
the matched type, and it is stored where nothing or something narrower was. Whether the match
succeeds makes no difference. So a relation that holds between any substitution and itself, can be
chained, and holds across one such store, holds between the substitutions before and after every
match. In particular a match touches only the variables of its pattern, and takes no value away.
-/

namespace Callwise

/-- The variables of each of several types are among those of all. -/
theorem Ty.typeVarOccurrences_subset {types : List Ty} {ty : Ty} (within : ty ∈ types) :
    ty.typeVarOccurrences ⊆ Ty.typeVarOccurrencesIn types := by
  intro name occurs
  exact (Ty.mem_typeVarOccurrencesIn types name).mpr ⟨ty, within, occurs⟩

/-- What no type covers of a type with a hereditary property has the property. -/
theorem Ty.Hereditary.uncovered {kept : Ty → Prop} (hereditary : Hereditary kept)
    {covering : List Ty} {actual part : Ty} (holds : kept actual)
    (within : part ∈ Ty.uncovered covering actual) : kept part := by
  have alternative : part ∈ actual.alternatives := (List.mem_filter.mp within).1
  cases actual
  case union members => exact hereditary.member holds alternative
  all_goals
    obtain rfl := List.mem_singleton.mp alternative
    exact holds

namespace Substitution

/-- A relation that every store of a type with the property under one of the names respects. -/
structure Moves (kept : Ty → Prop) (names : List String)
    (moves : Substitution → Substitution → Prop) : Prop where
  refl : ∀ subst, moves subst subst
  trans : ∀ {first second third}, moves first second → moves second third → moves first third
  store : ∀ {subst : Substitution} {name : String} {ty : Ty}, name ∈ names → kept ty →
    (∀ bound, subst.find? name = some bound → bound.isSubtype ty = true) →
      moves subst (subst.insert name ty)

namespace Moves

variable {kept : Ty → Prop} {names : List String} {moves : Substitution → Substitution → Prop}

/-- Matching a variable stores at most one type under it. -/
theorem bindVar (respects : Moves kept names moves) {name : String} (listed : name ∈ names)
    {actual : Ty} (holds : kept actual) (subst : Substitution) :
    moves subst (subst.bindVar name actual).2 := by
  unfold Substitution.bindVar
  split
  · rename_i unbound
    apply respects.store listed holds
    simp [unbound]
  · rename_i bound found
    split
    · exact respects.refl subst
    · split
      · rename_i wider
        apply respects.store listed holds
        rintro other same
        obtain rfl : bound = other := by simpa [found] using same
        exact wider
      · exact respects.refl subst

/-- Filling in `Any` stores it under variables that have nothing. -/
theorem fillAny (respects : Moves kept names moves) (any : kept .any) :
    (vars : List String) → vars ⊆ names → (subst : Substitution) → moves subst (subst.fillAny vars)
  | [], _, subst => respects.refl subst
  | var :: vars, listed, subst => by
    have later : vars ⊆ names := fun name within => listed (List.mem_cons_of_mem var within)
    have rest := fillAny respects any vars later (subst.insertIfNew var .any)
    refine respects.trans ?_ rest
    unfold NameMap.insertIfNew
    split
    · exact respects.refl subst
    · rename_i unbound
      apply respects.store (listed List.mem_cons_self) any
      intro bound found
      simp [NameMap.contains, found] at unbound

/-- A step followed, if it succeeds, by another. -/
theorem andThen (respects : Moves kept names moves)
    {second : Substitution → Bool × Substitution} {subst : Substitution}
    {first : Bool × Substitution} (firstMoves : moves subst first.2)
    (secondMoves : ∀ extended, moves extended (second extended).2) :
    moves subst (match first with
      | (true, extended) => second extended
      | failed => failed).2 := by
  obtain ⟨fits, reached⟩ := first
  cases fits with
  | true => exact respects.trans firstMoves (secondMoves reached)
  | false => exact firstMoves

/-- Trying candidates up to the first success, each from the same start. -/
theorem firstSuccess (respects : Moves kept names moves) {α : Type}
    {run : α → Bool × Substitution} {candidates : List α} {subst : Substitution}
    (each : ∀ candidate ∈ candidates, moves subst (run candidate).2) :
    moves subst (match candidates.findSome? fun candidate =>
        match run candidate with
        | (true, extended) => some extended
        | _ => none with
      | some extended => (true, extended)
      | none => (false, subst)).2 := by
  split
  · rename_i extended found
    obtain ⟨candidate, within, succeeded⟩ := List.exists_of_findSome?_eq_some found
    have moved := each candidate within
    split at succeeded
    · rename_i reached same
      obtain rfl : reached = extended := by simpa using succeeded
      simpa [same] using moved
    · cases succeeded
  · exact respects.refl subst

end Moves

/-- A variable without a value takes the type it is matched with. -/
theorem bind_unbound (subst : Substitution) {name : String} (unbound : subst.find? name = none)
    (actual : Ty) : subst.bind (.typeVar name) actual = (true, subst.insert name actual) := by
  simp [bind, bindVar, unbound]

/-- A pair of types that is not opened leaves the substitution as it is or fills in `Any`. Only
variables and unions are matched in another way. -/
theorem bind_unopened (subst : Substitution) {pattern actual : Ty}
    (solid : ∀ name, pattern ≠ .typeVar name) (single : ∀ members, pattern ≠ .union members)
    (unopened : pattern.opens actual = false) :
    (subst.bind pattern actual).2 = subst ∨
      (subst.bind pattern actual).2 = subst.fillAny pattern.freeTypeVars := by
  rw [bind.eq_def]
  split
  case h_1 => exact absurd rfl (solid _)
  case h_6 => exact absurd rfl (single _)
  case h_3 | h_4 => exact .inr rfl
  case h_2 | h_5 | h_13 => exact .inl rfl
  all_goals simp [Ty.opens] at unopened

namespace Moves

variable {kept : Ty → Prop} {names : List String} {moves : Substitution → Substitution → Prop}

/-- The listed variables of a pattern may be filled in. -/
theorem fillAny_freeTypeVars (respects : Moves kept names moves) (hereditary : Ty.Hereditary kept)
    {pattern : Ty} (listed : pattern.typeVarOccurrences ⊆ names) (subst : Substitution) :
    moves subst (subst.fillAny pattern.freeTypeVars) := by
  apply respects.fillAny (hereditary.atom rfl)
  intro name member
  exact listed (List.mem_eraseDups.mp member)

/-- A pair that is not opened respects the relation. -/
theorem bind_unopened (respects : Moves kept names moves) (hereditary : Ty.Hereditary kept)
    {pattern actual : Ty} (listed : pattern.typeVarOccurrences ⊆ names)
    (solid : ∀ name, pattern ≠ .typeVar name) (single : ∀ members, pattern ≠ .union members)
    (unopened : pattern.opens actual = false) (subst : Substitution) :
    moves subst (subst.bind pattern actual).2 := by
  rcases subst.bind_unopened solid single unopened with same | filled
  · rw [same]
    exact respects.refl subst
  · rw [filled]
    exact respects.fillAny_freeTypeVars hereditary listed subst

mutual

/-- A match respects the relation, whether it succeeds or fails. The recursion is that of the match
itself; pairs of types that it does not open leave at most `Any` behind. -/
theorem bind (respects : Moves kept names moves) (hereditary : Ty.Hereditary kept) :
    (pattern : Ty) → pattern.typeVarOccurrences ⊆ names → (actual : Ty) → kept actual →
      (subst : Substitution) → moves subst (subst.bind pattern actual).2
  | .any, listed, _, _, subst | .never, listed, _, _, subst | .none, listed, _, _, subst
  | .bool, listed, _, _, subst | .int, listed, _, _, subst | .float, listed, _, _, subst
  | .str, listed, _, _, subst | .bytes, listed, _, _, subst | .named _, listed, _, _, subst
  | .placeholder _, listed, _, _, subst | .overloaded _, listed, _, _, subst =>
    respects.bind_unopened hereditary listed (by simp) (by simp) rfl subst
  | .typeVar name, listed, actual, holds, subst => by
    have here : name ∈ names := listed (by simp [Ty.typeVarOccurrences])
    simpa [Substitution.bind] using respects.bindVar here holds subst
  | .union members, listed, actual, holds, subst => by
    have filled : ∀ member ∈ members, moves subst (subst.fillAny member.freeTypeVars) := by
      intro member within
      exact respects.fillAny_freeTypeVars hereditary
        (fun name inside => listed (Ty.typeVarOccurrences_subset within inside)) subst
    have whole : moves subst (subst.fillAny (Ty.union members).freeTypeVars) :=
      respects.fillAny_freeTypeVars hereditary listed subst
    rw [Substitution.bind.eq_def]
    split
    case h_1 | h_2 => contradiction
    case h_3 | h_4 => exact whole
    case h_5 | h_13 => exact respects.refl subst
    case h_6 same _ _ _ =>
      cases same
      split
      · exact respects.refl subst
      · rename_i single found
        have within : single ∈ members :=
          (List.mem_filter.mp (found ▸ List.mem_singleton_self single)).1
        split
        · exact filled single within
        · refine respects.bindOpenMember hereditary members listed _ (hereditary.unionOf ?_) subst
          intro part inside
          exact hereditary.uncovered holds inside
      · exact respects.refl subst
    all_goals contradiction
  | .list pattern, listed, actual, holds, subst => by
    cases actual with
    | list actual =>
      rw [bind_list]
      have inside : kept actual := (hereditary.list_iff actual).mp holds
      exact respects.bind hereditary pattern listed actual inside subst
    | _ => exact respects.bind_unopened hereditary listed (by simp) (by simp) rfl subst
  | .dict patternKey patternValue, listed, actual, holds, subst => by
    cases actual with
    | dict key value =>
      simp only [Ty.typeVarOccurrences, List.append_subset] at listed
      obtain ⟨keyHolds, valueHolds⟩ := (hereditary.dict_iff key value).mp holds
      rw [bind_dict]
      exact respects.andThen (respects.bind hereditary patternKey listed.1 key keyHolds subst)
        (respects.bind hereditary patternValue listed.2 value valueHolds)
    | _ => exact respects.bind_unopened hereditary listed (by simp) (by simp) rfl subst
  | .tuple patterns, listed, actual, holds, subst => by
    cases actual with
    | tuple actuals =>
      have each := (hereditary.tuple_iff actuals).mp holds
      rw [bind_tuple]
      split
      · exact respects.bindAll hereditary patterns listed actuals each subst
      · exact respects.refl subst
    | _ => exact respects.bind_unopened hereditary listed (by simp) (by simp) rfl subst
  | .generic patternName patterns, listed, actual, holds, subst => by
    cases actual with
    | generic name actuals =>
      have each := (hereditary.generic_iff name actuals).mp holds
      simp only [Substitution.bind]
      split
      · exact respects.bindKind hereditary patterns listed name actuals each subst
      · split
        · exact respects.bindAll hereditary patterns listed actuals each subst
        · exact respects.refl subst
    | _ => exact respects.bind_unopened hereditary listed (by simp) (by simp) rfl subst
  | .callable pattern, listed, actual, holds, subst => by
    cases actual with
    | callable actual =>
      rw [bind_callable]
      have whole : actual.All kept := (hereditary.callable_iff actual).mp holds
      exact respects.bindSignature hereditary pattern listed actual whole subst
    | overloaded signatures =>
      have each := (hereditary.overloaded_iff signatures).mp holds
      rw [bind_overloaded]
      exact respects.firstSuccess fun actual within =>
        respects.bindSignature hereditary pattern listed actual (each actual within) subst
    | _ => exact respects.bind_unopened hereditary listed (by simp) (by simp) rfl subst

/-- The same of matching several types. -/
theorem bindAll (respects : Moves kept names moves) (hereditary : Ty.Hereditary kept) :
    (patterns : List Ty) → Ty.typeVarOccurrencesIn patterns ⊆ names → (actuals : List Ty) →
      (∀ actual ∈ actuals, kept actual) → (subst : Substitution) →
      moves subst (subst.bindAll patterns actuals).2
  | [], _, _, _, subst => respects.refl subst
  | _ :: _, _, [], _, subst => respects.refl subst
  | pattern :: patterns, listed, actual :: actuals, holds, subst => by
    simp only [Ty.typeVarOccurrencesIn, List.append_subset] at listed
    rw [List.forall_mem_cons] at holds
    exact respects.andThen (respects.bind hereditary pattern listed.1 actual holds.1 subst)
      (respects.bindAll hereditary patterns listed.2 actuals holds.2)

/-- The same of matching with the first member that has variables. -/
theorem bindOpenMember (respects : Moves kept names moves) (hereditary : Ty.Hereditary kept) :
    (members : List Ty) → Ty.typeVarOccurrencesIn members ⊆ names → (actual : Ty) →
      kept actual → (subst : Substitution) → moves subst (subst.bindOpenMember members actual).2
  | [], _, _, _, subst => respects.refl subst
  | member :: members, listed, actual, holds, subst => by
    simp only [Ty.typeVarOccurrencesIn, List.append_subset] at listed
    simp only [Substitution.bindOpenMember]
    split
    · exact respects.bind hereditary member listed.1 actual holds subst
    · exact respects.bindOpenMember hereditary members listed.2 actual holds subst

/-- The same of matching a container passed as a type. -/
theorem bindKind (respects : Moves kept names moves) (hereditary : Ty.Hereditary kept) :
    (patterns : List Ty) → Ty.typeVarOccurrencesIn patterns ⊆ names → (name : String) →
      (actuals : List Ty) → (∀ actual ∈ actuals, kept actual) → (subst : Substitution) →
      moves subst (subst.bindKind patterns name actuals).2
  | [], _, _, _, _, subst => respects.refl subst
  | container :: patterns, listed, name, actuals, holds, subst => by
    simp only [Ty.typeVarOccurrencesIn, List.append_subset] at listed
    have bare : kept (.named name) := hereditary.atom rfl
    exact respects.andThen (respects.bind hereditary container listed.1 (.named name) bare subst)
      (respects.bindAll hereditary patterns listed.2 actuals holds)

/-- The same of matching two signatures. -/
theorem bindSignature (respects : Moves kept names moves) (hereditary : Ty.Hereditary kept) :
    (pattern : Signature) → pattern.typeVarOccurrences ⊆ names → (actual : Signature) →
      actual.All kept → (subst : Substitution) → moves subst (subst.bindSignature pattern actual).2
  | ⟨params, ret⟩, listed, actual, holds, subst => by
    simp only [Signature.typeVarOccurrences, List.append_subset] at listed
    have results := respects.bind hereditary ret listed.2 actual.ret holds.1
    simp only [Substitution.bindSignature]
    split
    · exact results subst
    · split
      · exact respects.refl subst
      · exact respects.andThen
          (respects.bindParams hereditary params listed.1 0 actual holds subst) results

/-- The same of matching the positional parameters. -/
theorem bindParams (respects : Moves kept names moves) (hereditary : Ty.Hereditary kept) :
    (params : List Param) → Param.typeVarOccurrencesIn params ⊆ names → (index : Nat) →
      (actual : Signature) → actual.All kept → (subst : Substitution) →
      moves subst (subst.bindParams params index actual).2
  | [], _, _, _, _, subst => respects.refl subst
  | param :: params, listed, index, actual, holds, subst => by
    simp only [Param.typeVarOccurrencesIn, List.append_subset] at listed
    simp only [Substitution.bindParams]
    split
    · split
      · rename_i received found
        have inside : kept received := holds.slot found
        exact respects.andThen (respects.bindParam hereditary param listed.1 received inside subst)
          (respects.bindParams hereditary params listed.2 (index + 1) actual holds)
      · exact respects.refl subst
    · exact respects.bindParams hereditary params listed.2 index actual holds subst

/-- The same of matching a parameter's type. -/
theorem bindParam (respects : Moves kept names moves) (hereditary : Ty.Hereditary kept) :
    (param : Param) → param.typeVarOccurrences ⊆ names → (actual : Ty) → kept actual →
      (subst : Substitution) → moves subst (subst.bindParam param actual).2
  | ⟨_, _, ty⟩, listed, actual, holds, subst =>
    respects.bind hereditary ty listed actual holds subst

end

end Moves

/-- Matching leaves alone what does not occur in the pattern. -/
theorem find?_bind (subst : Substitution) {pattern : Ty} (actual : Ty) {name : String}
    (foreign : name ∉ pattern.typeVarOccurrences) :
    NameMap.find? (subst.bind pattern actual).2 name = subst.find? name := by
  have respects : Moves (fun _ => True) pattern.typeVarOccurrences
      fun before after => after.find? name = before.find? name := by
    refine ⟨fun _ => rfl, fun first second => second.trans first, ?_⟩
    intro before other ty listed _ _
    have different : name ≠ other := fun same => foreign (same ▸ listed)
    simp [NameMap.find?_insert, different]
  exact respects.bind .trivial pattern (List.Subset.refl _) actual True.intro subst

/-- Matching takes no value away. -/
theorem contains_bind (subst : Substitution) (pattern actual : Ty) {name : String}
    (bound : subst.contains name = true) :
    NameMap.contains (subst.bind pattern actual).2 name = true := by
  have respects : Moves (fun _ => True) pattern.typeVarOccurrences
      fun before after => before.contains name = true → after.contains name = true := by
    refine ⟨fun _ => id, fun first second => second ∘ first, ?_⟩
    intro before other ty _ _ _ held
    rw [NameMap.contains, NameMap.find?_insert]
    split
    · rfl
    · exact held
  exact respects.bind .trivial pattern (List.Subset.refl _) actual True.intro subst bound

/-- A callable pattern that none of the signatures of an overloaded type fits learns nothing. -/
theorem bind_overloaded_of_failed (subst : Substitution) {pattern : Signature}
    {signatures : List Signature}
    (failed : (subst.bind (.callable pattern) (.overloaded signatures)).1 = false) :
    (subst.bind (.callable pattern) (.overloaded signatures)).2 = subst := by
  rw [bind_overloaded] at failed ⊢
  split at failed
  · cases failed
  · rfl

/-- A match touches only the variables of its pattern, whether it succeeds or fails. What has a
value keeps one, what gets its first value occurs in the pattern, and what does not occur there
keeps exactly the value it had. If a callable pattern fits no signature of an overloaded type, no
variable is touched at all. -/
theorem bind_touches_pattern (subst : Substitution) (pattern actual : Ty) :
    (∀ name, subst.contains name = true →
        NameMap.contains (subst.bind pattern actual).2 name = true) ∧
      (∀ name, NameMap.contains (subst.bind pattern actual).2 name = true →
        subst.contains name = false → name ∈ pattern.freeTypeVars) ∧
      (∀ name, name ∉ pattern.freeTypeVars →
        NameMap.find? (subst.bind pattern actual).2 name = subst.find? name) ∧
      ∀ signature signatures, pattern = .callable signature → actual = .overloaded signatures →
        (subst.bind pattern actual).1 = false → (subst.bind pattern actual).2 = subst := by
  have kept : ∀ name, name ∉ pattern.freeTypeVars →
      NameMap.find? (subst.bind pattern actual).2 name = subst.find? name := by
    intro name foreign
    apply find?_bind subst actual
    intro occurs
    exact foreign (List.mem_eraseDups.mpr occurs)
  refine ⟨fun name bound => contains_bind subst pattern actual bound, ?_, kept, ?_⟩
  · intro name after before
    by_cases occurs : name ∈ pattern.freeTypeVars
    · exact occurs
    · rw [NameMap.contains, kept name occurs] at after
      rw [NameMap.contains, after] at before
      cases before
  · rintro signature signatures rfl rfl failed
    exact bind_overloaded_of_failed subst failed

/-- A pair is matched in its first half and not in its second. The variable of the first half keeps
a value, which is wider now, and the one that does not occur keeps the value it had. A function that
fits neither of two signatures leaves all as it was, though the first one fits up to its result. -/
theorem bind_touches_pattern_of_pair :
    (NameMap.contains (bind ⟨[("T", .bool), ("W", .str)]⟩
          (.tuple [.typeVar "T", .list (.typeVar "U")]) (.tuple [.int, .str])).2 "T" = true ∧
        NameMap.find? (bind ⟨[("T", .bool), ("W", .str)]⟩
          (.tuple [.typeVar "T", .list (.typeVar "U")]) (.tuple [.int, .str])).2 "W" =
            some .str) ∧
      (bind ⟨[("T", .bool)]⟩ (.callable (.ofTypes [.typeVar "U"] .str))
        (.overloaded [.ofTypes [.int] .bytes, .ofTypes [] .str])).2 = ⟨[("T", .bool)]⟩ := by
  have pair := bind_touches_pattern ⟨[("T", .bool), ("W", .str)]⟩
    (.tuple [.typeVar "T", .list (.typeVar "U")]) (.tuple [.int, .str])
  have function := bind_touches_pattern ⟨[("T", .bool)]⟩
    (.callable (.ofTypes [.typeVar "U"] .str))
    (.overloaded [.ofTypes [.int] .bytes, .ofTypes [] .str])
  exact ⟨⟨pair.1 "T" (by decide), pair.2.2.1 "W" (by decide)⟩,
    function.2.2.2 _ _ rfl rfl (by decide +kernel)⟩

end Substitution

end Callwise
