import Callwise.Proofs.Call.OwnVariables
import Mathlib.Data.List.Induction

/-!
# The order of type variables

A place in a type is the way to it, given by the numbers of the parts to go into. The parts of a
signature are its parameters and then its result, so the order of places, number by number, is the
order in which a type is read. The occurrences of type variables are listed in this order: what is
listed before an occurrence is all that stands at earlier places. With repetitions left out, each
variable comes before another if one of its places is before all places of the other.
-/

namespace Callwise

/-! ### Places in a type -/

/-- The types directly inside a signature in the order of reading, the parameters first. -/
def Signature.orderedParts (signature : Signature) : List Ty :=
  signature.params.map Param.ty ++ [signature.ret]

namespace Ty

/-- The types directly inside a type in the order of reading. -/
def orderedParts : Ty → List Ty
  | .list item => [item]
  | .tuple items => items
  | .dict key value => [key, value]
  | .union members => members
  | .generic _ args => args
  | .callable signature => signature.orderedParts
  | .overloaded signatures => signatures.flatMap Signature.orderedParts
  | _ => []

/-- What stands at a place in a type. -/
def at? (ty : Ty) : (place : List Nat) → Option Ty
  | [] => some ty
  | index :: place => ty.orderedParts[index]?.bind (·.at? place)

/-- A place leads into one of the parts. -/
theorem at?_cons_eq_some_iff {ty found : Ty} {index : Nat} {place : List Nat} :
    ty.at? (index :: place) = some found ↔
      ∃ part, ty.orderedParts[index]? = some part ∧ part.at? place = some found :=
  Option.bind_eq_some_iff

/-! ### Occurrences in order -/

/-- The variables of several types are those of each in turn. -/
theorem typeVarOccurrencesIn_eq_flatMap (types : List Ty) :
    typeVarOccurrencesIn types = types.flatMap typeVarOccurrences := by
  induction types with
  | nil => rfl
  | cons first rest ih =>
    rw [typeVarOccurrencesIn, ih, List.flatMap_cons]

end Ty

theorem Param.typeVarOccurrencesIn_eq_flatMap (params : List Param) :
    Param.typeVarOccurrencesIn params = (params.map Param.ty).flatMap Ty.typeVarOccurrences := by
  induction params with
  | nil => rfl
  | cons first rest ih =>
    obtain ⟨_, _, ty⟩ := first
    rw [Param.typeVarOccurrencesIn, ih, List.map_cons, List.flatMap_cons,
      Param.typeVarOccurrences]

theorem Signature.typeVarOccurrences_eq_flatMap (signature : Signature) :
    signature.typeVarOccurrences = signature.orderedParts.flatMap Ty.typeVarOccurrences := by
  obtain ⟨params, ret⟩ := signature
  rw [Signature.typeVarOccurrences, Param.typeVarOccurrencesIn_eq_flatMap, Signature.orderedParts,
    List.flatMap_append, List.flatMap_singleton]

theorem Signature.typeVarOccurrencesIn_eq_flatMap (signatures : List Signature) :
    Signature.typeVarOccurrencesIn signatures =
      (signatures.flatMap Signature.orderedParts).flatMap Ty.typeVarOccurrences := by
  induction signatures with
  | nil => rfl
  | cons first rest ih =>
    rw [Signature.typeVarOccurrencesIn, ih, List.flatMap_cons,
      List.flatMap_append, Signature.typeVarOccurrences_eq_flatMap]

namespace Ty

/-- A type that is no variable has the variables of its parts, one part after the other. -/
theorem typeVarOccurrences_eq_flatMap {ty : Ty} (solid : ∀ name, ty ≠ .typeVar name) :
    ty.typeVarOccurrences = ty.orderedParts.flatMap typeVarOccurrences := by
  cases ty with
  | typeVar name => exact absurd rfl (solid name)
  | list item => simp [typeVarOccurrences, orderedParts]
  | dict key value => simp [typeVarOccurrences, orderedParts]
  | tuple items => rw [typeVarOccurrences, typeVarOccurrencesIn_eq_flatMap, orderedParts]
  | union members => rw [typeVarOccurrences, typeVarOccurrencesIn_eq_flatMap, orderedParts]
  | generic name args => rw [typeVarOccurrences, typeVarOccurrencesIn_eq_flatMap, orderedParts]
  | callable signature =>
    rw [typeVarOccurrences, Signature.typeVarOccurrences_eq_flatMap, orderedParts]
  | overloaded signatures =>
    rw [typeVarOccurrences, Signature.typeVarOccurrencesIn_eq_flatMap, orderedParts]
  | _ => rfl

/-- The parts in order are the parts. -/
theorem mem_orderedParts_iff {ty part : Ty} : part ∈ ty.orderedParts ↔ part ∈ ty.components := by
  have inSignature (signature : Signature) :
      part ∈ signature.orderedParts ↔ part ∈ signature.components := by
    simp [Signature.orderedParts, Signature.components, or_comm]
  cases ty <;> simp [orderedParts, components, inSignature]

/-- What stands at a place is listed. -/
theorem mem_typeVarOccurrences_of_at? {ty : Ty} {place : List Nat} {name : String}
    (found : ty.at? place = some (.typeVar name)) : name ∈ ty.typeVarOccurrences := by
  induction place generalizing ty with
  | nil =>
    cases found
    exact List.mem_singleton_self name
  | cons index place ih =>
    obtain ⟨part, atIndex, below⟩ := at?_cons_eq_some_iff.mp found
    have inside := mem_orderedParts_iff.mp (List.mem_of_getElem? atIndex)
    exact (mem_typeVarOccurrences ty name).mpr (.inr ⟨part, inside, ih below⟩)

/-- An occurrence in several parts is one in a part, behind those in the parts before. -/
theorem exists_part_of_flatMap {parts : List Ty} {before after : List String} {name : String}
    (listed : parts.flatMap typeVarOccurrences = before ++ name :: after) :
    ∃ earlier part later inner rest, parts = earlier ++ part :: later ∧
      part.typeVarOccurrences = inner ++ name :: rest ∧
      before = earlier.flatMap typeVarOccurrences ++ inner := by
  induction parts generalizing before with
  | nil => simp at listed
  | cons part parts ih =>
    rw [List.flatMap_cons] at listed
    rcases List.append_eq_append_iff.mp listed with ⟨inner, rfl, below⟩ | ⟨own, whole, split⟩
    · obtain ⟨earlier, found, later, inner, rest, rfl, here, rfl⟩ := ih below
      exact ⟨part :: earlier, found, later, inner, rest, rfl, here, by simp⟩
    · cases own with
      | nil =>
        have below : parts.flatMap typeVarOccurrences = [] ++ name :: after := split.symm
        obtain ⟨earlier, found, later, inner, rest, rfl, here, nothing⟩ :=
          ih below
        refine ⟨part :: earlier, found, later, inner, rest, rfl, here, ?_⟩
        rw [List.flatMap_cons, List.append_assoc, ← nothing, whole, List.append_nil,
          List.append_nil]
      | cons other own =>
        cases split
        exact ⟨[], part, parts, before, own, rfl, whole, rfl⟩

/-- An occurrence has a place before all places of variables that are not listed before it. -/
theorem exists_first_place {ty : Ty} {before after : List String} {name : String}
    (listed : ty.typeVarOccurrences = before ++ name :: after) :
    ∃ place, ty.at? place = some (.typeVar name) ∧
      ∀ other elsewhere, other ≠ name → other ∉ before →
        ty.at? elsewhere = some (.typeVar other) → place < elsewhere := by
  by_cases isVariable : ∃ own, ty = .typeVar own
  · obtain ⟨own, rfl⟩ := isVariable
    obtain ⟨rfl, same, rfl⟩ : before = [] ∧ own = name ∧ after = [] := by
      rw [typeVarOccurrences] at listed
      cases before with
      | nil => simpa [eq_comm] using listed
      | cons first before => simp at listed
    refine ⟨[], congrArg (some ∘ typeVar) same, ?_⟩
    rintro other (_ | ⟨index, elsewhere⟩) different _ stands
    · cases stands
      exact absurd same different
    · cases stands
  · have solid : ∀ own, ty ≠ .typeVar own := fun own same => isVariable ⟨own, same⟩
    rw [typeVarOccurrences_eq_flatMap solid] at listed
    obtain ⟨earlier, part, later, inner, rest, parts, here, rfl⟩ := exists_part_of_flatMap listed
    have inside : part ∈ ty.orderedParts := by simp [parts]
    have smaller := sizeOf_component_lt (mem_orderedParts_iff.mp inside)
    obtain ⟨place, found, first⟩ := exists_first_place here
    refine ⟨earlier.length :: place, at?_cons_eq_some_iff.mpr ⟨part, by simp [parts], found⟩, ?_⟩
    intro other elsewhere different unlisted stands
    rw [List.mem_append, not_or] at unlisted
    cases elsewhere with
    | nil => exact absurd (Option.some.inj stands) (solid other)
    | cons index elsewhere =>
      obtain ⟨holder, atIndex, below⟩ := at?_cons_eq_some_iff.mp stands
      rw [parts] at atIndex
      rw [List.cons_lt_cons_iff]
      rcases Nat.lt_trichotomy index earlier.length with before | rfl | behind
      · -- All that stands in earlier parts has been listed.
        rw [List.getElem?_append_left before] at atIndex
        refine absurd (List.mem_flatMap.mpr ⟨holder, ?_, ?_⟩) unlisted.1
        · exact List.mem_of_getElem? atIndex
        · exact mem_typeVarOccurrences_of_at? below
      · obtain rfl : part = holder := by simpa using atIndex
        exact .inr ⟨rfl, first other elsewhere different unlisted.2 below⟩
      · exact .inl behind
termination_by sizeOf ty

/-! ### Without repetitions -/

/-- The first name is listed somewhere without the second one before it. -/
def ListedFirst (names : List String) (first second : String) : Prop :=
  second ≠ first ∧ ∃ before after, names = before ++ first :: after ∧ second ∉ before

/-- More names behind the others change nothing. -/
theorem ListedFirst.append {names : List String} {first second : String}
    (listed : ListedFirst names first second) (more : List String) :
    ListedFirst (names ++ more) first second := by
  obtain ⟨different, before, after, rfl, absent⟩ := listed
  exact ⟨different, before, after ++ more, by simp, absent⟩

/-- A list without its repetitions keeps the order of first appearance. -/
theorem pairwise_eraseDups (names : List String) :
    names.eraseDups.Pairwise (ListedFirst names) := by
  induction names using List.reverseRecOn with
  | nil => simp
  | append_singleton names last ih =>
    have kept : names.eraseDups.Pairwise (ListedFirst (names ++ [last])) :=
      ih.imp fun listed => listed.append [last]
    rw [List.eraseDups_append]
    by_cases repeated : last ∈ names
    · simpa [List.removeAll, repeated] using kept
    · have new : ([last].removeAll names).eraseDups = [last] := by
        simp [List.removeAll, repeated, List.eraseDups_cons]
      rw [new, List.pairwise_append]
      refine ⟨kept, List.pairwise_singleton _ _, fun name isListed other isLast => ?_⟩
      obtain rfl := List.mem_singleton.mp isLast
      obtain ⟨before, after, rfl⟩ := List.append_of_mem (List.mem_eraseDups.mp isListed)
      rw [List.mem_append, List.mem_cons, not_or, not_or] at repeated
      exact ⟨repeated.2.1, before, after ++ [other], by simp, repeated.1⟩

/-- A variable is listed exactly if it stands at some place. -/
theorem mem_freeTypeVars_iff (ty : Ty) (name : String) :
    name ∈ ty.freeTypeVars ↔ ∃ place, ty.at? place = some (.typeVar name) := by
  rw [freeTypeVars, List.mem_eraseDups]
  constructor
  · intro occurs
    obtain ⟨before, after, listed⟩ := List.append_of_mem occurs
    obtain ⟨place, found, _⟩ := exists_first_place listed
    exact ⟨place, found⟩
  · rintro ⟨place, found⟩
    exact mem_typeVarOccurrences_of_at? found

/-- The test for variables is the test for listed ones. -/
theorem freeTypeVars_eq_nil_iff (ty : Ty) : ty.freeTypeVars = [] ↔ ty.hasTypeVars = false := by
  rw [← typeVarOccurrences_eq_nil_iff, freeTypeVars, List.eq_nil_iff_forall_not_mem,
    List.eq_nil_iff_forall_not_mem]
  simp only [List.mem_eraseDups]

/-- The type variables of a type are listed once each, and a name is listed exactly if its variable
stands somewhere in the type. Of two names the one whose variable is read first comes first. The
test for variables is positive exactly if some are listed, and erasing the variables leaves none. -/
theorem variables_listed_in_order (ty : Ty) :
    ty.freeTypeVars.Nodup ∧
    (∀ name, name ∈ ty.freeTypeVars ↔ ∃ place, ty.at? place = some (.typeVar name)) ∧
    (ty.freeTypeVars.Pairwise fun earlier later =>
      ∃ place, ty.at? place = some (.typeVar earlier) ∧
        ∀ other, ty.at? other = some (.typeVar later) → place < other) ∧
    (ty.hasTypeVars = true ↔ ty.freeTypeVars ≠ []) ∧
    ∀ place name, ty.eraseUnsolved.at? place ≠ some (.typeVar name) := by
  have inOrder := pairwise_eraseDups ty.typeVarOccurrences
  refine ⟨?_, mem_freeTypeVars_iff ty, ?_, ?_, ?_⟩
  · exact inOrder.imp fun listed => listed.1.symm
  · refine inOrder.imp fun {earlier later} listed => ?_
    obtain ⟨different, before, after, split, absent⟩ := listed
    obtain ⟨place, found, first⟩ := exists_first_place split
    exact ⟨place, found, fun other => first later other different absent⟩
  · rw [← Bool.not_eq_false, ne_eq, freeTypeVars_eq_nil_iff]
  · intro place name found
    have listed := mem_typeVarOccurrences_of_at? found
    rw [typeVarOccurrences_eraseUnsolved] at listed
    cases listed

-- Parameters come before the result.
example : (Ty.callable ⟨[⟨.none, .positional, .typeVar "U"⟩, ⟨.none, .star, .list (.typeVar "U")⟩],
    .typeVar "T"⟩).freeTypeVars = ["U", "T"] := by decide +kernel

end Ty

end Callwise
