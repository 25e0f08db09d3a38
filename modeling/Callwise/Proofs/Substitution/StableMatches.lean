import Callwise.Proofs.Substitution.Inheritance
import Callwise.Proofs.Ty.Transitivity

/-!
# First-order matches are sound and stay so

First-order types are built from scalars, named types and containers; a first-order pattern may also
have type variables. A variable may occur in several places of a pattern. Each place can widen its
value, so what an earlier place has matched must still fit when a later one has widened the value.

`Stable` says this of a run: it only makes values wider, and after a success it succeeds again under
all values that are wider still, without changing them, and the matched type fits what the pattern
stands for. Running two stable runs one after the other is stable, and so the recursion is that of
the match. The last theorem takes the values reached by the match itself for the wider ones.

Subtyping has to be transitive for this, so no name may stand alone in one of the types and be
applied to arguments in another.
-/

namespace Callwise

variable {ty : Ty}

namespace Ty

/-! ### First-order types -/

/-- The root of the type is a scalar, a named type or a container. A name that is applied to
arguments is neither `object` nor the one under which containers are passed as types. -/
def isData : Ty → Bool
  | .never | .none | .bool | .int | .float | .str | .bytes | .list _ | .tuple _ | .dict _ _
  | .named _ => true
  | .generic name _ => name != kindName && name != "object"
  | _ => false

/-- The type is a type variable. -/
def isTypeVar : Ty → Bool
  | .typeVar _ => true
  | _ => false

/-- The type is built from scalars, named types and containers. -/
def isFirstOrder (ty : Ty) : Bool := ty.everywhere isData

/-- The type is built from scalars, named types, containers and type variables. -/
def isFirstOrderPattern (ty : Ty) : Bool := ty.everywhere fun part => part.isData || part.isTypeVar

/-- The root is data, and a name stands alone or is applied as the names say. -/
def isRegular (applied : String → Bool) (ty : Ty) : Bool := ty.isData && ty.isFirm applied

/-- The type is first-order, and its names stand alone or are applied as the names say. -/
def IsValue (applied : String → Bool) (ty : Ty) : Prop :=
  ty.everywhere (isRegular applied) = true

/-- The same of a pattern, in which variables may occur. -/
def IsPattern (applied : String → Bool) (ty : Ty) : Prop :=
  ty.everywhere (fun part => part.isTypeVar || part.isRegular applied) = true

variable {applied : String → Bool}

/-- Data is not left open. -/
theorem isSettled_of_isData (data : ty.isData = true) : ty.isSettled = true := by
  cases ty
  case generic name args => exact (Bool.and_eq_true_iff.mp data).2
  all_goals first | rfl | cases data

/-- First-order types with names apart are values for the names that they apply. -/
theorem isValue_of_isFirstOrder {types : List Ty} (member : ty ∈ types)
    (firstOrder : ty.isFirstOrder = true) (apart : namesApart types = true) :
    ty.IsValue fun name => types.any (applies name) := by
  rw [IsValue, everywhere_iff_inside]
  intro part inside
  have data : part.isData = true := (everywhere_iff_inside ty).mp firstOrder part inside
  rw [isRegular, data, isFirm_of_inside member apart inside (isSettled_of_isData data)]
  rfl

/-- First-order patterns with names apart are patterns for the names that they apply. -/
theorem isPattern_of_isFirstOrder {types : List Ty} (member : ty ∈ types)
    (firstOrder : ty.isFirstOrderPattern = true) (apart : namesApart types = true) :
    ty.IsPattern fun name => types.any (applies name) := by
  rw [IsPattern, everywhere_iff_inside]
  intro part inside
  have allowed := (everywhere_iff_inside ty).mp firstOrder part inside
  rw [Bool.or_eq_true] at allowed ⊢
  rcases allowed with data | isVariable
  · rw [isRegular, data, isFirm_of_inside member apart inside (isSettled_of_isData data)]
    exact .inr rfl
  · exact .inl isVariable

/-- A value is a pattern. -/
theorem IsValue.isPattern (value : ty.IsValue applied) : ty.IsPattern applied := by
  rw [IsPattern, everywhere_iff_inside]
  intro part inside
  rw [(everywhere_iff_inside ty).mp value part inside, Bool.or_true]

/-- A value is first-order. -/
theorem IsValue.isFirstOrder (value : ty.IsValue applied) : ty.isFirstOrder = true := by
  rw [Ty.isFirstOrder, everywhere_iff_inside]
  intro part inside
  have regular := (everywhere_iff_inside ty).mp value part inside
  exact (Bool.and_eq_true_iff.mp regular).1

/-- Everything inside a value is firm. -/
theorem IsValue.firm (value : ty.IsValue applied) :
    ty.everywhere (isFirm applied) = true := by
  rw [everywhere_iff_inside]
  intro part inside
  have regular := (everywhere_iff_inside ty).mp value part inside
  exact (Bool.and_eq_true_iff.mp regular).2

/-- The root of a value is regular. -/
theorem IsValue.root (value : ty.IsValue applied) : ty.isRegular applied = true :=
  everywhere_root value

/-- What stands directly inside a value is a value. -/
theorem IsValue.component {ty part : Ty} (value : ty.IsValue applied)
    (member : part ∈ ty.components) : part.IsValue applied :=
  ((everywhere_iff_components ty).mp value).2 part member

/-- What stands directly inside a pattern is a pattern. -/
theorem IsPattern.component {ty part : Ty} (pattern : ty.IsPattern applied)
    (member : part ∈ ty.components) : part.IsPattern applied :=
  ((everywhere_iff_components ty).mp pattern).2 part member

/-- The root of a pattern that is no variable is regular. -/
theorem IsPattern.root (pattern : ty.IsPattern applied) (solid : ty.isTypeVar = false) :
    ty.isRegular applied = true := by
  have allowed := everywhere_root pattern
  rwa [solid, Bool.false_or] at allowed

/-- Subtyping is transitive on values. -/
theorem IsValue.isSubtype_trans {first second third : Ty} (firstValue : first.IsValue applied)
    (secondValue : second.IsValue applied) (thirdValue : third.IsValue applied)
    (left : first.isSubtype second = true) (right : second.isSubtype third = true) :
    first.isSubtype third = true :=
  isSubtype_trans_of_firm first second third firstValue.firm secondValue.firm thirdValue.firm left
    right

/-- Among patterns for the same names no name stands alone in one place and is applied in
another. -/
theorem namesApart_of_isPattern {types : List Ty}
    (patterns : ∀ ty ∈ types, ty.IsPattern applied) : namesApart types = true := by
  -- what a part says about a name is what `applied` says about it
  have firm : ∀ ty ∈ types, ∀ part : Ty, part.Inside ty → part.isTypeVar = false →
      part.isFirm applied = true := by
    intro ty member part inside solid
    have allowed := (everywhere_iff_inside ty).mp (patterns ty member) part inside
    rw [solid, Bool.false_or] at allowed
    exact (Bool.and_eq_true_iff.mp allowed).2
  rw [namesApart, List.all_eq_true]
  intro ty member
  rw [everywhere_iff_inside]
  intro part inside
  cases part
  case named name =>
    have alone : applied name = false := by simpa [isFirm] using firm ty member _ inside rfl
    have nowhere : types.any (applies name) = false := by
      rw [List.any_eq_false]
      intro other within
      rw [applies, Bool.not_eq_true', Bool.not_eq_false, everywhere_iff_inside]
      intro piece insideOther
      cases piece
      case generic otherName args =>
        have isApplied := (Bool.and_eq_true_iff.mp (firm other within _ insideOther rfl)).1
        have different : otherName ≠ name := by
          rintro rfl
          rw [alone] at isApplied
          cases isApplied
        simpa using different
      all_goals rfl
    simp [nowhere]
  all_goals rfl

end Ty

namespace Substitution

variable {applied : String → Bool}

/-! ### Wider values -/

/-- The types that the variables stand for. -/
def values (subst : Substitution) : List Ty := subst.names.filterMap subst.find?

/-- A type is a value of a substitution if some variable stands for it. -/
theorem mem_values {subst : Substitution} :
    ty ∈ subst.values ↔ ∃ name, subst.find? name = some ty := by
  rw [values, List.mem_filterMap]
  constructor
  · rintro ⟨name, _, found⟩
    exact ⟨name, found⟩
  · rintro ⟨name, found⟩
    obtain ⟨before, after, shape, _⟩ := List.lookup_eq_some_iff.mp found
    refine ⟨name, List.mem_map.mpr ⟨(name, ty), ?_, rfl⟩, found⟩
    simp [shape]

/-- Every variable keeps its value or gets a wider one. -/
def Widens (before after : Substitution) : Prop :=
  ∀ name ty, before.find? name = some ty →
    ∃ wider, after.find? name = some wider ∧ ty.isSubtype wider = true

/-- No change widens. -/
theorem Widens.refl (subst : Substitution) : subst.Widens subst :=
  fun _ ty found => ⟨ty, found, Ty.isSubtype_refl ty⟩

/-- Widening values twice widens them. -/
theorem Widens.trans {first second third : Substitution}
    (firstHolds : first.Holds (Ty.IsValue applied))
    (secondHolds : second.Holds (Ty.IsValue applied))
    (thirdHolds : third.Holds (Ty.IsValue applied)) (left : first.Widens second)
    (right : second.Widens third) : first.Widens third := by
  intro name ty found
  obtain ⟨wider, foundSecond, fits⟩ := left name ty found
  obtain ⟨widest, foundThird, fitsFurther⟩ := right name wider foundSecond
  exact ⟨widest, foundThird, (firstHolds name ty found).isSubtype_trans
    (secondHolds name wider foundSecond) (thirdHolds name widest foundThird) fits fitsFurther⟩

/-- Storing a type where nothing or something narrower was widens. -/
theorem widens_insert {subst : Substitution} {name : String}
    (narrower : ∀ bound, subst.find? name = some bound → bound.isSubtype ty = true) :
    subst.Widens (subst.insert name ty) := by
  intro other bound found
  rw [NameMap.find?_insert]
  by_cases same : other = name
  · subst same
    exact ⟨ty, by simp, narrower bound found⟩
  · exact ⟨bound, by simp [same, found], Ty.isSubtype_refl bound⟩

/-! ### Stable runs -/

/-- A success of the run makes values wider and keeps them first-order, and under all values that
are wider still the run succeeds again, changes nothing, and something holds of these values. -/
def Stable (applied : String → Bool) (run : Substitution → Bool × Substitution)
    (sound : Substitution → Bool) : Prop :=
  ∀ before after, before.Holds (Ty.IsValue applied) → run before = (true, after) →
    after.Holds (Ty.IsValue applied) ∧ before.Widens after ∧
      ∀ later, later.Holds (Ty.IsValue applied) → after.Widens later →
        run later = (true, later) ∧ sound later = true

/-- A run that answers at once is stable if a positive answer is justified by all values. -/
theorem stable_answer {fits : Bool} {sound : Substitution → Bool}
    (justified : fits = true → ∀ later, sound later = true) :
    Stable applied (fun subst => (fits, subst)) sound := by
  intro before after holds succeeded
  cases succeeded
  exact ⟨holds, .refl before, fun later _ _ => ⟨rfl, justified rfl later⟩⟩

/-- A stable run followed, if it succeeds, by another is stable. The values reached by the first are
widened by the second, and later values are wider than both. -/
theorem Stable.andThen {first second : Substitution → Bool × Substitution}
    {firstSound secondSound : Substitution → Bool} (firstStable : Stable applied first firstSound)
    (secondStable : Stable applied second secondSound) :
    Stable applied
      (fun subst =>
        match first subst with
        | (true, extended) => second extended
        | failed => failed)
      fun subst => firstSound subst && secondSound subst := by
  intro before after holds succeeded
  cases reached : first before with
  | mk fits middle =>
    cases fits with
    | false =>
      simp only [reached] at succeeded
      cases succeeded
    | true =>
      simp only [reached] at succeeded
      obtain ⟨middleHolds, middleWidens, firstAgain⟩ := firstStable before middle holds reached
      obtain ⟨afterHolds, afterWidens, secondAgain⟩ :=
        secondStable middle after middleHolds succeeded
      refine ⟨afterHolds, .trans holds middleHolds afterHolds middleWidens afterWidens, ?_⟩
      intro later laterHolds laterWidens
      have widened : middle.Widens later :=
        .trans middleHolds afterHolds laterHolds afterWidens laterWidens
      obtain ⟨firstRun, firstFits⟩ := firstAgain later laterHolds widened
      obtain ⟨secondRun, secondFits⟩ := secondAgain later laterHolds laterWidens
      simp [firstRun, secondRun, firstFits, secondFits]

/-- Matching a variable is stable: the type fits the value that is stored, and so every wider
one. -/
theorem stable_bindVar (name : String) {actual : Ty} (value : actual.IsValue applied) :
    Stable applied (fun subst => subst.bindVar name actual)
      fun subst => actual.isSubtype (subst.apply (.typeVar name)) := by
  intro before after holds succeeded
  -- it is enough that the type fits the value which the variable has in the end
  have again : ∀ bound, after.find? name = some bound → bound.IsValue applied →
      actual.isSubtype bound = true → ∀ later, later.Holds (Ty.IsValue applied) →
        after.Widens later → later.bindVar name actual = (true, later) ∧
          actual.isSubtype (later.apply (.typeVar name)) = true := by
    intro bound found boundValue fits later laterHolds widens
    obtain ⟨wider, laterFound, boundFits⟩ := widens name bound found
    have fitsWider : actual.isSubtype wider = true :=
      value.isSubtype_trans boundValue (laterHolds name wider laterFound) fits boundFits
    exact ⟨by simp [bindVar, laterFound, fitsWider], by simp [apply, laterFound, fitsWider]⟩
  have stored : NameMap.find? (before.insert name actual) name = some actual := by
    simp [NameMap.find?_insert]
  simp only [bindVar] at succeeded
  split at succeeded
  · rename_i unbound
    cases succeeded
    refine ⟨holds.insert name value, widens_insert (by simp [unbound]), ?_⟩
    exact again actual stored value (Ty.isSubtype_refl actual)
  · rename_i bound found
    split at succeeded
    · rename_i fits
      cases succeeded
      exact ⟨holds, .refl before, again bound found (holds name bound found) fits⟩
    · split at succeeded
      · rename_i wider
        cases succeeded
        refine ⟨holds.insert name value, widens_insert ?_, ?_⟩
        · intro other same
          rw [found] at same
          cases same
          exact wider
        · exact again actual stored value (Ty.isSubtype_refl actual)
      · cases succeeded

/-- A pair of regular types that is not opened is left to the subtype test. -/
theorem bind_of_isRegular (subst : Substitution) {pattern actual : Ty}
    (patternRegular : pattern.isRegular applied = true)
    (actualRegular : actual.isRegular applied = true) (unopened : pattern.opens actual = false) :
    subst.bind pattern actual = (actual.isSubtype pattern, subst) := by
  rw [bind.eq_def]
  split
  case h_1 | h_2 | h_6 => cases patternRegular
  case h_3 | h_4 => cases actualRegular
  case h_5 => simp
  case h_13 => rfl
  all_goals simp [Ty.opens] at unopened

/-- Types that fit by parts are opened. -/
theorem opens_of_fitsByParts {pattern actual : Ty} (parts : actual.FitsByParts pattern) :
    pattern.opens actual = true := by
  cases parts <;> rfl

/-- A pair of regular types that is not opened fits only if the pattern has nothing inside that a
substitution could replace, or there is no value to fit. -/
theorem stable_of_not_opens {pattern actual : Ty}
    (patternRegular : pattern.isRegular applied = true)
    (actualRegular : actual.isRegular applied = true) (unopened : pattern.opens actual = false) :
    Stable applied (fun subst => subst.bind pattern actual)
      fun subst => actual.isSubtype (subst.apply pattern) := by
  have patternFirm := (Bool.and_eq_true_iff.mp patternRegular).2
  have actualFirm := (Bool.and_eq_true_iff.mp actualRegular).2
  have patternSingle : ∀ members, pattern ≠ .union members := by
    rintro members rfl
    cases patternRegular
  have actualSingle : ∀ members, actual ≠ .union members := by
    rintro members rfl
    cases actualRegular
  have justified : actual.isSubtype pattern = true →
      ∀ later : Substitution, actual.isSubtype (later.apply pattern) = true := by
    intro fits later
    rcases Ty.isSubtype_cases actualFirm patternFirm actualSingle patternSingle fits with
      rfl | rfl | widened | rfl | parts
    · exact Ty.never_isSubtype _
    · have unchanged : later.apply actual = actual := by
        cases actual
        case list | tuple | dict | generic => simp [Ty.opens] at unopened
        case union | typeVar | callable | overloaded => cases actualRegular
        all_goals simp [apply]
      rw [unchanged]
      exact fits
    · have unchanged : later.apply pattern = pattern := by
        rw [Ty.isWidened_iff] at widened
        rcases widened with ⟨_, rfl⟩ | ⟨_, rfl⟩ | ⟨_, rfl⟩ <;> simp [apply]
      rw [unchanged]
      exact fits
    · simpa [apply] using fits
    · rw [opens_of_fitsByParts parts] at unopened
      cases unopened
  simp only [bind_of_isRegular _ patternRegular actualRegular unopened]
  exact stable_answer justified

mutual

/-- Matching a first-order type with a first-order pattern is stable, and it is sound for the values
under which the type fits what the pattern stands for. -/
theorem stable_bind :
    (pattern : Ty) → pattern.IsPattern applied → (actual : Ty) → actual.IsValue applied →
      Stable applied (fun subst => subst.bind pattern actual)
        fun subst => actual.isSubtype (subst.apply pattern)
  | .any, regular, _, _ | .placeholder _, regular, _, _ | .union _, regular, _, _
  | .callable _, regular, _, _ | .overloaded _, regular, _, _ => by
    cases regular.root rfl
  | .never, regular, _, value | .none, regular, _, value | .bool, regular, _, value
  | .int, regular, _, value | .float, regular, _, value | .str, regular, _, value
  | .bytes, regular, _, value | .named _, regular, _, value =>
    stable_of_not_opens (regular.root rfl) value.root rfl
  | .typeVar name, _, actual, value => by
    simp only [bind]
    exact stable_bindVar name value
  | .list pattern, regular, actual, value => by
    cases actual with
    | list actual =>
      have inside := stable_bind pattern (regular.component (by simp [Ty.components])) actual
        (value.component (by simp [Ty.components]))
      simpa only [bind_list, apply, Ty.list_isSubtype_list] using inside
    | _ => exact stable_of_not_opens (regular.root rfl) value.root rfl
  | .dict patternKey patternValue, regular, actual, value => by
    cases actual with
    | dict key item =>
      have keys := stable_bind patternKey (regular.component (by simp [Ty.components])) key
        (value.component (by simp [Ty.components]))
      have items := stable_bind patternValue (regular.component (by simp [Ty.components])) item
        (value.component (by simp [Ty.components]))
      simp only [bind_dict, apply, Ty.dict_isSubtype_dict]
      exact keys.andThen items
    | _ => exact stable_of_not_opens (regular.root rfl) value.root rfl
  | .tuple patterns, regular, actual, value => by
    cases actual with
    | tuple actuals =>
      simp only [bind_tuple, apply, Ty.tuple_isSubtype_tuple]
      split
      · rename_i sameLength
        exact stable_bindAll patterns (fun _ member => regular.component member) actuals
          (fun _ member => value.component member) sameLength
      · exact stable_answer (by simp)
    | _ => exact stable_of_not_opens (regular.root rfl) value.root rfl
  | .generic patternName patterns, regular, actual, value => by
    cases actual with
    | generic name actuals =>
      have data := (Bool.and_eq_true_iff.mp (regular.root rfl)).1
      have ordinary : (patternName == kindName) = false := by
        simpa using (Bool.and_eq_true_iff.mp data).1
      simp only [bind_generic _ name patterns actuals ordinary, apply, ordinary,
        Bool.false_eq_true, if_false, Ty.generic_isSubtype_generic]
      split
      · rename_i alike
        rw [alike.1, beq_self_eq_true]
        simp only [Bool.true_and]
        exact stable_bindAll patterns (fun _ member => regular.component member) actuals
          (fun _ member => value.component member) alike.2
      · exact stable_answer (by simp)
    | _ => exact stable_of_not_opens (regular.root rfl) value.root rfl

/-- The same of as many first-order types as there are patterns. -/
theorem stable_bindAll :
    (patterns : List Ty) → (∀ pattern ∈ patterns, pattern.IsPattern applied) →
      (actuals : List Ty) → (∀ actual ∈ actuals, actual.IsValue applied) →
      patterns.length = actuals.length →
      Stable applied (fun subst => subst.bindAll patterns actuals)
        fun subst => Ty.allSubtypes actuals (subst.applyList patterns)
  | [], _, [], _, _ => by
    simp only [bindAll, applyList, Ty.allSubtypes]
    exact stable_answer (by simp)
  | pattern :: patterns, regular, actual :: actuals, each, sameLength => by
    rw [List.forall_mem_cons] at regular each
    have first := stable_bind pattern regular.1 actual each.1
    have rest := stable_bindAll patterns regular.2 actuals each.2 (by simpa using sameLength)
    simp only [bindAll, applyList, Ty.allSubtypes]
    exact first.andThen rest

end

/-- A successful match of a first-order type with a first-order pattern. All values stay first-order
and only get wider, the type fits what the pattern stands for in the end, and matching once more
succeeds and changes nothing. -/
theorem match_sound_and_stable {subst after : Substitution} {pattern actual : Ty}
    (patternOrder : pattern.isFirstOrderPattern = true) (actualOrder : actual.isFirstOrder = true)
    (valueOrder : ∀ ty ∈ subst.values, ty.isFirstOrder = true)
    (apart : Ty.namesApart (pattern :: actual :: subst.values) = true)
    (matched : subst.bind pattern actual = (true, after)) :
    ((∀ ty ∈ after.values, ty.isFirstOrder = true) ∧
        Ty.namesApart (pattern :: actual :: after.values) = true) ∧
      (∀ name ty, subst.find? name = some ty →
        ∃ wider, after.find? name = some wider ∧ ty.isSubtype wider = true) ∧
      actual.isSubtype (after.apply pattern) = true ∧
      after.bind pattern actual = (true, after) := by
  have patternRegular := Ty.isPattern_of_isFirstOrder (by simp) patternOrder apart
  have actualValue := Ty.isValue_of_isFirstOrder (by simp) actualOrder apart
  have holds : subst.Holds (Ty.IsValue fun name =>
      (pattern :: actual :: subst.values).any (Ty.applies name)) := by
    intro name ty found
    have member : ty ∈ subst.values := mem_values.mpr ⟨name, found⟩
    exact Ty.isValue_of_isFirstOrder (by simp [member]) (valueOrder ty member) apart
  obtain ⟨afterHolds, widens, again⟩ :=
    stable_bind pattern patternRegular actual actualValue subst after holds matched
  obtain ⟨rematched, fits⟩ := again after afterHolds (.refl after)
  refine ⟨⟨?_, ?_⟩, widens, fits, rematched⟩
  · intro ty member
    obtain ⟨name, found⟩ := mem_values.mp member
    exact (afterHolds name ty found).isFirstOrder
  · apply Ty.namesApart_of_isPattern
    intro ty member
    rcases List.mem_cons.mp member with rfl | member
    · exact patternRegular
    rcases List.mem_cons.mp member with rfl | member
    · exact actualValue.isPattern
    · obtain ⟨name, found⟩ := mem_values.mp member
      exact (afterHolds name ty found).isPattern

/-- A variable stands for truth values, is widened to integers inside a box and then to
floating-point numbers behind it. The box of integers fits all the same, and nothing is left to
learn. -/
theorem match_sound_and_stable_of_box :
    bind ⟨[("T", .bool)]⟩ (.tuple [.generic "Box" [.typeVar "T"], .typeVar "T", .named "Item"])
        (.tuple [.generic "Box" [.int], .float, .named "Item"]) = (true, ⟨[("T", .float)]⟩) ∧
      (Ty.tuple [.generic "Box" [.int], .float, .named "Item"]).isSubtype
        (apply ⟨[("T", .float)]⟩
          (.tuple [.generic "Box" [.typeVar "T"], .typeVar "T", .named "Item"])) = true ∧
      bind ⟨[("T", .float)]⟩ (.tuple [.generic "Box" [.typeVar "T"], .typeVar "T", .named "Item"])
        (.tuple [.generic "Box" [.int], .float, .named "Item"]) = (true, ⟨[("T", .float)]⟩) := by
  have reached : (bind ⟨[("T", .bool)]⟩
      (.tuple [.generic "Box" [.typeVar "T"], .typeVar "T", .named "Item"])
      (.tuple [.generic "Box" [.int], .float, .named "Item"])).2.entries = [("T", .float)] := by
    decide +kernel
  have matched : bind ⟨[("T", .bool)]⟩
      (.tuple [.generic "Box" [.typeVar "T"], .typeVar "T", .named "Item"])
      (.tuple [.generic "Box" [.int], .float, .named "Item"]) = (true, ⟨[("T", .float)]⟩) :=
    Prod.ext (by decide +kernel) (congrArg NameMap.mk reached)
  have stable := match_sound_and_stable (by decide) (by decide) (by decide) (by decide) matched
  exact ⟨matched, stable.2.2.1, stable.2.2.2⟩

end Substitution

end Callwise
