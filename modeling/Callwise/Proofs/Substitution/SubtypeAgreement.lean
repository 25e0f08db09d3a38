import Callwise.Proofs.Substitution.ClosedPattern
import Mathlib

/-!
# Where matching and subtyping agree

Arguments of calls are matched with parameter types; assigned values are compared by the subtype
test. For a pattern that has nothing to bind one expects the same answer from both. They differ in
signatures. The subtype test turns around at parameters: a function fits if it takes at least what
is asked for. The match does not turn around, counts the required parameters of the given function
without regard to their places, and never lets a star parameter of the pattern stand for further
arguments. Unions and overloaded patterns are handed to the subtype test as a whole, so the
difference shows only at signatures that the match opens.

The main statement says for which patterns the two agree on every type: those in which each opened
signature takes any arguments at all or no positional ones, so that results alone are compared. It
also says that no other type than one with a callable inside can tell the two apart.
-/

namespace Callwise

/-- The signature takes any arguments, or none by position. -/
def Signature.leavesPlacesOpen (signature : Signature) : Bool :=
  signature.isEllipsis || (signature.positionals.isEmpty && signature.star?.isNone)

mutual

/-- Wherever a match opens a signature of the pattern, nothing but results is compared. -/
def Ty.comparesResults : Ty → Bool
  | .list item => item.comparesResults
  | .dict key value => key.comparesResults && value.comparesResults
  | .tuple items => Ty.allCompareResults items
  | .generic _ args => Ty.allCompareResults args
  | .callable signature => signature.comparesResults
  | _ => true

/-- The same of several patterns. -/
def Ty.allCompareResults : List Ty → Bool
  | [] => true
  | first :: rest => first.comparesResults && Ty.allCompareResults rest

/-- The signature takes any arguments or no positional ones, and the same holds of what is opened
in its result. -/
def Signature.comparesResults : Signature → Bool
  | ⟨params, ret⟩ => (Signature.mk params ret).leavesPlacesOpen && ret.comparesResults

end

/-- The type is not called through signatures. -/
def Ty.hasNoSignature : Ty → Bool
  | .callable _ | .overloaded _ => false
  | _ => true

/-- Nothing inside the type is called through signatures. -/
def Ty.isCallableFree (ty : Ty) : Bool := ty.everywhere Ty.hasNoSignature

namespace Signature

/-- If the list of positional parameters is empty, no parameter is positional. -/
theorem names_only {signature : Signature} (noPositionals : signature.positionals = []) :
    ∀ param ∈ signature.params, param.kind.isPositional = false := by
  intro param member
  have outside := List.filter_eq_nil_iff.mp noPositionals param member
  simpa using outside

/-- If all parameters are positional, they are the positional parameters. -/
theorem positionals_eq_params {signature : Signature}
    (positional : ∀ param ∈ signature.params, param.kind.isPositional = true) :
    signature.positionals = signature.params := by
  rw [positionals, List.filter_eq_self]
  exact positional

/-- A signature with positional parameters of the given kinds that says nothing about types. -/
def untyped (kinds : List ParamKind) : Signature :=
  ⟨kinds.map fun kind => ⟨none, kind, .any⟩, .any⟩

section

variable {kinds : List ParamKind} (positional : ∀ kind ∈ kinds, kind.isPositional = true)
include positional

/-- All its parameters are positional. -/
theorem untyped_positionals :
    (untyped kinds).positionals = kinds.map fun kind => ⟨none, kind, .any⟩ := by
  apply positionals_eq_params
  simpa [untyped] using positional

/-- It does not take any arguments at all. -/
theorem untyped_isEllipsis : (untyped kinds).isEllipsis = false := by
  apply isEllipsis_eq_false
  intro param member
  obtain ⟨kind, within, rfl⟩ := List.mem_map.mp member
  exact ParamKind.isVariadic_of_isPositional (positional kind within)

/-- Each of its places receives `Any`. -/
theorem untyped_slot? {index : Nat} (inside : index < kinds.length) :
    (untyped kinds).slot? index = some .any := by
  simp [slot?, untyped_positionals positional, List.getElem?_eq_getElem inside]

/-- It requires an argument from some place on if a required parameter stands there. -/
theorem untyped_requiresFrom (index : Nat) :
    (untyped kinds).requiresFrom index = (kinds.drop index).any (· == .positional) := by
  rw [requiresFrom, untyped_positionals positional, ← List.map_drop, List.any_map]
  rfl

/-- It may be called wherever the other may if no required parameter of it stands behind the
other's positional ones, or if the other has a star parameter. -/
theorem untyped_isSubtype {sup : Signature} (ordinary : sup.isEllipsis = false)
    (longEnough : sup.positionals.length ≤ kinds.length) :
    (untyped kinds).isSubtype sup =
      (!((kinds.drop sup.positionals.length).any (· == .positional)) || sup.star?.isSome) := by
  rw [Bool.eq_iff_iff, isSubtype_iff, untyped_requiresFrom positional,
    untyped_isEllipsis positional, ordinary]
  have received : ∀ param index, (param, index) ∈ sup.positionals.zipIdx →
      ∃ received, (untyped kinds).slot? index = some received ∧
        param.ty.isSubtype received = true := by
    intro param index member
    have inside : index < sup.positionals.length := (List.mem_zipIdx' member).1
    exact ⟨.any, untyped_slot? positional (by omega), Ty.isSubtype_any _⟩
  simp only [Bool.or_eq_true, Bool.not_eq_true', Bool.false_eq_true, false_or]
  exact ⟨fun both => both.2.1, fun fits => ⟨Ty.any_isSubtype _, fits, received⟩⟩

end

end Signature

namespace Substitution

variable {pattern : Signature}

/-! ### Agreement -/

/-- Where no positional parameter stands, the parameters match at once. -/
theorem bindParams_names_only (subst : Substitution) {params : List Param}
    (namesOnly : ∀ param ∈ params, param.kind.isPositional = false) (index : Nat)
    (actual : Signature) : subst.bindParams params index actual = (true, subst) := by
  induction params with
  | nil => rfl
  | cons param params ih =>
    have first := namesOnly param List.mem_cons_self
    have rest := ih fun other member =>
      namesOnly other (List.mem_cons_of_mem param member)
    simp [bindParams, first, rest]

/-- Two signatures match as they compare if the pattern takes any arguments or none by position,
and the results match as they compare. -/
theorem bindSignature_eq_isSubtype (subst : Substitution) (actual : Signature)
    (placesOpen : pattern.leavesPlacesOpen = true)
    (results : subst.bind pattern.ret actual.ret = (actual.ret.isSubtype pattern.ret, subst)) :
    subst.bindSignature pattern actual = (actual.isSubtype pattern, subst) := by
  obtain ⟨params, ret⟩ := pattern
  simp only [Signature.leavesPlacesOpen, Bool.or_eq_true, Bool.and_eq_true, List.isEmpty_iff,
    Option.isNone_iff_eq_none] at placesOpen
  rw [bindSignature]
  by_cases ellipsis : (Signature.mk params ret).isEllipsis = true ∨ actual.isEllipsis = true
  · have compared : actual.isSubtype ⟨params, ret⟩ = actual.ret.isSubtype ret := by
      rw [Bool.eq_iff_iff, Signature.isSubtype_iff]
      exact ⟨fun both => both.1, fun fits => ⟨fits, by rcases ellipsis with h | h <;> simp [h]⟩⟩
    simp [ellipsis, compared, results]
  · obtain ⟨noPositionals, noStar⟩ : (Signature.mk params ret).positionals = [] ∧
        (Signature.mk params ret).star? = none :=
      placesOpen.resolve_left fun taken => ellipsis (.inl taken)
    have matched : subst.bindParams params 0 actual = (true, subst) :=
      bindParams_names_only subst (Signature.names_only noPositionals) 0 actual
    have compared : actual.isSubtype ⟨params, ret⟩ =
        (actual.ret.isSubtype ret && !actual.requiresFrom 0) := by
      rw [Bool.eq_iff_iff, Signature.isSubtype_iff]
      simp_all
    have counted : 0 < (actual.positionals.countP fun param => param.kind == .positional) ↔
        actual.requiresFrom 0 = true := by
      simp [Signature.requiresFrom, List.countP_pos_iff]
    by_cases required : actual.requiresFrom 0 = true
    · simp [ellipsis, noPositionals, counted, required, compared]
    · simp [ellipsis, noPositionals, counted, required, compared, matched, results]

mutual

/-- A closed pattern matches exactly its subtypes if it compares results only, or if the type that
is matched has nothing callable inside. Nothing is bound. -/
theorem bind_eq_isSubtype (subst : Substitution) :
    (pattern : Ty) → pattern.hasTypeVars = false → pattern.isKindFree = true → (actual : Ty) →
      (pattern.comparesResults = true ∨ actual.isCallableFree = true) →
      subst.bind pattern actual = (actual.isSubtype pattern, subst)
  | .any, closed, _, _, _ | .never, closed, _, _, _ | .none, closed, _, _, _
  | .bool, closed, _, _, _ | .int, closed, _, _, _ | .float, closed, _, _, _
  | .str, closed, _, _, _ | .bytes, closed, _, _, _ | .named _, closed, _, _, _
  | .placeholder _, closed, _, _, _ | .typeVar _, closed, _, _, _ | .union _, closed, _, _, _
  | .overloaded _, closed, _, _, _ => bind_of_not_opens subst closed rfl
  | .list pattern, closed, kindFree, actual, safe => by
    simp only [Ty.isKindFree, Ty.everywhere, Bool.and_eq_true] at kindFree
    cases actual with
    | list actual =>
      simp only [Ty.comparesResults, Ty.isCallableFree, Ty.everywhere, Ty.hasNoSignature,
        Bool.true_and] at safe
      rw [bind_list, Ty.list_isSubtype_list]
      exact bind_eq_isSubtype subst pattern closed kindFree.2 actual safe
    | _ => exact bind_of_not_opens subst closed rfl
  | .dict patternKey patternValue, closed, kindFree, actual, safe => by
    simp only [Ty.isKindFree, Ty.everywhere, Bool.and_eq_true] at kindFree
    cases actual with
    | dict key value =>
      simp only [Ty.hasTypeVars, Bool.or_eq_false_iff] at closed
      simp only [Ty.comparesResults, Ty.isCallableFree, Ty.everywhere, Ty.hasNoSignature,
        Bool.true_and, Bool.and_eq_true] at safe
      have keys := bind_eq_isSubtype subst patternKey closed.1 kindFree.2.1 key
        (safe.imp And.left And.left)
      have values := bind_eq_isSubtype subst patternValue closed.2 kindFree.2.2 value
        (safe.imp And.right And.right)
      rw [bind_dict, keys, Ty.dict_isSubtype_dict]
      cases fits : key.isSubtype patternKey <;> simp [values]
    | _ => exact bind_of_not_opens subst closed rfl
  | .tuple patterns, closed, kindFree, actual, safe => by
    simp only [Ty.isKindFree, Ty.everywhere, Bool.and_eq_true] at kindFree
    cases actual with
    | tuple actuals =>
      simp only [Ty.comparesResults, Ty.isCallableFree, Ty.everywhere, Ty.hasNoSignature,
        Bool.true_and] at safe
      rw [bind_tuple, Ty.tuple_isSubtype_tuple]
      split
      · rename_i sameLength
        exact bindAll_eq_allSubtypes subst patterns closed kindFree.2 actuals sameLength safe
      · rename_i different
        rw [Ty.allSubtypes_eq_false (Ne.symm different)]
    | _ => exact bind_of_not_opens subst closed rfl
  | .generic patternName patterns, closed, kindFree, actual, safe => by
    have ordinary : (Ty.generic patternName patterns).isKind = false := by
      simpa using Ty.everywhere_root kindFree
    simp only [Ty.isKindFree, Ty.everywhere, Bool.and_eq_true] at kindFree
    cases actual with
    | generic name actuals =>
      simp only [Ty.comparesResults, Ty.isCallableFree, Ty.everywhere, Ty.hasNoSignature,
        Bool.true_and] at safe
      rw [bind_generic subst name patterns actuals ordinary, Ty.generic_isSubtype_generic]
      by_cases sameName : patternName = name
      · subst sameName
        by_cases sameLength : patterns.length = actuals.length
        · simpa [sameLength] using
            bindAll_eq_allSubtypes subst patterns closed kindFree.2 actuals sameLength safe
        · simp [sameLength, Ty.allSubtypes_eq_false (Ne.symm sameLength)]
      · simp [sameName, Ne.symm sameName]
    | _ => exact bind_of_not_opens subst closed rfl
  | .callable pattern, closed, kindFree, actual, safe => by
    cases actual with
    | callable actual =>
      have resultsOnly : pattern.comparesResults = true := by
        simpa [Ty.comparesResults, Ty.isCallableFree, Ty.everywhere, Ty.hasNoSignature] using safe
      rw [bind_callable, Ty.callable_isSubtype_callable]
      exact bindClosedSignature subst pattern closed
        (by simpa [Ty.isKindFree, Ty.everywhere, Ty.isKind] using kindFree) actual resultsOnly
    | overloaded signatures =>
      have resultsOnly : pattern.comparesResults = true := by
        simpa [Ty.comparesResults, Ty.isCallableFree, Ty.everywhere, Ty.hasNoSignature] using safe
      have each : ∀ actual, subst.bindSignature pattern actual =
          (actual.isSubtype pattern, subst) := fun actual =>
        bindClosedSignature subst pattern closed
          (by simpa [Ty.isKindFree, Ty.everywhere, Ty.isKind] using kindFree) actual resultsOnly
      rw [bind_overloaded, Ty.overloaded_isSubtype_callable]
      exact firstSuccess_eq (fun actual started => started.bindSignature pattern actual)
        (fun actual => actual.isSubtype pattern) fun actual _ => each actual
    | _ => exact bind_of_not_opens subst closed rfl

/-- The same of lists of equal length. -/
theorem bindAll_eq_allSubtypes (subst : Substitution) :
    (patterns : List Ty) → Ty.anyHasTypeVars patterns = false →
      Ty.everywhereIn (fun part => !part.isKind) patterns = true → (actuals : List Ty) →
      patterns.length = actuals.length →
      (Ty.allCompareResults patterns = true ∨ Ty.everywhereIn Ty.hasNoSignature actuals = true) →
      subst.bindAll patterns actuals = (Ty.allSubtypes actuals patterns, subst)
  | [], _, _, [], _, _ => by simp [bindAll]
  | pattern :: patterns, closed, kindFree, actual :: actuals, sameLength, safe => by
    simp only [Ty.anyHasTypeVars, Bool.or_eq_false_iff] at closed
    simp only [Ty.everywhereIn, Ty.allCompareResults, Bool.and_eq_true] at kindFree safe
    have first := bind_eq_isSubtype subst pattern closed.1 kindFree.1 actual
      (safe.imp And.left And.left)
    have rest := bindAll_eq_allSubtypes subst patterns closed.2 kindFree.2 actuals
      (by simpa using sameLength) (safe.imp And.right And.right)
    rw [bindAll, first, Ty.allSubtypes]
    cases fits : actual.isSubtype pattern <;> simp [rest]

/-- The same of signatures, if the pattern compares results only. -/
theorem bindClosedSignature (subst : Substitution) :
    (pattern : Signature) → pattern.hasTypeVars = false →
      pattern.everywhere (fun part => !part.isKind) = true → (actual : Signature) →
      pattern.comparesResults = true →
      subst.bindSignature pattern actual = (actual.isSubtype pattern, subst)
  | ⟨params, ret⟩, closed, kindFree, actual, resultsOnly => by
    simp only [Signature.hasTypeVars, Bool.or_eq_false_iff] at closed
    simp only [Signature.everywhere, Bool.and_eq_true] at kindFree
    simp only [Signature.comparesResults, Bool.and_eq_true] at resultsOnly
    apply bindSignature_eq_isSubtype subst actual resultsOnly.1
    exact bind_eq_isSubtype subst ret closed.1 kindFree.2 actual.ret (.inl resultsOnly.2)

end

/-! ### Disagreement -/

/-- Whatever has been bound before, the match and the subtype test give opposite answers. -/
def Differ (pattern actual : Ty) : Prop :=
  ∀ subst : Substitution, (subst.bind pattern actual).1 = !actual.isSubtype pattern

/-- The same of two signatures. -/
def SignaturesDiffer (pattern actual : Signature) : Prop :=
  ∀ subst : Substitution, (subst.bindSignature pattern actual).1 = !actual.isSubtype pattern

/-- `Any` matches every closed pattern and binds nothing. -/
theorem bind_any (subst : Substitution) {pattern : Ty} (closed : pattern.hasTypeVars = false) :
    subst.bind pattern .any = (true, subst) := by
  have unopened : pattern.opens .any = false := by cases pattern <;> rfl
  rw [bind_of_not_opens subst closed unopened, Ty.any_isSubtype]

/-- So does a list of `Any` of the right length. -/
theorem bindAll_any (subst : Substitution) {patterns : List Ty}
    (closed : Ty.anyHasTypeVars patterns = false) :
    subst.bindAll patterns (List.replicate patterns.length .any) = (true, subst) := by
  induction patterns with
  | nil => rfl
  | cons pattern patterns ih =>
    simp only [Ty.anyHasTypeVars, Bool.or_eq_false_iff] at closed
    simp [List.replicate_succ, bindAll, bind_any subst closed.1, ih closed.2]

/-- And a list of `Any` fits every list of its length. -/
theorem allSubtypes_any (sups : List Ty) :
    Ty.allSubtypes (List.replicate sups.length .any) sups = true := by
  induction sups with
  | nil => simp
  | cons sup sups ih =>
    simp [List.replicate_succ, Ty.allSubtypes, ih]

/-- Closed parameters match wherever each of their places receives `Any`. -/
theorem bindParams_any (subst : Substitution) {params : List Param}
    (closed : Param.anyHasTypeVars params = false) (index : Nat) {actual : Signature}
    (untyped : ∀ place < index + params.countP (fun param => param.kind.isPositional),
      actual.slot? place = some .any) :
    subst.bindParams params index actual = (true, subst) := by
  induction params generalizing index with
  | nil => rfl
  | cons param params ih =>
    obtain ⟨name, kind, ty⟩ := param
    simp only [Param.anyHasTypeVars, Param.hasTypeVars, Bool.or_eq_false_iff] at closed
    rw [bindParams]
    by_cases positional : kind.isPositional = true
    · simp only [List.countP_cons, positional, if_true] at untyped
      have here : actual.slot? index = some .any := untyped index (by omega)
      have first : subst.bind ty .any = (true, subst) := bind_any subst closed.1
      have rest := ih closed.2 (index + 1) fun place before =>
        untyped place (by omega)
      simp [positional, here, bindParam, first, rest]
    · simp only [List.countP_cons, positional] at untyped
      have rest := ih closed.2 index fun place before =>
        untyped place (by simpa using before)
      simp [positional, rest]

/-- A closed pattern matches an untyped signature with enough places if that requires at most as
many arguments as the pattern has positional parameters, wherever the required ones stand. -/
theorem bindSignature_untyped (subst : Substitution) {kinds : List ParamKind}
    (positional : ∀ kind ∈ kinds, kind.isPositional = true) (closed : pattern.hasTypeVars = false)
    (ordinary : pattern.isEllipsis = false)
    (longEnough : pattern.positionals.length ≤ kinds.length) :
    subst.bindSignature pattern (.untyped kinds) =
      (decide (kinds.countP (· == .positional) ≤ pattern.positionals.length), subst) := by
  obtain ⟨params, ret⟩ := pattern
  simp only [Signature.hasTypeVars, Bool.or_eq_false_iff] at closed
  have formalCount : (params.countP fun param => param.kind.isPositional) =
      (Signature.mk params ret).positionals.length := List.countP_eq_length_filter
  have required : ((Signature.untyped kinds).positionals.countP fun param =>
      param.kind == .positional) = kinds.countP (· == .positional) := by
    rw [Signature.untyped_positionals positional, List.countP_map]
    rfl
  have given : (Signature.untyped kinds).positionals.length = kinds.length := by
    rw [Signature.untyped_positionals positional, List.length_map]
  have matched : subst.bindParams params 0 (.untyped kinds) = (true, subst) := by
    apply bindParams_any subst closed.2
    intro place inside
    exact Signature.untyped_slot? positional (by omega)
  have results : subst.bind ret (Signature.untyped kinds).ret = (true, subst) :=
    bind_any subst closed.1
  rw [bindSignature]
  simp only [ordinary, Signature.untyped_isEllipsis positional, required, given, matched, results]
  by_cases few : kinds.countP (· == .positional) ≤ (Signature.mk params ret).positionals.length
  · have notMany : ¬(Signature.mk params ret).positionals.length <
        kinds.countP (· == .positional) := by omega
    have notShort : ¬kinds.length < (Signature.mk params ret).positionals.length := by omega
    simp [few, notMany, notShort]
  · have many : (Signature.mk params ret).positionals.length <
        kinds.countP (· == .positional) := by omega
    simp [few, many]

/-- A closed pattern with a star parameter refuses an untyped signature that requires one argument
more than the pattern has positional parameters. To the subtype test the star parameter stands for
the further argument. -/
theorem differ_of_star (closed : pattern.hasTypeVars = false)
    (ordinary : pattern.isEllipsis = false) (star : pattern.star?.isSome = true) :
    SignaturesDiffer pattern
      (.untyped (List.replicate (pattern.positionals.length + 1) .positional)) := by
  intro subst
  have positional : ∀ kind ∈ List.replicate (pattern.positionals.length + 1)
      ParamKind.positional, kind.isPositional = true := by
    simp [ParamKind.isPositional]
  rw [bindSignature_untyped subst positional closed ordinary (by simp),
    Signature.untyped_isSubtype positional ordinary (by simp)]
  simp [List.countP_replicate, star]

/-- A closed pattern with positional parameters and without a star parameter matches an untyped
signature in which a required parameter stands behind as many optional ones as the pattern has
positional parameters. To the subtype test that parameter is left empty. -/
theorem differ_of_positional (closed : pattern.hasTypeVars = false)
    (ordinary : pattern.isEllipsis = false) (noStar : pattern.star? = none)
    (taken : pattern.positionals ≠ []) :
    SignaturesDiffer pattern
      (.untyped (List.replicate pattern.positionals.length .optional ++ [.positional])) := by
  intro subst
  have positional : ∀ kind ∈ List.replicate pattern.positionals.length ParamKind.optional ++
      [.positional], kind.isPositional = true := by
    intro kind member
    rcases List.mem_append.mp member with early | last
    · rw [List.eq_of_mem_replicate early]
      rfl
    · rw [List.mem_singleton.mp last]
      rfl
  have oneAllowed : 1 ≤ pattern.positionals.length := List.length_pos_iff.mpr taken
  rw [bindSignature_untyped subst positional closed ordinary (by simp),
    Signature.untyped_isSubtype positional ordinary (by simp)]
  simp [List.countP_replicate, noStar, oneAllowed]

/-- A difference in the results shows in signatures without parameters if the pattern takes any
arguments or none by position. -/
theorem differ_of_results {ret : Ty} (placesOpen : pattern.leavesPlacesOpen = true)
    (results : Differ pattern.ret ret) :
    SignaturesDiffer pattern ⟨[], ret⟩ := by
  intro subst
  obtain ⟨params, patternRet⟩ := pattern
  simp only [Signature.leavesPlacesOpen, Bool.or_eq_true, Bool.and_eq_true, List.isEmpty_iff]
    at placesOpen
  have noneRequired : (Signature.mk [] ret).requiresFrom 0 = false := rfl
  have noneGiven : (Signature.mk [] ret).positionals = [] := rfl
  have compared : (Signature.mk [] ret).isSubtype ⟨params, patternRet⟩ =
      ret.isSubtype patternRet := by
    rw [Bool.eq_iff_iff, Signature.isSubtype_iff]
    rcases placesOpen with ellipsis | ⟨noPositionals, _⟩
    · simp [ellipsis]
    · simp [noPositionals, noneRequired]
  rw [compared, ← results subst, bindSignature]
  rcases placesOpen with ellipsis | ⟨noPositionals, _⟩
  · simp [ellipsis]
  · have matched : subst.bindParams params 0 ⟨[], ret⟩ = (true, subst) :=
      bindParams_names_only subst (Signature.names_only noPositionals) 0 _
    simp [noPositionals, noneGiven, matched]

mutual

/-- A closed pattern that compares more than results is told apart by some type. The difference
sits at one signature; everything beside it is `Any`, which matches and fits. -/
theorem exists_differ :
    (pattern : Ty) → pattern.hasTypeVars = false → pattern.isKindFree = true →
      pattern.comparesResults = false → ∃ actual, Differ pattern actual
  | .list pattern, closed, kindFree, compares => by
    simp only [Ty.isKindFree, Ty.everywhere, Bool.and_eq_true] at kindFree
    obtain ⟨actual, differ⟩ := exists_differ pattern closed kindFree.2 compares
    exact ⟨.list actual, fun subst => by simpa [bind_list] using differ subst⟩
  | .dict patternKey patternValue, closed, kindFree, compares => by
    simp only [Ty.isKindFree, Ty.everywhere, Bool.and_eq_true] at kindFree
    simp only [Ty.hasTypeVars, Bool.or_eq_false_iff] at closed
    simp only [Ty.comparesResults, Bool.and_eq_false_iff] at compares
    rcases compares with keyCompares | valueCompares
    · obtain ⟨key, differ⟩ := exists_differ patternKey closed.1 kindFree.2.1 keyCompares
      refine ⟨.dict key .any, fun subst => ?_⟩
      rw [bind_dict, bind_closed subst key closed.1 kindFree.2.1, Ty.dict_isSubtype_dict]
      have answer := differ empty
      cases fits : key.isSubtype patternKey <;> simp [answer, fits, bind_any subst closed.2]
    · obtain ⟨value, differ⟩ := exists_differ patternValue closed.2 kindFree.2.2 valueCompares
      refine ⟨.dict .any value, fun subst => ?_⟩
      simpa [bind_dict, bind_any subst closed.1] using differ subst
  | .tuple patterns, closed, kindFree, compares => by
    simp only [Ty.isKindFree, Ty.everywhere, Bool.and_eq_true] at kindFree
    obtain ⟨actuals, sameLength, differ⟩ :=
      exists_differ_list patterns closed kindFree.2 compares
    exact ⟨.tuple actuals, fun subst => by simpa [bind_tuple, sameLength] using differ subst⟩
  | .generic name patterns, closed, kindFree, compares => by
    have ordinary : (Ty.generic name patterns).isKind = false := by
      simpa using Ty.everywhere_root kindFree
    simp only [Ty.isKindFree, Ty.everywhere, Bool.and_eq_true] at kindFree
    obtain ⟨actuals, sameLength, differ⟩ :=
      exists_differ_list patterns closed kindFree.2 compares
    refine ⟨.generic name actuals, fun subst => ?_⟩
    simpa [bind_generic subst name patterns actuals ordinary, sameLength] using differ subst
  | .callable pattern, closed, kindFree, compares => by
    simp only [Ty.isKindFree, Ty.everywhere, Bool.and_eq_true] at kindFree
    obtain ⟨actual, differ⟩ := exists_signaturesDiffer pattern closed kindFree.2 compares
    exact ⟨.callable actual, fun subst => by simpa [bind_callable] using differ subst⟩

/-- The same of lists: some list of the same length tells a list of patterns apart. -/
theorem exists_differ_list :
    (patterns : List Ty) → Ty.anyHasTypeVars patterns = false →
      Ty.everywhereIn (fun part => !part.isKind) patterns = true →
      Ty.allCompareResults patterns = false →
      ∃ actuals, patterns.length = actuals.length ∧ ∀ subst : Substitution,
        (subst.bindAll patterns actuals).1 = !Ty.allSubtypes actuals patterns
  | pattern :: patterns, closed, kindFree, compares => by
    simp only [Ty.anyHasTypeVars, Bool.or_eq_false_iff] at closed
    simp only [Ty.everywhereIn, Bool.and_eq_true] at kindFree
    simp only [Ty.allCompareResults, Bool.and_eq_false_iff] at compares
    rcases compares with firstCompares | restCompares
    · obtain ⟨actual, differ⟩ := exists_differ pattern closed.1 kindFree.1 firstCompares
      refine ⟨actual :: List.replicate patterns.length .any, by simp, fun subst => ?_⟩
      rw [bindAll, bind_closed subst actual closed.1 kindFree.1, Ty.allSubtypes, allSubtypes_any]
      have answer := differ empty
      cases fits : actual.isSubtype pattern <;> simp [answer, fits, bindAll_any subst closed.2]
    · obtain ⟨actuals, sameLength, differ⟩ :=
        exists_differ_list patterns closed.2 kindFree.2 restCompares
      refine ⟨.any :: actuals, by simp [sameLength], fun subst => ?_⟩
      simpa [bindAll, bind_any subst closed.1, Ty.allSubtypes] using differ subst

/-- The same of signatures: the difference is in the number of arguments if the pattern takes some
by position, and otherwise in the result. -/
theorem exists_signaturesDiffer :
    (pattern : Signature) → pattern.hasTypeVars = false →
      pattern.everywhere (fun part => !part.isKind) = true →
      pattern.comparesResults = false → ∃ actual, SignaturesDiffer pattern actual
  | ⟨params, ret⟩, closed, kindFree, compares => by
    by_cases placesOpen : (Signature.mk params ret).leavesPlacesOpen = true
    · simp only [Signature.hasTypeVars, Bool.or_eq_false_iff] at closed
      simp only [Signature.everywhere, Bool.and_eq_true] at kindFree
      simp only [Signature.comparesResults, placesOpen, Bool.true_and] at compares
      obtain ⟨actual, differ⟩ := exists_differ ret closed.1 kindFree.2 compares
      exact ⟨⟨[], actual⟩, differ_of_results placesOpen differ⟩
    · simp only [Signature.leavesPlacesOpen, Bool.or_eq_true, Bool.and_eq_true, List.isEmpty_iff,
        Option.isNone_iff_eq_none, not_or, Bool.not_eq_true] at placesOpen
      obtain ⟨ordinary, someTaken⟩ := placesOpen
      cases star : (Signature.mk params ret).star? with
      | some found => exact ⟨_, differ_of_star closed ordinary (by simp [star])⟩
      | none =>
        exact ⟨_, differ_of_positional closed ordinary star fun none => someTaken ⟨none, star⟩⟩

end

/-- A match with a pattern that has neither type variables nor containers passed as types leaves
the substitution as it is. It accepts exactly the subtypes among the types with nothing callable
inside. It accepts exactly the subtypes among all types if and only if each signature that it opens
in the pattern takes any arguments or none by position; for every other pattern there is a type on
which the two answers are opposite. -/
theorem bind_iff_isSubtype_iff_comparesResults (pattern : Ty)
    (closed : pattern.hasTypeVars = false) (kindFree : pattern.isKindFree = true) :
    (∀ (subst : Substitution) (actual : Ty), (subst.bind pattern actual).2 = subst) ∧
      (∀ (subst : Substitution) (actual : Ty), actual.isCallableFree = true →
        ((subst.bind pattern actual).1 = true ↔ actual.isSubtype pattern = true)) ∧
      ((∀ (subst : Substitution) (actual : Ty),
          ((subst.bind pattern actual).1 = true ↔ actual.isSubtype pattern = true)) ↔
        pattern.comparesResults = true) := by
  have agree : ∀ (subst : Substitution) (actual : Ty),
      (pattern.comparesResults = true ∨ actual.isCallableFree = true) →
      ((subst.bind pattern actual).1 = true ↔ actual.isSubtype pattern = true) := by
    intro subst actual safe
    rw [bind_eq_isSubtype subst pattern closed kindFree actual safe]
  refine ⟨?_, ?_, ?_, ?_⟩
  · intro subst actual
    rw [bind_closed subst actual closed kindFree]
  · intro subst actual callableFree
    exact agree subst actual (.inr callableFree)
  · intro everywhere
    by_cases compares : pattern.comparesResults = true
    · exact compares
    · obtain ⟨actual, differ⟩ := exists_differ pattern closed kindFree (by simpa using compares)
      have opposite := differ empty
      have same := everywhere empty actual
      cases fits : actual.isSubtype pattern <;> simp [opposite, fits] at same
  · intro compares subst actual
    exact agree subst actual (.inl compares)

/-- A dictionary of callbacks with any arguments has nothing to bind and compares results only, so
it matches exactly its subtypes. -/
theorem callbacks_match_subtypes :
    (Ty.dict .str (.callable (.ellipsis .int))).hasTypeVars = false ∧
      (Ty.dict .str (.callable (.ellipsis .int))).isKindFree = true ∧
      ∀ (subst : Substitution) (actual : Ty),
        ((subst.bind (.dict .str (.callable (.ellipsis .int))) actual).1 = true ↔
          actual.isSubtype (.dict .str (.callable (.ellipsis .int))) = true) := by
  refine ⟨by decide, by decide, ?_⟩
  exact (bind_iff_isSubtype_iff_comparesResults _ (by decide) (by decide)).2.2.mpr (by decide)

/-- A function that takes integers matches where one that takes floating-point numbers is asked
for, although it is no subtype: it may be called with a number that it does not take. -/
theorem narrower_callback_matches :
    (empty.bind (.callable (.ofTypes [.float] .int)) (.callable (.ofTypes [.int] .int))).1 = true ∧
      (Ty.callable (.ofTypes [.int] .int)).isSubtype (.callable (.ofTypes [.float] .int)) =
        false := by
  constructor
  · cbv
  · cbv

end Substitution

end Callwise
