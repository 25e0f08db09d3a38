import Callwise.Proofs.Substitution.Stability
import Callwise.Proofs.Ty.Subtyping

/-!
# Matching a pattern that has nothing to bind

A pattern with neither type variables nor containers passed as types cannot learn anything from a
match. Then the answer does not depend on the substitution, and the substitution is returned as it
came, whether the match succeeds or fails.

Such a match looks at the parts of the two types only for some pairs of constructors; every other
pair is handed to the subtype test as a whole. `Ty.opens` lists the pairs that are opened.
-/

namespace Callwise

/-- The match goes on with the parts of the two types. -/
def Ty.opens : (pattern actual : Ty) → Bool
  | .list _, .list _ | .dict _ _, .dict _ _ | .tuple _, .tuple _ | .generic _ _, .generic _ _
  | .callable _, .callable _ | .callable _, .overloaded _ => true
  | _, _ => false

namespace Substitution

/-- There is nothing to fill in for a type without variables. -/
theorem fillAny_closed (subst : Substitution) {ty : Ty} (closed : ty.hasTypeVars = false) :
    subst.fillAny ty.freeTypeVars = subst := by
  simp [Ty.freeTypeVars_eq_nil closed, fillAny]

/-- A pair that is not opened is decided by the subtype test, and nothing is bound. The cases that
the match decides earlier, for `Any`, placeholders and `Never`, are subtypes too. -/
theorem bind_of_not_opens (subst : Substitution) {pattern actual : Ty}
    (closed : pattern.hasTypeVars = false) (unopened : pattern.opens actual = false) :
    subst.bind pattern actual = (actual.isSubtype pattern, subst) := by
  have filled : subst.fillAny pattern.freeTypeVars = subst := fillAny_closed subst closed
  rw [bind.eq_def]
  split
  case h_1 => simp [Ty.hasTypeVars] at closed
  case h_2 => simp
  case h_3 => simp [filled]
  case h_4 => simp [filled]
  case h_5 => simp
  case h_6 members _ _ _ =>
    have closedMembers : members.filter Ty.hasTypeVars = [] := by
      simpa [Ty.hasTypeVars, Ty.anyHasTypeVars_eq_false_iff, List.filter_eq_nil_iff] using closed
    simp [closedMembers]
  case h_13 => rfl
  all_goals simp [Ty.opens] at unopened

/-- Two lists are matched by their items. -/
theorem bind_list (subst : Substitution) (pattern actual : Ty) :
    subst.bind (.list pattern) (.list actual) = subst.bind pattern actual := by
  simp [bind]

/-- Two dictionaries are matched by their keys and then, if these fit, by their values. -/
theorem bind_dict (subst : Substitution) (patternKey patternValue key value : Ty) :
    subst.bind (.dict patternKey patternValue) (.dict key value) =
      match subst.bind patternKey key with
      | (true, extended) => extended.bind patternValue value
      | failed => failed := by
  rfl

/-- Two tuples of the same length are matched item by item. -/
theorem bind_tuple (subst : Substitution) (patterns actuals : List Ty) :
    subst.bind (.tuple patterns) (.tuple actuals) =
      if patterns.length = actuals.length then subst.bindAll patterns actuals
      else (false, subst) := by
  simp [bind]

/-- Two applied named types of the same name and number of arguments are matched argument by
argument. -/
theorem bind_generic (subst : Substitution) {patternName : String} (name : String)
    (patterns actuals : List Ty) (ordinary : (Ty.generic patternName patterns).isKind = false) :
    subst.bind (.generic patternName patterns) (.generic name actuals) =
      if patternName = name ∧ patterns.length = actuals.length then
        subst.bindAll patterns actuals
      else (false, subst) := by
  have notKind : (patternName == kindName) = false := ordinary
  simp [bind, notKind]

/-- Two callable types are matched by their signatures. -/
theorem bind_callable (subst : Substitution) (pattern actual : Signature) :
    subst.bind (.callable pattern) (.callable actual) = subst.bindSignature pattern actual := by
  simp [bind]

/-- An overloaded type is matched by its first signature that fits, and what the others would have
bound is forgotten. -/
theorem bind_overloaded (subst : Substitution) (pattern : Signature)
    (signatures : List Signature) :
    subst.bind (.callable pattern) (.overloaded signatures) =
      match signatures.findSome? fun actual =>
        match subst.bindSignature pattern actual with
        | (true, extended) => some extended
        | _ => none with
      | some extended => (true, extended)
      | none => (false, subst) := by
  rfl

/-! ### The answer does not depend on the substitution -/

/-- The run gives one answer for all substitutions and returns each of them as it came. -/
def Steady (run : Substitution → Bool × Substitution) : Prop :=
  ∃ fits, ∀ subst, run subst = (fits, subst)

/-- A run that answers at once is steady. -/
theorem steady_answer (fits : Bool) : Steady fun subst => (fits, subst) :=
  ⟨fits, fun _ => rfl⟩

/-- A steady run followed, if it succeeds, by another is steady: it succeeds if both do. -/
theorem Steady.andThen {first second : Substitution → Bool × Substitution}
    (firstSteady : Steady first) (secondSteady : Steady second) :
    Steady fun subst =>
      match first subst with
      | (true, extended) => second extended
      | failed => failed := by
  obtain ⟨firstFits, firstRun⟩ := firstSteady
  obtain ⟨secondFits, secondRun⟩ := secondSteady
  refine ⟨firstFits && secondFits, ?_⟩
  intro subst
  cases firstFits <;> simp [firstRun, secondRun]

/-- Trying runs one after another up to the first success binds nothing if none of them does, and
succeeds if one of them does. -/
theorem firstSuccess_eq {α : Type} (run : α → Substitution → Bool × Substitution)
    (fits : α → Bool) {subst : Substitution} {candidates : List α}
    (answers : ∀ candidate ∈ candidates, run candidate subst = (fits candidate, subst)) :
    (match candidates.findSome? fun candidate =>
        match run candidate subst with
        | (true, extended) => some extended
        | _ => none with
      | some extended => (true, extended)
      | none => (false, subst)) = (candidates.any fits, subst) := by
  induction candidates with
  | nil => rfl
  | cons candidate rest ih =>
    have answer := answers candidate List.mem_cons_self
    have restAnswers := ih fun other member =>
      answers other (List.mem_cons_of_mem candidate member)
    cases fit : fits candidate with
    | true => simp [answer, fit]
    | false => simpa [answer, fit] using restAnswers

/-- Trying steady runs one after another up to the first success is steady. -/
theorem steady_firstSuccess {α : Type} {run : α → Substitution → Bool × Substitution}
    {candidates : List α} (steady : ∀ candidate ∈ candidates, Steady (run candidate)) :
    Steady fun subst =>
      match candidates.findSome? fun candidate =>
        match run candidate subst with
        | (true, extended) => some extended
        | _ => none with
      | some extended => (true, extended)
      | none => (false, subst) := by
  refine ⟨candidates.any fun candidate => (run candidate empty).1, fun subst => ?_⟩
  apply firstSuccess_eq run
  intro candidate member
  obtain ⟨fits, answer⟩ := steady candidate member
  rw [answer subst, answer empty]

/-- A pair that is not opened is steady. -/
theorem steady_of_not_opens {pattern actual : Ty} (closed : pattern.hasTypeVars = false)
    (unopened : pattern.opens actual = false) : Steady fun subst => subst.bind pattern actual :=
  ⟨actual.isSubtype pattern, fun subst => bind_of_not_opens subst closed unopened⟩

mutual

/-- Matching a pattern with neither variables nor containers passed as types gives one answer for
all substitutions and binds nothing. The recursion is that of the match itself; where the pair of
types is not opened, the subtype test gives the answer. -/
theorem steady_bind :
    (pattern : Ty) → pattern.hasTypeVars = false → pattern.isKindFree = true → (actual : Ty) →
      Steady fun subst => subst.bind pattern actual
  | .any, closed, _, _ | .never, closed, _, _ | .none, closed, _, _ | .bool, closed, _, _
  | .int, closed, _, _ | .float, closed, _, _ | .str, closed, _, _ | .bytes, closed, _, _
  | .named _, closed, _, _ | .placeholder _, closed, _, _ | .typeVar _, closed, _, _
  | .union _, closed, _, _ | .overloaded _, closed, _, _ => steady_of_not_opens closed rfl
  | .list pattern, closed, kindFree, actual => by
    simp only [Ty.isKindFree, Ty.everywhere, Bool.and_eq_true] at kindFree
    cases actual with
    | list actual =>
      simp only [bind_list]
      exact steady_bind pattern closed kindFree.2 actual
    | _ => exact steady_of_not_opens closed rfl
  | .dict patternKey patternValue, closed, kindFree, actual => by
    simp only [Ty.isKindFree, Ty.everywhere, Bool.and_eq_true] at kindFree
    cases actual with
    | dict key value =>
      simp only [Ty.hasTypeVars, Bool.or_eq_false_iff] at closed
      simp only [bind_dict]
      exact (steady_bind patternKey closed.1 kindFree.2.1 key).andThen
        (steady_bind patternValue closed.2 kindFree.2.2 value)
    | _ => exact steady_of_not_opens closed rfl
  | .tuple patterns, closed, kindFree, actual => by
    simp only [Ty.isKindFree, Ty.everywhere, Bool.and_eq_true] at kindFree
    cases actual with
    | tuple actuals =>
      simp only [bind_tuple]
      split
      · exact steady_bindAll patterns closed kindFree.2 actuals
      · exact steady_answer false
    | _ => exact steady_of_not_opens closed rfl
  | .generic patternName patterns, closed, kindFree, actual => by
    have ordinary : (Ty.generic patternName patterns).isKind = false := by
      simpa using Ty.everywhere_root kindFree
    simp only [Ty.isKindFree, Ty.everywhere, Bool.and_eq_true] at kindFree
    cases actual with
    | generic name actuals =>
      simp only [bind_generic _ name patterns actuals ordinary]
      split
      · exact steady_bindAll patterns closed kindFree.2 actuals
      · exact steady_answer false
    | _ => exact steady_of_not_opens closed rfl
  | .callable pattern, closed, kindFree, actual => by
    simp only [Ty.isKindFree, Ty.everywhere, Bool.and_eq_true] at kindFree
    cases actual with
    | callable actual =>
      simp only [bind_callable]
      exact steady_bindSignature pattern closed kindFree.2 actual
    | overloaded signatures =>
      simp only [bind_overloaded]
      exact steady_firstSuccess fun actual _ =>
        steady_bindSignature pattern closed kindFree.2 actual
    | _ => exact steady_of_not_opens closed rfl

/-- The same of matching several types. -/
theorem steady_bindAll :
    (patterns : List Ty) → Ty.anyHasTypeVars patterns = false →
      Ty.everywhereIn (fun part => !part.isKind) patterns = true → (actuals : List Ty) →
      Steady fun subst => subst.bindAll patterns actuals
  | [], _, _, _ => steady_answer true
  | _ :: _, _, _, [] => steady_answer true
  | pattern :: patterns, closed, kindFree, actual :: actuals => by
    simp only [Ty.anyHasTypeVars, Bool.or_eq_false_iff] at closed
    simp only [Ty.everywhereIn, Bool.and_eq_true] at kindFree
    exact (steady_bind pattern closed.1 kindFree.1 actual).andThen
      (steady_bindAll patterns closed.2 kindFree.2 actuals)

/-- The same of matching two signatures. -/
theorem steady_bindSignature :
    (pattern : Signature) → pattern.hasTypeVars = false →
      pattern.everywhere (fun part => !part.isKind) = true → (actual : Signature) →
      Steady fun subst => subst.bindSignature pattern actual
  | ⟨params, ret⟩, closed, kindFree, actual => by
    simp only [Signature.hasTypeVars, Bool.or_eq_false_iff] at closed
    simp only [Signature.everywhere, Bool.and_eq_true] at kindFree
    have results : Steady fun subst => subst.bind ret actual.ret :=
      steady_bind ret closed.1 kindFree.2 actual.ret
    simp only [bindSignature]
    split
    · exact results
    · split
      · exact steady_answer false
      · exact (steady_bindParams params closed.2 kindFree.1 0 actual).andThen results

/-- The same of matching the positional parameters. -/
theorem steady_bindParams :
    (params : List Param) → Param.anyHasTypeVars params = false →
      Param.everywhereIn (fun part => !part.isKind) params = true → (index : Nat) →
      (actual : Signature) → Steady fun subst => subst.bindParams params index actual
  | [], _, _, _, _ => steady_answer true
  | param :: params, closed, kindFree, index, actual => by
    simp only [Param.anyHasTypeVars, Bool.or_eq_false_iff] at closed
    simp only [Param.everywhereIn, Bool.and_eq_true] at kindFree
    simp only [bindParams]
    split
    · split
      · rename_i received _
        exact (steady_bindParam param closed.1 kindFree.1 received).andThen
          (steady_bindParams params closed.2 kindFree.2 (index + 1) actual)
      · exact steady_answer false
    · exact steady_bindParams params closed.2 kindFree.2 index actual

/-- The same of matching a parameter's type. -/
theorem steady_bindParam :
    (param : Param) → param.hasTypeVars = false →
      param.everywhere (fun part => !part.isKind) = true → (actual : Ty) →
      Steady fun subst => subst.bindParam param actual
  | ⟨_, _, ty⟩, closed, kindFree, actual => steady_bind ty closed kindFree actual

end

/-- The answer for any substitution is the answer for the one without bindings. -/
theorem bind_closed (subst : Substitution) {pattern : Ty} (actual : Ty)
    (closed : pattern.hasTypeVars = false) (kindFree : pattern.isKindFree = true) :
    subst.bind pattern actual = ((empty.bind pattern actual).1, subst) := by
  obtain ⟨fits, answer⟩ := steady_bind pattern closed kindFree actual
  have here : subst.bind pattern actual = (fits, subst) := answer subst
  have atStart : empty.bind pattern actual = (fits, empty) := answer empty
  rw [here, atStart]

mutual

/-- A pattern with nothing to bind fits itself. -/
theorem bind_self (subst : Substitution) :
    (ty : Ty) → ty.hasTypeVars = false → ty.isKindFree = true → subst.bind ty ty = (true, subst)
  | .any, closed, _ | .never, closed, _ | .none, closed, _ | .bool, closed, _ | .int, closed, _
  | .float, closed, _ | .str, closed, _ | .bytes, closed, _ | .named _, closed, _
  | .placeholder _, closed, _ | .typeVar _, closed, _ | .union _, closed, _
  | .overloaded _, closed, _ => by
    rw [bind_of_not_opens subst closed rfl, Ty.isSubtype_refl]
  | .list item, closed, kindFree => by
    simp only [Ty.isKindFree, Ty.everywhere, Bool.and_eq_true] at kindFree
    rw [bind_list, bind_self subst item closed kindFree.2]
  | .dict key value, closed, kindFree => by
    simp only [Ty.hasTypeVars, Bool.or_eq_false_iff] at closed
    simp only [Ty.isKindFree, Ty.everywhere, Bool.and_eq_true] at kindFree
    simp only [bind_dict, bind_self subst key closed.1 kindFree.2.1,
      bind_self subst value closed.2 kindFree.2.2]
  | .tuple items, closed, kindFree => by
    simp only [Ty.isKindFree, Ty.everywhere, Bool.and_eq_true] at kindFree
    rw [bind_tuple, if_pos rfl, bindAll_self subst items closed kindFree.2]
  | .generic name args, closed, kindFree => by
    have ordinary : (Ty.generic name args).isKind = false := by
      simpa using Ty.everywhere_root kindFree
    simp only [Ty.isKindFree, Ty.everywhere, Bool.and_eq_true] at kindFree
    rw [bind_generic _ name args args ordinary, if_pos ⟨rfl, rfl⟩,
      bindAll_self subst args closed kindFree.2]
  | .callable signature, closed, kindFree => by
    simp only [Ty.isKindFree, Ty.everywhere, Bool.and_eq_true] at kindFree
    rw [bind_callable, bindSignature_self subst signature closed kindFree.2]

/-- The same of several patterns. -/
theorem bindAll_self (subst : Substitution) :
    (types : List Ty) → Ty.anyHasTypeVars types = false →
      Ty.everywhereIn (fun part => !part.isKind) types = true →
      subst.bindAll types types = (true, subst)
  | [], _, _ => rfl
  | ty :: types, closed, kindFree => by
    simp only [Ty.anyHasTypeVars, Bool.or_eq_false_iff] at closed
    simp only [Ty.everywhereIn, Bool.and_eq_true] at kindFree
    simp only [bindAll, bind_self subst ty closed.1 kindFree.1,
      bindAll_self subst types closed.2 kindFree.2]

/-- The same of a signature. It has enough parameters for its own, and each is received at its own
place. -/
theorem bindSignature_self (subst : Substitution) :
    (signature : Signature) → signature.hasTypeVars = false →
      signature.everywhere (fun part => !part.isKind) = true →
      subst.bindSignature signature signature = (true, subst)
  | ⟨params, ret⟩, closed, kindFree => by
    simp only [Signature.hasTypeVars, Bool.or_eq_false_iff] at closed
    simp only [Signature.everywhere, Bool.and_eq_true] at kindFree
    have enough := List.countP_le_length (l := (Signature.mk params ret).positionals)
      (p := fun param => param.kind == .positional)
    have places := bindParams_self subst params closed.2 kindFree.1 0 ⟨params, ret⟩
      fun param index member => Signature.slot?_of_mem_zipIdx member
    simp only [bindSignature, places, bind_self subst ret closed.1 kindFree.2]
    simp [Nat.not_lt.mpr enough]

/-- Parameters fit a signature that receives each at its own place. -/
theorem bindParams_self (subst : Substitution) :
    (params : List Param) → Param.anyHasTypeVars params = false →
      Param.everywhereIn (fun part => !part.isKind) params = true → (start : Nat) →
      (actual : Signature) →
      (∀ param index, (param, index) ∈
        (params.filter fun param => param.kind.isPositional).zipIdx start →
          actual.slot? index = some param.ty) →
      subst.bindParams params start actual = (true, subst)
  | [], _, _, _, _, _ => rfl
  | ⟨name, kind, ty⟩ :: params, closed, kindFree, start, actual, received => by
    simp only [Param.anyHasTypeVars, Bool.or_eq_false_iff] at closed
    simp only [Param.everywhereIn, Bool.and_eq_true] at kindFree
    by_cases positional : kind.isPositional = true
    · have here : actual.slot? start = some ty := received ⟨name, kind, ty⟩ start (by
        simp [positional])
      have rest := bindParams_self subst params closed.2 kindFree.2 (start + 1) actual
        fun param index member => received param index (by
          simp [positional, member])
      have first : subst.bindParam ⟨name, kind, ty⟩ ty = (true, subst) :=
        bind_self subst ty closed.1 kindFree.1
      simp only [bindParams, positional, here, first, rest, if_true]
    · have rest := bindParams_self subst params closed.2 kindFree.2 start actual
        fun param index member => received param index (by simpa [positional] using member)
      simp only [bindParams, positional, rest]
      rfl

end

end Substitution

end Callwise
