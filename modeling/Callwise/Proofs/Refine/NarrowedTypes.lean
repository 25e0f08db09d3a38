import Callwise.Proofs.Call.FirstArgument
import Callwise.Proofs.Module.BundledSignatures
import Callwise.Proofs.Refine.CurriedCalls
import Callwise.Proofs.Substitution.Inheritance
import Callwise.Proofs.Substitution.Instances

/-!
# Strategies narrow the types of calls

A strategy is asked about a call that the bundled signature of its function has accepted. If the
function passed first is plain, the strategy answers with a type that fits the type of the call
without it, or reports an error: it never takes back what the signature promises.

Most bundled signatures promise `Callable[..., R]`, so that only results have to be compared. The
strategies keep the result of the passed function, replace variables in it or wrap it in the same
way as the signature. A function over containers keeps the variables that the call without
refinement erases; there parameters matter too, and the comparison goes against the erasure.
-/

namespace Callwise

/-! ### Promises about results only -/

/-- A signature fits one with any parameters if the results fit. -/
theorem Signature.isSubtype_of_isEllipsis {sub sup : Signature} (anything : sup.isEllipsis = true)
    (ret : sub.ret.isSubtype sup.ret = true) : sub.isSubtype sup = true :=
  (Signature.isSubtype_iff sub sup).mpr ⟨ret, .inr (.inl anything)⟩

/-- `Callable[..., ret]` takes any parameters. -/
theorem Signature.isEllipsis_ellipsis (ret : Ty) : (Signature.ellipsis ret).isEllipsis = true := rfl

/-- A callable type fits `Callable[..., ret]` if its result fits. -/
theorem Ty.callable_isSubtype_ellipsis {signature : Signature} {ret : Ty}
    (fits : signature.ret.isSubtype ret = true) :
    (Ty.callable signature).isSubtype (.callable (.ellipsis ret)) = true := by
  rw [Ty.callable_isSubtype_callable]
  exact Signature.isSubtype_of_isEllipsis (Signature.isEllipsis_ellipsis ret) fits

section

variable {context : CallContext} {function : Signature} {ret ty : Ty}
  (promised : context.defaultType = .callable (.ellipsis ret))
  (first : context.arg? 0 = some (.callable function))

include promised first

/-- A decorator answers with the promised result. -/
theorem Decorator.isSubtype_of_analyze (refined : Decorator.analyze context = .ok ty) :
    ty.isSubtype context.defaultType = true := by
  simp only [Decorator.analyze, promised, first, Except.ok.injEq] at refined
  rw [← refined, promised]
  exact Ty.callable_isSubtype_ellipsis (Ty.isSubtype_refl ret)

/-- Currying answers with the result of the function: directly, or through the grouping with all
parameters in one group. -/
theorem Curry.isSubtype_of_analyze (fits : function.ret.isSubtype ret = true)
    (refined : Curry.analyze context = .ok ty) : ty.isSubtype context.defaultType = true := by
  have kept : (Ty.callable function).isSubtype context.defaultType = true := by
    rw [promised]
    exact Ty.callable_isSubtype_ellipsis fits
  simp only [Curry.analyze, first, Curry.curried] at refined
  split at refined
  · cases refined
    exact kept
  · split at refined
    · cases refined
    · split at refined
      · cases refined
        exact kept
      · rename_i several
        split at refined
        · cases refined
          exact Ty.isSubtype_refl _
        · cases refined
          rw [promised, Ty.overloaded_isSubtype_callable, List.any_map, List.any_eq_true]
          refine ⟨[function.params.length], ?_, ?_⟩
          · apply List.mem_of_mem_head?
            rw [Curry.head?_groupings, if_neg (by omega)]
            rfl
          · exact Signature.isSubtype_of_isEllipsis (Signature.isEllipsis_ellipsis ret) fits

/-- Partial application answers with an instance of the function's result. -/
theorem PartialCall.isSubtype_of_analyze
    (fits : ∀ subst : Substitution, (subst.apply function.ret).isSubtype ret = true)
    (kept : function.ret.isSubtype ret = true)
    (refined : PartialCall.analyze context = .ok ty) : ty.isSubtype context.defaultType = true := by
  unfold PartialCall.analyze at refined
  rw [first] at refined
  cases readOff : PartialCall.Given.ofContext? context with
  | none =>
    simp only [readOff, Except.ok.injEq] at refined
    rw [← refined]
    exact Ty.isSubtype_refl _
  | some given =>
    simp only [readOff, PartialCall.Given.apply] at refined
    rw [promised]
    split at refined
    · cases refined
      exact Ty.callable_isSubtype_ellipsis kept
    · cases positions : PartialCall.fillPositions context function.params given.positional 2
          .empty with
      | error diagnostic => simp [positions, bind, Except.bind, Except.map] at refined
      | ok placed =>
        cases names : PartialCall.fillNames context function given.keywords
            (given.positional.length + 2) placed.1 placed.2 with
        | error diagnostic => simp [positions, names, bind, Except.bind, Except.map] at refined
        | ok filled =>
          simp only [positions, names, bind, Except.bind, Except.map, Except.ok.injEq] at refined
          rw [← refined]
          exact Ty.callable_isSubtype_ellipsis (fits filled.2)

end

/-! ### What the signatures promise -/

namespace Substitution

/-- Applying goes into the result of `Callable[..., ret]`. -/
theorem apply_callable_ellipsis (subst : Substitution) (ret : Ty) :
    subst.apply (.callable (.ellipsis ret)) = .callable (.ellipsis (subst.apply ret)) := by
  simp [Signature.ellipsis, apply, applySignature, applyParams, applyParam]

/-- Instantiating goes into the result of `Callable[..., ret]`. -/
theorem instantiate_callable_ellipsis (subst : Substitution) (declared : Signature) (ret : Ty) :
    subst.instantiate declared (.callable (.ellipsis ret)) =
      .callable (.ellipsis (subst.instantiate declared ret)) := by
  simp only [instantiate, apply_callable_ellipsis]

/-- The only variable of a signature is replaced by its value, if that is plain. -/
theorem instantiate_single {declared : Signature} {var : String} {subst : Substitution} {value : Ty}
    (single : declared.freeTypeVars = [var]) (bound : subst.find? var = some value)
    (plain : value.isPlain = true) : subst.instantiate declared (.typeVar var) = value := by
  have nothingOpen : (declared.freeTypeVars.filter fun name => !subst.contains name) = [] := by
    simp [single, NameMap.contains, bound]
  simp only [instantiate, nothingOpen, apply, bound, Option.getD_some]
  exact empty_apply_of_isPlain plain

/-- A function that is passed for `Callable[..., var]` gives its result to the variable; something
unknown gives `Any`. -/
theorem bind_callable_ellipsis {var : String} {found : Ty} {function : Signature}
    {subst : Substitution} (passed : found = .callable function ∨ found = .any)
    (bound : empty.bind (.callable (.ellipsis (.typeVar var))) found = (true, subst)) :
    subst.find? var = some function.ret ∨ subst.find? var = some .any := by
  have unbound : empty.find? var = none := rfl
  rcases passed with rfl | rfl
  · left
    have stored : empty.insert var function.ret = subst := by
      simpa [bind_callable, bindSignature, bind, bindVar, unbound, Signature.ellipsis,
        Signature.isEllipsis] using bound
    simp [← stored, NameMap.find?_insert]
  · right
    have occurring : (Ty.callable (.ellipsis (.typeVar var))).freeTypeVars = [var] := by
      simp [Ty.freeTypeVars, Signature.ellipsis, Ty.typeVarOccurrences,
        Signature.typeVarOccurrences, Param.typeVarOccurrencesIn, Param.typeVarOccurrences,
        List.eraseDups_cons]
    have stored : empty.insert var .any = subst := by
      simpa [bind, occurring, fillAny, NameMap.insertIfNew, NameMap.contains, unbound] using bound
    simp [← stored, NameMap.find?_insert]

/-- A variable becomes a plain type if all values are plain, and stays plain without a value. -/
theorem isPlain_apply_typeVar {subst : Substitution}
    (plain : subst.Holds fun ty => ty.isPlain = true) (name : String) :
    (subst.apply (.typeVar name)).isPlain = true := by
  rw [apply]
  cases found : subst.find? name with
  | none => rfl
  | some value => exact plain name value found

/-- Applying to a signature with unnamed parameters. -/
theorem apply_ofTypes (subst : Substitution) (types : List Ty) (ret : Ty) :
    subst.apply (.callable (.ofTypes types ret)) =
      .callable (.ofTypes (types.map subst.apply) (subst.apply ret)) := by
  simp [Signature.ofTypes, apply, applySignature, applyParams_eq_map, applyParam]

end Substitution

/-! ### Functions over containers -/

namespace Bundled

/-- The variables for the kind of a container and for its further arguments. -/
def kindVars : List String := ["_Kind", "_SecondType", "_ThirdType"]

/-- A container of which nothing is left open but the items. -/
def closedContainer (item : Ty) : Ty := .generic kindName [.never, item, .never, .never]

/-- A container stays one of any kind as long as its kind is not solved. -/
theorem apply_containerOf {subst : Substitution}
    (unsolved : ∀ var ∈ kindVars, subst.find? var = none) (item : Ty) :
    subst.apply (containerOf item) = containerOf (subst.apply item) := by
  simp only [kindVars, List.forall_mem_cons] at unsolved
  obtain ⟨kind, second, third, _⟩ := unsolved
  simp [containerOf, Substitution.apply, Substitution.applyList, kind, second, third, Ty.ofKind]

/-- Erasing closes a container. -/
theorem erasing_containerOf {vars : List String} (erased : ∀ var ∈ kindVars, var ∈ vars)
    (item : Ty) :
    (Substitution.erasing vars).apply (containerOf item) =
      closedContainer ((Substitution.erasing vars).apply item) := by
  simp only [kindVars, List.forall_mem_cons] at erased
  obtain ⟨kind, second, third, _⟩ := erased
  simp [containerOf, closedContainer, Substitution.apply, Substitution.applyList,
    Substitution.find?_erasing, kind, second, third, Ty.ofKind]

/-- A container of any kind fits a closed one, and is fitted by it, as the items do. -/
theorem containerOf_isSubtype_closedContainer {item closed : Ty}
    (fits : item.isSubtype closed = true) :
    (containerOf item).isSubtype (closedContainer closed) = true := by
  have unsolved : ∀ name, (Ty.typeVar name).isSubtype .never = true :=
    fun name => Ty.isSubtype_of_flexible rfl .never
  simp [containerOf, closedContainer, Ty.generic_isSubtype_generic, Ty.allSubtypes, fits, unsolved]

theorem closedContainer_isSubtype_containerOf {item closed : Ty}
    (fits : closed.isSubtype item = true) :
    (closedContainer closed).isSubtype (containerOf item) = true := by
  simp [containerOf, closedContainer, Ty.generic_isSubtype_generic, Ty.allSubtypes, fits]

/-- Functions over containers are compared by their items. -/
theorem mapped_isSubtype {taken given takenClosed givenClosed : Ty}
    (items : takenClosed.isSubtype taken = true) (results : given.isSubtype givenClosed = true) :
    (Ty.callable (.ofTypes [containerOf taken] (containerOf given))).isSubtype
      (.callable (.ofTypes [closedContainer takenClosed] (closedContainer givenClosed))) =
        true := by
  rw [Ty.callable_isSubtype_callable]
  apply Signature.isSubtype_of_positionalTypes
  · exact containerOf_isSubtype_closedContainer results
  · simp [Signature.positionalTypes, Signature.positionals, Signature.ofTypes,
      ParamKind.isPositional, Ty.allSubtypes, closedContainer_isSubtype_containerOf items]

/-- Matching a mapped function does not solve the kind of the containers. -/
theorem unsolved_of_bind {found : Ty} {subst : Substitution}
    (bound : Substitution.empty.bind mappedFunction found = (true, subst)) :
    ∀ var ∈ kindVars, subst.find? var = none := by
  intro var listed
  have foreign : var ∉ mappedFunction.typeVarOccurrences := by
    revert var
    decide
  have same := Substitution.empty.find?_bind found foreign
  rw [bound] at same
  exact same

/-- A plain function gives plain types to the variables of a mapped function. -/
theorem holds_isPlain_of_bind {function : Signature} {subst : Substitution}
    (plain : (Ty.callable function).isPlain = true)
    (bound : Substitution.empty.bind mappedFunction (.callable function) = (true, subst)) :
    Substitution.Holds (fun ty => ty.isPlain = true) subst := by
  let kept : Ty → Prop := fun ty => ty.isPlain = true
  have parts : function.All kept := by
    have inside : ∀ part ∈ function.components, kept part :=
      fun part member => Ty.isPlain_component plain member
    rwa [Signature.components, List.forall_mem_cons, List.forall_mem_map] at inside
  have respects : Substitution.Moves kept ["_FirstType", "_UpdatedType"]
      fun before after => before.Holds kept → after.Holds kept := Substitution.moves_holds _
  have results : ∀ start : Substitution, start.Holds kept →
      (start.bind givenItem function.ret).2.Holds kept :=
    respects.bindVar (by decide) parts.1
  have items : ∀ received, function.slot? 0 = some received →
      ∀ start : Substitution, start.Holds kept → (start.bind takenItem received).2.Holds kept :=
    fun _ slot => respects.bindVar (by decide) (parts.slot slot)
  have reached : (Substitution.empty.bindSignature (.ofTypes [takenItem] givenItem) function).2 =
      subst := by
    rw [← Substitution.bind_callable, ← mappedFunction, bound]
  rw [← reached]
  simp only [Signature.ofTypes, List.map_cons, List.map_nil, Substitution.bindSignature]
  split
  · exact results _ Substitution.holds_empty
  · split
    · exact Substitution.holds_empty
    · refine respects.andThen ?_ results Substitution.holds_empty
      simp only [Substitution.bindParams, ParamKind.isPositional, if_true]
      split
      · rename_i received slot
        exact respects.andThen (items received slot _) respects.refl
      · exact respects.refl _

/-- Something unknown gives `Any` to the variables of a mapped function. -/
theorem apply_of_bind_any {subst : Substitution}
    (bound : Substitution.empty.bind mappedFunction .any = (true, subst)) :
    subst.apply takenItem = .any ∧ subst.apply givenItem = .any := by
  have reached : (Substitution.empty.bind mappedFunction .any).2 = subst := by rw [bound]
  rw [← reached]
  constructor <;> decide +kernel

/-- What a call of `map_` promises: a function over containers of which nothing is left open but
the items. -/
theorem instantiate_mapSignature {subst : Substitution}
    (unsolved : ∀ var ∈ kindVars, subst.find? var = none) :
    ∃ erased : Substitution, subst.instantiate mapSignature mapSignature.ret =
      .callable (.ofTypes [closedContainer (erased.apply (subst.apply takenItem))]
        (closedContainer (erased.apply (subst.apply givenItem)))) := by
  have declared : ∀ var ∈ kindVars, var ∈ mapSignature.freeTypeVars := by decide +kernel
  have ret : mapSignature.ret = .callable (.ofTypes [containerOf takenItem]
      (containerOf givenItem)) := rfl
  let vars := mapSignature.freeTypeVars.filter fun name => !subst.contains name
  have erased : ∀ var ∈ kindVars, var ∈ vars := by
    intro var listed
    exact List.mem_filter.mpr ⟨declared var listed, by simp [NameMap.contains, unsolved var listed]⟩
  refine ⟨.erasing vars, ?_⟩
  simp only [Substitution.instantiate, ret, Substitution.apply_ofTypes, List.map_cons,
    List.map_nil, apply_containerOf unsolved]
  rw [erasing_containerOf erased, erasing_containerOf erased]

end Bundled

/-- A function over containers keeps open what the call without refinement erases. -/
theorem Pointfree.isSubtype_of_analyze {context : CallContext} {function : Signature}
    (plain : (Ty.callable function).isPlain = true)
    (declared : context.callee = .callable Bundled.mapSignature)
    (first : context.arg? 0 = some (.callable function)) {found : Ty} {subst : Substitution}
    (passed : found = .callable function ∨ found = .any)
    (bound : Substitution.empty.bind Bundled.mappedFunction found = (true, subst))
    (promised : context.defaultType =
      subst.instantiate Bundled.mapSignature Bundled.mapSignature.ret) {ty : Ty}
    (refined : Pointfree.analyze context = .ok ty) : ty.isSubtype context.defaultType = true := by
  have param : Bundled.mapSignature.firstPositional? = some Bundled.mappedFunction := rfl
  have ret : Bundled.mapSignature.ret = .callable (.ofTypes [Bundled.containerOf Bundled.takenItem]
      (Bundled.containerOf Bundled.givenItem)) := rfl
  obtain ⟨erased, instantiated⟩ :=
    Bundled.instantiate_mapSignature (Bundled.unsolved_of_bind bound)
  simp only [Pointfree.analyze, CallContext.signature?, declared, Ty.signature?, first, param,
    Option.bind_eq_bind, Option.bind_some, Except.ok.injEq] at refined
  cases matched : Substitution.empty.bind Bundled.mappedFunction (.callable function) with
  | mk fits reached =>
    cases fits with
    | false =>
      simp only [matched, Option.getD_none] at refined
      rw [← refined]
      exact Ty.isSubtype_refl _
    | true =>
      simp only [matched, Option.getD_some, ret, Substitution.apply_ofTypes, List.map_cons,
        List.map_nil, Bundled.apply_containerOf (Bundled.unsolved_of_bind matched)] at refined
      rw [← refined, promised, instantiated]
      rcases passed with rfl | rfl
      · obtain rfl : reached = subst := by
          rw [matched] at bound
          exact (Prod.mk.inj bound).2
        have values := Bundled.holds_isPlain_of_bind plain matched
        have taken : (reached.apply Bundled.takenItem).isPlain = true :=
          Substitution.isPlain_apply_typeVar values _
        have given : (reached.apply Bundled.givenItem).isPlain = true :=
          Substitution.isPlain_apply_typeVar values _
        exact Bundled.mapped_isSubtype (erased.apply_interchangeable _ taken).1
          (erased.apply_interchangeable _ given).2
      · obtain ⟨taken, given⟩ := Bundled.apply_of_bind_any bound
        rw [taken, given]
        exact Bundled.mapped_isSubtype (Ty.any_isSubtype _) (Ty.isSubtype_any _)

/-! ### All bundled strategies -/

/-- What the bundled stubs declare functions with a strategy to be. -/
inductive Strategy.Declares : Strategy → Signature → Prop where
  | partialCall : Declares .partialCall Bundled.partialSignature
  | curry : Declares .curry Bundled.currySignature
  | flow : Declares .flow Bundled.flowSignature
  | pointfree : Declares .pointfree Bundled.mapSignature
  | decorators (taken given : Ty) : Declares .decorators (Bundled.decorator taken given)

/-- Each of the refined functions is declared in the form that its strategy is made for. -/
theorem Bundled.declares_of_mem :
    ∀ entry ∈ Bundled.declarations, entry.2.1.Declares entry.2.2 := by
  simp only [Bundled.declarations, List.forall_mem_cons]
  exact ⟨.partialCall, .curry, .flow, .pointfree, .decorators _ _, .decorators _ _,
    .decorators _ _, .decorators _ _, .decorators _ _, .decorators _ _, .decorators _ _,
    .decorators _ _, List.forall_mem_nil _⟩

/-- The bundled index declares every function for which the plugin has a strategy. -/
theorem Bundled.declares_of_registered {name : String} {strategy : Strategy}
    (registered : Plugin.returns.registry.find? name = some strategy) :
    ∃ declared, Bundled.index.find? name = some (.callable declared) ∧
      strategy.Declares declared := by
  have listed : (name, strategy) ∈ Plugin.returns.registry.hooks.entries := by
    obtain ⟨before, after, split, _⟩ := List.lookup_eq_some_iff.mp registered
    rw [split]
    simp
  rw [Bundled.hooks_returns, List.mem_map] at listed
  obtain ⟨⟨_, _, declared⟩, member, same⟩ := listed
  obtain ⟨rfl, rfl⟩ := Prod.mk.inj same
  refine ⟨declared, ?_, Bundled.declares_of_mem _ member⟩
  have found := List.all_eq_true.mp Bundled.find?_declarations _ member
  simpa using found

/-- A signature that turns `Callable[..., var]` into itself promises a result that takes whatever
the result of the function passed first takes: that result itself, or `Any`. -/
theorem Signature.promise_of_bind {declared : Signature} {var : String}
    (only : declared.freeTypeVars = [var])
    (ret : declared.ret = .callable (.ellipsis (.typeVar var))) {function : Signature}
    (plain : function.ret.isPlain = true) {found : Ty} {subst : Substitution}
    (passed : found = .callable function ∨ found = .any)
    (bound : Substitution.empty.bind (.callable (.ellipsis (.typeVar var))) found = (true, subst)) :
    ∃ promise, subst.instantiate declared declared.ret = .callable (.ellipsis promise) ∧
      ∀ other : Ty, other.isSubtype function.ret = true → other.isSubtype promise = true := by
  rw [ret, Substitution.instantiate_callable_ellipsis]
  refine ⟨_, rfl, ?_⟩
  intro other fits
  rcases Substitution.bind_callable_ellipsis passed bound with result | unknown
  · rwa [Substitution.instantiate_single only result plain]
  · rw [Substitution.instantiate_single only unknown rfl]
    exact Ty.isSubtype_any other

/-- A type that the strategy answers with fits the type of the call without refinement, for a call
that the declared signature accepts with one plain function as the first argument. -/
theorem Strategy.Declares.narrows {strategy : Strategy} {declared : Signature}
    (declares : strategy.Declares declared) {callee fullName file : String}
    {arguments : List Argument} {location : Location} {groups : List (List Nat)}
    {defaultType : Ty}
    (accepted : declared.bindCall callee arguments location = .ok (groups, defaultType))
    {function : Signature} (plain : (Ty.callable function).isPlain = true)
    (single : (Check.contextOf fullName ⟨declared, groups, defaultType⟩ arguments file
      location).args 0 = [.callable function]) {ty : Ty}
    (refined : strategy.analyze
      (Check.contextOf fullName ⟨declared, groups, defaultType⟩ arguments file location) = .ok ty) :
    ty.isSubtype defaultType = true := by
  let context := Check.contextOf fullName ⟨declared, groups, defaultType⟩ arguments file location
  have first : context.arg? 0 = some (.callable function) := by
    simp only [CallContext.arg?, context, single, List.head?_cons]
  have plainRet : function.ret.isPlain = true :=
    Ty.isPlain_component plain (by simp [Ty.components, Signature.components])
  cases declares with
  | partialCall =>
    have only : Bundled.partialSignature.freeTypeVars = ["_ReturnType"] := by decide +kernel
    obtain ⟨found, subst, passed, bound, given⟩ :=
      Signature.bindCall_of_first rfl (by simp) rfl accepted single
    obtain ⟨promise, promised, wider⟩ :=
      Signature.promise_of_bind only rfl plainRet passed bound
    have instances : ∀ later : Substitution, (later.apply function.ret).isSubtype promise = true :=
      fun later => wider _ (later.apply_interchangeable _ plainRet).1
    exact PartialCall.isSubtype_of_analyze (given.trans promised) first instances
      (wider _ (Ty.isSubtype_refl _)) refined
  | curry =>
    have only : Bundled.currySignature.freeTypeVars = ["_ReturnType"] := by decide +kernel
    obtain ⟨found, subst, passed, bound, given⟩ :=
      Signature.bindCall_of_first rfl (by simp) rfl accepted single
    obtain ⟨promise, promised, wider⟩ :=
      Signature.promise_of_bind only rfl plainRet passed bound
    exact Curry.isSubtype_of_analyze (given.trans promised) first (wider _ (Ty.isSubtype_refl _))
      refined
  | flow =>
    obtain ⟨_, subst, _, _, given⟩ :=
      Signature.bindCall_of_first rfl (by simp) rfl accepted single
    have promised : defaultType = .any := given
    rw [promised]
    exact Ty.isSubtype_any ty
  | pointfree =>
    obtain ⟨found, subst, passed, bound, given⟩ :=
      Signature.bindCall_of_first rfl (by simp) rfl accepted single
    exact Pointfree.isSubtype_of_analyze plain rfl first passed bound given refined
  | decorators taken given =>
    obtain ⟨found, subst, passed, bound, instantiated⟩ :=
      Signature.bindCall_of_first rfl (by simp) rfl accepted single
    have promised := instantiated.trans (Substitution.instantiate_callable_ellipsis subst _ given)
    exact Decorator.isSubtype_of_analyze promised first refined

/-- For a function that the plugin refines, the bundled modules declare a signature, and whenever
that signature accepts a call with one plain function as the first argument, a type that the
strategy answers with fits the type of the call without refinement. -/
theorem Strategy.narrows_of_registered {name : String} {strategy : Strategy}
    (registered : Plugin.returns.registry.find? name = some strategy) :
    ∃ declared, Bundled.index.find? name = some (.callable declared) ∧
      ∀ (callee : String) (arguments : List Argument) (file : String) (location : Location)
        (groups : List (List Nat)) (defaultType : Ty) (function : Signature) (ty : Ty),
        declared.bindCall callee arguments location = .ok (groups, defaultType) →
        (Check.contextOf name ⟨declared, groups, defaultType⟩ arguments file location).args 0 =
          [.callable function] →
        (Ty.callable function).isPlain = true →
        strategy.analyze
          (Check.contextOf name ⟨declared, groups, defaultType⟩ arguments file location) = .ok ty →
        ty.isSubtype defaultType = true := by
  obtain ⟨declared, found, declares⟩ := Bundled.declares_of_registered registered
  refine ⟨declared, found, ?_⟩
  intro callee arguments file location groups defaultType function ty accepted single plain refined
  exact declares.narrows accepted plain single refined

/-- A function from an item and a text to a list of items. -/
def Bundled.listingFunction : Signature :=
  ⟨[⟨some "item", .positional, .typeVar "T"⟩, ⟨some "text", .positional, .str⟩],
   .list (.typeVar "T")⟩

/-- Filling the item of such a function with a number leaves the text to be passed and gives a list
of numbers, which fits the list of anything that the signature of `partial` promises. -/
theorem Strategy.narrows_partial_of_listing :
    Plugin.returns.registry.find? "returns.curry.partial" = some .partialCall ∧
      (Ty.callable ⟨[⟨some "text", .positional, .str⟩], .list .int⟩).isSubtype
        (.callable (.ellipsis (.list (.typeVar "T")))) = true := by
  have registered :
      Plugin.returns.registry.find? "returns.curry.partial" = some .partialCall := by
    decide +kernel
  refine ⟨registered, ?_⟩
  obtain ⟨declared, found, narrows⟩ := Strategy.narrows_of_registered registered
  obtain rfl : declared = Bundled.partialSignature := by
    have bundled := List.all_eq_true.mp Bundled.find?_declarations
      ("returns.curry.partial", .partialCall, Bundled.partialSignature) List.mem_cons_self
    simpa [found] using bundled
  exact narrows "partial"
    [⟨.positional, none, .callable Bundled.listingFunction⟩, ⟨.positional, none, .int⟩] "" .nowhere
    [[0], [1], []] (.callable (.ellipsis (.list (.typeVar "T")))) Bundled.listingFunction
    (.callable ⟨[⟨some "text", .positional, .str⟩], .list .int⟩) rfl rfl rfl rfl

end Callwise
