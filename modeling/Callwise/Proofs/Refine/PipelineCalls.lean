import Callwise.Proofs.Call.OneArgument
import Callwise.Refine.Flow
import Mathlib

/-!
# A pipeline is a sequence of calls

`flow(value, f, g, ...)` does not call its functions by the rule for calls. It has a test of its own
for whether one positional argument is enough, its own choice of the parameter that takes it, and it
matches and instantiates by itself. This module shows that the outcome is the one of the calls
`f(value)`, `g(f(value))` and so on.

A call with one positional argument is complete if no parameter besides the one that takes it is
required. The test of a pipeline counts parameters instead. The two agree if required positional
parameters stand before optional ones, as they do in every definition of a function: with an
optional parameter in front, the argument would go there while the count is satisfied by a required
parameter behind.
-/

namespace Callwise

variable {signature : Signature}

/-- Required positional parameters stand before optional ones. -/
def Signature.RequiredFirst (signature : Signature) : Prop :=
  signature.params.Pairwise fun earlier later => earlier.kind = .optional → later.kind ≠ .positional

instance (signature : Signature) : Decidable signature.RequiredFirst :=
  inferInstanceAs (Decidable (List.Pairwise _ _))

/-- A required positional parameter behind the one that takes the first argument is a second one. -/
theorem Param.Receives.positional_of_later {before after : List Param} {param : Param}
    (receives : Receives before param after) {ret : Ty}
    (ordered : Signature.RequiredFirst ⟨before ++ param :: after, ret⟩) {later : Param}
    (member : later ∈ after) (required : later.kind = .positional) :
    param.kind = .positional := by
  rcases receives with ⟨positional, _⟩ | ⟨_, _, others⟩
  · have order := (List.pairwise_cons.mp (List.pairwise_append.mp ordered).2.1).1
    have notOptional : param.kind ≠ .optional := fun optional =>
      order later member optional required
    cases kind : param.kind <;> simp_all [ParamKind.isPositional]
  · have unreached := others later (by simp [member])
    rw [required] at unreached
    cases unreached

/-- The count of parameters says that one argument is enough exactly if no parameter besides the one
that takes it is required. -/
theorem Param.Receives.acceptsOne_iff {before after : List Param} {param : Param}
    (receives : Receives before param after) {ret : Ty}
    (ordered : Signature.RequiredFirst ⟨before ++ param :: after, ret⟩) :
    (Signature.mk (before ++ param :: after) ret).acceptsOne = true ↔
      ∀ other ∈ before ++ after, other.kind.isRequired = false := by
  have unnamed : param.kind ≠ .named := by
    rintro named
    rcases receives with ⟨positional, _⟩ | ⟨star, _⟩
    · rw [named] at positional
      cases positional
    · rw [named] at star
      cases star
  have noneBefore : ∀ other ∈ before, other.kind ≠ .positional := by
    intro other member positional
    have unreached : other.kind.isPositional = false := by
      rcases receives with ⟨_, others⟩ | ⟨_, _, others⟩
      · exact others other member
      · exact others other (List.mem_append_left _ member)
    rw [positional] at unreached
    cases unreached
  have countBefore : before.countP (fun other => other.kind == .positional) = 0 :=
    List.countP_eq_zero.mpr (by simpa using noneBefore)
  simp only [Signature.acceptsOne, receives.firstPositional? ret, Option.isSome_some, Bool.and_true,
    List.countP_append, List.countP_cons, countBefore, Bool.and_eq_true, Bool.or_eq_true,
    beq_iff_eq, List.all_eq_true, bne_iff_ne, Nat.zero_add]
  constructor
  · rintro ⟨notNamed, few⟩ other member
    have notPositional : other.kind ≠ .positional := by
      intro positional
      rcases List.mem_append.mp member with member | member
      · exact noneBefore other member positional
      · have counted : 0 < after.countP fun other => other.kind == .positional :=
          List.countP_pos_iff.mpr ⟨other, member, by simp [positional]⟩
        rw [if_pos (receives.positional_of_later ordered member positional)] at few
        omega
    have otherNamed : other.kind ≠ .named := notNamed other (by
      rcases List.mem_append.mp member with member | member <;> simp [member])
    cases kind : other.kind <;> simp_all [ParamKind.isRequired]
  · intro unrequired
    have countAfter : after.countP (fun other => other.kind == .positional) = 0 := by
      rw [List.countP_eq_zero]
      intro other member positional
      have unneeded := unrequired other (List.mem_append_right _ member)
      rw [beq_iff_eq.mp positional] at unneeded
      cases unneeded
    have noneNamed : ∀ other ∈ before ++ after, other.kind ≠ .named := by
      intro other member named
      have unneeded := unrequired other member
      rw [named] at unneeded
      cases unneeded
    constructor
    · intro other member
      rcases List.mem_append.mp member with earlier | here
      · exact noneNamed other (List.mem_append_left _ earlier)
      · rcases List.mem_cons.mp here with rfl | later
        · exact unnamed
        · exact noneNamed other (List.mem_append_right _ later)
    · rw [countAfter]
      split <;> simp

namespace Substitution

/-- Of `Callable[..., ret]` only the result can have variables, and an argument binds none of
them. -/
theorem instantiate_ellipsis (ellipsis : signature.isEllipsis = true)
    (canonical : signature.ret.isCanonical = true) (kindFree : signature.ret.isKindFree = true) :
    empty.instantiate signature signature.ret = signature.ret.eraseUnsolved := by
  have vars : signature.freeTypeVars = signature.ret.freeTypeVars := by
    obtain ⟨params, ret⟩ := signature
    unfold Signature.isEllipsis at ellipsis
    split at ellipsis
    · rename_i star doubleStar shape
      obtain ⟨starName, starKind, starTy⟩ := star
      obtain ⟨doubleName, doubleKind, doubleTy⟩ := doubleStar
      simp only [Bool.and_eq_true, beq_iff_eq] at ellipsis shape
      simp [Signature.freeTypeVars, Signature.typeVarOccurrences, shape, ellipsis,
        Param.typeVarOccurrencesIn, Param.typeVarOccurrences, Ty.typeVarOccurrences,
        Ty.freeTypeVars]
    · cases ellipsis
  have unbound : signature.ret.freeTypeVars.filter (fun var => !empty.contains var) =
      signature.ret.freeTypeVars := by
    rw [List.filter_eq_self]
    intro var _
    rfl
  rw [instantiate, vars, unbound, empty_apply canonical kindFree, Ty.eraseUnsolved]

end Substitution

/-- The argument of `Callable[..., ret]` may have any type. -/
theorem Param.Receives.ty_of_isEllipsis {before after : List Param} {param : Param}
    (receives : Receives before param after) {ret : Ty}
    (ellipsis : (Signature.mk (before ++ param :: after) ret).isEllipsis = true) :
    param.ty = .any := by
  have first := receives.firstPositional? ret
  unfold Signature.isEllipsis at ellipsis
  split at ellipsis
  · rename_i star doubleStar shape
    simp only [Bool.and_eq_true, beq_iff_eq] at ellipsis shape
    rw [shape] at first
    simpa [Signature.firstPositional?, Signature.positionals, Signature.star?, ellipsis,
      ParamKind.isPositional, eq_comm] using first
  · cases ellipsis

namespace Flow

/-- Passing one argument in a pipeline: the count must be right, and the argument must match the
first positional type. -/
theorem applyOne?_eq {expected : Ty} (first : signature.firstPositional? = some expected)
    (value : Ty) :
    applyOne? signature value =
      if signature.acceptsOne ∧ (Substitution.empty.bind expected value).1 then
        some ((Substitution.empty.bind expected value).2.instantiate signature signature.ret)
      else none := by
  simp only [applyOne?, first, Option.bind_eq_bind, Option.bind_some]
  obtain ⟨fits, subst⟩ := Substitution.empty.bind expected value
  cases signature.acceptsOne <;> cases fits <;> rfl

/-- Without a parameter for it, a pipeline refuses the argument too. -/
theorem applyOne?_unreached
    (unreached : ∀ param ∈ signature.params, param.kind.isPositional = false ∧ param.kind ≠ .star)
    (value : Ty) :
    applyOne? signature value = none := by
  have noPositional : signature.positionals = [] :=
    List.filter_eq_nil_iff.mpr fun param member => by simp [unreached param member]
  have noStar : signature.star? = none :=
    List.find?_eq_none.mpr fun param member => by simp [unreached param member]
  simp [applyOne?, Signature.firstPositional?, noPositional, noStar]

/-- What a pipeline does with one argument is what a call does with it. -/
theorem applyOne?_eq_bindCall (ordered : signature.RequiredFirst)
    (canonical : signature.ret.isCanonical = true) (kindFree : signature.ret.isKindFree = true)
    (callee : String) (value : Ty) (location : Location) :
    applyOne? signature value =
      (signature.bindCall callee (Argument.plain [value] []) location).toOption.map Prod.snd := by
  rw [Signature.toOption_bindCall]
  obtain ⟨before, param, after, split, receives⟩ | unreached :=
    Param.exists_receives signature.params
  · obtain ⟨params, ret⟩ := signature
    obtain rfl : params = before ++ param :: after := split
    have accepted := receives.acceptsOne_iff ordered
    rw [receives.assign value, applyOne?_eq (receives.firstPositional? ret)]
    cases required : (before ++ after).any fun other => other.kind.isRequired with
    | true =>
      obtain ⟨other, member, needed⟩ := List.any_eq_true.mp required
      have tooFew : (Signature.mk (before ++ param :: after) ret).acceptsOne = false := by
        rw [Bool.eq_false_iff]
        intro enough
        rw [accepted.mp enough other member] at needed
        cases needed
      simp [tooFew]
    | false =>
      have enough : (Signature.mk (before ++ param :: after) ret).acceptsOne = true :=
        accepted.mpr fun other member => by simpa using List.any_eq_false.mp required other member
      simp only [enough, true_and, Bool.false_eq_true, if_false, Option.bind_some,
        Substitution.bindGroups_one]
      cases ellipsis : (Signature.mk (before ++ param :: after) ret).isEllipsis with
      | true =>
        have anything : Substitution.empty.bind param.ty value = (true, .empty) := by
          rw [receives.ty_of_isEllipsis ellipsis, Substitution.bind]
        have instantiated := Substitution.instantiate_ellipsis ellipsis canonical kindFree
        simp [anything, instantiated]
      | false =>
        cases (Substitution.empty.bind param.ty value).1 <;> simp
  · rw [applyOne?_unreached unreached, Argument.assign_unreached unreached]
    rfl

end Flow

/-- The signatures through which a type is called. -/
def Ty.signatures : Ty → List Signature
  | .callable signature => [signature]
  | .overloaded signatures => signatures
  | _ => []

namespace Flow

/-- A function of a pipeline as it can be written: required positional parameters stand before
optional ones, unions are simplified and no container is passed as a type. -/
structure IsRegular (function : Ty) : Prop where
  ordered : ∀ signature ∈ function.signatures, signature.RequiredFirst
  canonical : function.isCanonical = true
  kindFree : function.isKindFree = true

instance (function : Ty) : Decidable (IsRegular function) :=
  decidable_of_iff ((∀ signature ∈ function.signatures, signature.RequiredFirst) ∧
      function.isCanonical = true ∧ function.isKindFree = true)
    ⟨fun ⟨ordered, canonical, kindFree⟩ => ⟨ordered, canonical, kindFree⟩,
      fun ⟨ordered, canonical, kindFree⟩ => ⟨ordered, canonical, kindFree⟩⟩

/-- The results of a regular function are canonical and have no containers passed as types. -/
theorem IsRegular.ret {function : Ty} (regular : IsRegular function)
    (member : signature ∈ function.signatures) :
    signature.ret.isCanonical = true ∧ signature.ret.isKindFree = true := by
  have canonical := regular.canonical
  have kindFree := regular.kindFree
  cases function with
  | callable own =>
    obtain rfl : signature = own := by simpa [Ty.signatures] using member
    simp only [Ty.isCanonical, Ty.isKindFree, Ty.everywhere, Bool.and_eq_true,
      Signature.everywhere_iff] at canonical kindFree
    exact ⟨canonical.2.2, kindFree.2.2⟩
  | overloaded signatures =>
    simp only [Ty.isCanonical, Ty.isKindFree, Ty.everywhere, Bool.and_eq_true,
      Signature.everywhereIn_iff, Signature.everywhere_iff] at canonical kindFree
    exact ⟨(canonical.2 signature member).2, (kindFree.2 signature member).2⟩
  | _ => cases member

/-- The type of the call of a function with one argument. -/
def callOne (callee : String) (location : Location) (value function : Ty) : Except Diagnostic Ty :=
  function.call callee (Argument.plain [value] []) location

/-- One step of a pipeline is one call. -/
theorem toOption_step {function : Ty} (regular : IsRegular function) (context : CallContext)
    (callee : String) (location : Location) (value : Ty) (index : Nat) :
    (step context value function index).toOption =
      (callOne callee location value function).toOption := by
  have applied : ∀ signature ∈ function.signatures, applyOne? signature value =
      (signature.bindCall callee (Argument.plain [value] []) location).toOption.map Prod.snd := by
    intro signature member
    obtain ⟨canonical, kindFree⟩ := regular.ret member
    exact applyOne?_eq_bindCall (regular.ordered signature member) canonical kindFree callee value
      location
  cases function with
  | callable signature =>
    rw [callOne, Ty.toOption_call_callable, ← applied signature List.mem_cons_self, step]
    cases applyOne? signature value <;> rfl
  | overloaded signatures =>
    have first : (signatures.findSome? fun item => applyOne? item value) =
        signatures.findSome? fun item =>
          (item.bindCall callee (Argument.plain [value] []) location).toOption.map Prod.snd := by
      clear regular
      induction signatures with
      | nil => rfl
      | cons item items ih =>
        rw [List.findSome?_cons, List.findSome?_cons, applied item List.mem_cons_self,
          ih fun other member => applied other (List.mem_cons_of_mem _ member)]
    rw [callOne, Ty.toOption_call_overloaded, ← first, step]
    cases signatures.findSome? fun item => applyOne? item value <;> rfl
  | _ => rfl

/-- The steps of a pipeline are calls, one after the other. -/
theorem toOption_steps {functions : List Ty} (regular : ∀ function ∈ functions, IsRegular function)
    (context : CallContext) (callee : String) (location : Location) (value : Ty) (index : Nat) :
    (steps context value functions index).toOption =
      (functions.foldlM (callOne callee location) value).toOption := by
  induction functions generalizing value index with
  | nil => rfl
  | cons function functions ih =>
    have first := toOption_step (regular function List.mem_cons_self) context callee location value
      index
    have opened : steps context value (function :: functions) index =
        (step context value function index >>= fun result =>
          steps context result functions (index + 1)) := by
      rw [steps]
      cases step context value function index <;> rfl
    rw [opened, List.foldlM_cons, toOption_bind, toOption_bind, first]
    congr 1
    funext result
    exact ih
      (fun function member => regular function (List.mem_cons_of_mem _ member)) result (index + 1)

/-- A pipeline has a type exactly if calling its functions one after the other has this type. -/
theorem pipeline_iff_calls {context : CallContext} {value : Ty} {functions : List Ty}
    (passed : context.arg? 0 = some value) (listed : context.args 1 = functions)
    (someFunction : functions ≠ [])
    (packed : (context.argKinds[1]?.getD []).contains .star = false)
    (regular : ∀ function ∈ functions, IsRegular function) (callee : String) (location : Location)
    (result : Ty) :
    analyze context = .ok result ↔
      functions.foldlM (callOne callee location) value = .ok result := by
  have opened : analyze context = steps context value functions 2 := by
    obtain ⟨function, rest, rfl⟩ := List.exists_cons_of_ne_nil someFunction
    simp only [analyze, passed, packed, listed, Bool.false_eq_true, if_false]
  rw [opened, ← toOption_eq_some_iff, ← toOption_eq_some_iff,
    toOption_steps regular context callee location]

/-- For `f(a: int, b: str = ...) -> str` and a generic `g(*xs: T) -> list[T]`, the pipeline
`flow(1, f, g)` has the type of `g(f(1))`, a `list[str]`. -/
theorem pipeline_of_two_functions :
    analyze (.positional "returns.pipeline.flow"
      [[.int],
        [.callable ⟨[⟨some "a", .positional, .int⟩, ⟨some "b", .optional, .str⟩], .str⟩,
          .callable ⟨[⟨some "xs", .star, .typeVar "T"⟩], .list (.typeVar "T")⟩]] .any) =
      .ok (.list .str) :=
  Iff.mpr (pipeline_iff_calls rfl rfl (by decide) rfl (by decide) "f" .nowhere (.list .str))
    (by cbv)

end Flow

end Callwise
