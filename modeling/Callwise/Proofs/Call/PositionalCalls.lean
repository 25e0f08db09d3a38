import Callwise.Proofs.Call.PlainCall
import Callwise.Proofs.Ty.Subtyping

/-!
# How many positional arguments a subtype takes

Without a star parameter, a signature takes a number of positional arguments if there are that many
positional parameters, none that is required stands behind them, and nothing has to be passed by
name.

The comparison of two signatures looks at positional parameters only, and among those of the first
that the second does not have it looks for required ones. So the first takes as many arguments as
the second, but it may need more: it may require a name, or require a position that is optional in
the second. The main result says that these are the only ways in which a positional call of the
second signature is lost on the first.
-/

namespace Callwise

/-! ### Seats of a positional call -/

namespace Param

variable {α : Type}

/-- Every required parameter has an argument on its seat. -/
def allServed (params : List Param) (placed : List (Seat α)) : Bool :=
  !(params.zip placed).any fun entry => entry.1.kind.isRequired && entry.2.isFree

/-- All are served if the first is and the others are. -/
theorem allServed_cons (param : Param) (params : List Param) (seat : Seat α)
    (placed : List (Seat α)) :
    allServed (param :: params) (seat :: placed) =
      (!(param.kind.isRequired && seat.isFree) && allServed params placed) := by
  simp only [allServed, List.zip_cons_cons, List.any_cons, Bool.not_or]

/-- A parameter that no position reaches is served if nothing is required of a call for it. -/
theorem any_allServed_cons_free {param : Param} (params : List Param) {positions : List α}
    (unreached : (if param.kind.isPositional then positions else []) = []) :
    (seats (param :: params) positions []).any (allServed (param :: params)) =
      (!param.kind.isRequired && (seats params positions []).any (allServed params)) := by
  rw [seats_cons_free params unreached]
  cases seats params positions [] with
  | none => simp
  | some placed => simp [allServed_cons, Seat.isFree]

/-- A positional parameter is served by the first position. -/
theorem any_allServed_cons_position {param : Param} (params : List Param)
    (positional : param.kind.isPositional = true) (argument : α) (positions : List α) :
    (seats (param :: params) (argument :: positions) []).any (allServed (param :: params)) =
      (seats params positions []).any (allServed params) := by
  rw [seats_cons_position params positional]
  cases seats params positions [] with
  | none => rfl
  | some placed => simp [allServed_cons, Seat.isFree]

/-- Positions serve all parameters exactly if there are not more of them than positional parameters,
no required one is left, and no parameter requires a name. -/
theorem any_allServed_iff (params : List Param) (positions : List α) :
    (seats params positions []).any (allServed params) = true ↔
      positions.length ≤ (params.filter fun param => param.kind.isPositional).length ∧
        (((params.filter fun param => param.kind.isPositional).drop positions.length).any
          fun param => param.kind == .positional) = false ∧
        ∀ param ∈ params, param.kind ≠ .named := by
  induction params generalizing positions with
  | nil => cases positions <;> simp [seats, allServed]
  | cons param params ih =>
    rw [List.forall_mem_cons]
    cases kind : param.kind with
    | positional =>
      cases positions with
      | nil => simp [any_allServed_cons_free, kind, ParamKind.isPositional, ParamKind.isRequired]
      | cons argument positions =>
        rw [any_allServed_cons_position params (by simp [kind, ParamKind.isPositional]),
          ih]
        simp [kind, ParamKind.isPositional]
    | optional =>
      cases positions with
      | nil =>
        rw [any_allServed_cons_free params (by simp), Bool.and_eq_true, ih]
        simp [kind, ParamKind.isPositional, ParamKind.isRequired]
      | cons argument positions =>
        rw [any_allServed_cons_position params (by simp [kind, ParamKind.isPositional]),
          ih]
        simp [kind, ParamKind.isPositional]
    | named => simp [any_allServed_cons_free, kind, ParamKind.isPositional, ParamKind.isRequired]
    | star | namedOptional | doubleStar =>
      rw [any_allServed_cons_free params (by simp [kind, ParamKind.isPositional]),
        Bool.and_eq_true, ih]
      simp [kind, ParamKind.isPositional, ParamKind.isRequired]

end Param

/-- Arguments that are all passed by position are accepted if their positions serve all
parameters. -/
theorem Argument.isOk_assign_positions {formals : List Param}
    (unstarred : Assignment.indexOfKind? formals .star = none) {arguments : List Argument}
    (kinds : ∀ argument ∈ arguments, argument.kind = .positional) :
    (assign arguments formals).isOk =
      (Param.seats formals (List.range arguments.length) []).any (Param.allServed formals) := by
  have numbered : ∀ entry ∈ arguments.zipIdx, entry.1.kind = .positional := by
    rintro ⟨argument, index⟩ member
    exact kinds argument (List.fst_mem_of_mem_zipIdx member)
  have run := Assignment.run_positions unstarred arguments numbered (Param.seats_nil formals)
  simp only [List.nil_append, List.length_nil, Nat.zero_add, List.zipIdx_map_snd,
    List.length_zipIdx, ← List.range_eq_range', ← Assignment.start_eq_ofSeats] at run
  have isOk_eq : ∀ answer : Except ArgumentError (List (List Nat)),
      answer.isOk = answer.toOption.isSome := by
    intro answer
    cases answer <;> rfl
  rw [isOk_eq]
  simp only [assign]
  rw [toOption_bind, run, Option.bind_map]
  cases Param.seats formals (List.range arguments.length) [] with
  | none => rfl
  | some placed =>
    simp only [Option.bind_some, Function.comp_apply, Assignment.isIncomplete_ofSeats,
      Option.any_some, Param.allServed]
    split
    · rename_i missing
      rw [missing]
      rfl
    · rename_i complete
      rw [Bool.not_eq_true] at complete
      rw [complete]
      rfl

namespace Signature

/-- A call has to pass some argument by name. -/
def requiresName (signature : Signature) : Bool :=
  signature.params.any fun param => param.kind == .named

/-- A signature without a star parameter takes a number of positional arguments exactly if it has
that many positional parameters, requires none behind them, and requires no name. -/
theorem isOk_assign_iff {signature : Signature} (unstarred : signature.star? = none)
    {arguments : List Argument} (kinds : ∀ argument ∈ arguments, argument.kind = .positional) :
    (Argument.assign arguments signature.params).isOk = true ↔
      arguments.length ≤ signature.positionals.length ∧
        signature.requiresFrom arguments.length = false ∧ signature.requiresName = false := by
  have noStar : Assignment.indexOfKind? signature.params .star = none := by
    rw [Assignment.indexOfKind?, List.findIdx?_eq_none_iff]
    intro param member
    have other := List.find?_eq_none.mp unstarred param member
    simpa using other
  have names : signature.requiresName = false ↔
      ∀ param ∈ signature.params, param.kind ≠ .named := by
    simp [requiresName]
  rw [Argument.isOk_assign_positions noStar kinds, Param.any_allServed_iff, List.length_range,
    names]
  rfl

/-- What is required from an index on is required from every earlier index on. -/
theorem requiresFrom_of_le {signature : Signature} {earlier later : Nat}
    (order : earlier ≤ later) (required : signature.requiresFrom later = true) :
    signature.requiresFrom earlier = true := by
  obtain ⟨param, behind, isRequired⟩ := List.any_eq_true.mp required
  have sublist := List.drop_sublist_drop_left signature.positionals order
  exact List.any_eq_true.mpr ⟨param, sublist.subset behind, isRequired⟩

/-- Nothing is required behind all positional parameters. -/
theorem requiresFrom_length (signature : Signature) :
    signature.requiresFrom signature.positionals.length = false := by
  simp [requiresFrom]

/-- A signature has all positional parameters of a signature that it fits, and requires none
beyond. -/
theorem positionals_of_isSubtype {sub sup : Signature} (subUnstarred : sub.star? = none)
    (supUnstarred : sup.star? = none) (fits : sub.isSubtype sup = true) :
    sup.positionals.length ≤ sub.positionals.length ∧
      sub.requiresFrom sup.positionals.length = false := by
  have subCounted : sub.isEllipsis = false := isEllipsis_of_star?_eq_none subUnstarred
  have supCounted : sup.isEllipsis = false := isEllipsis_of_star?_eq_none supUnstarred
  rw [isSubtype_iff, subCounted, supCounted, supUnstarred] at fits
  simp only [Bool.false_eq_true, false_or, Option.isSome_none, or_false] at fits
  obtain ⟨_, enough, received⟩ := fits
  refine ⟨?_, enough⟩
  by_cases fewer : sub.positionals.length < sup.positionals.length
  · have next : (sup.positionals[sub.positionals.length], sub.positionals.length) ∈
        sup.positionals.zipIdx := by
      simp [List.mem_zipIdx_iff_getElem?, fewer]
    obtain ⟨ty, slot, _⟩ := received _ _ next
    simp [slot?, subUnstarred] at slot
  · exact Nat.le_of_not_lt fewer

/-- Of two signatures without star parameters, let the first fit the second. Then every positional
call that the second takes is taken by the first exactly if the second requires a name, so that it
takes no positional call at all, or the first requires no name and no position that the second
leaves open. -/
theorem takes_positional_calls_iff {sub sup : Signature} (subUnstarred : sub.star? = none)
    (supUnstarred : sup.star? = none)
    (fits : (Ty.callable sub).isSubtype (.callable sup) = true) :
    (∀ arguments : List Argument, (∀ argument ∈ arguments, argument.kind = .positional) →
        (Argument.assign arguments sup.params).isOk = true →
          (Argument.assign arguments sub.params).isOk = true) ↔
      sup.requiresName = true ∨
        (sub.requiresName = false ∧
          ∀ index, sub.requiresFrom index = true → sup.requiresFrom index = true) := by
  rw [Ty.callable_isSubtype_callable] at fits
  obtain ⟨longer, enough⟩ := positionals_of_isSubtype subUnstarred supUnstarred fits
  constructor
  · intro kept
    by_cases named : sup.requiresName = true
    · exact .inl named
    · -- any number of arguments that the second takes, the first takes
      have taken : ∀ count ≤ sup.positionals.length, sup.requiresFrom count = false →
          sub.requiresFrom count = false ∧ sub.requiresName = false := by
        intro count few optional
        have kinds : ∀ argument ∈ List.replicate count (⟨.positional, none, .any⟩ : Argument),
            argument.kind = .positional := by
          intro argument member
          rw [(List.mem_replicate.mp member).2]
        have accepted := kept _ kinds ((isOk_assign_iff supUnstarred kinds).mpr
          (by simpa [few, optional] using named))
        simpa using ((isOk_assign_iff subUnstarred kinds).mp accepted).2
      refine .inr ⟨(taken _ (Nat.le_refl _) sup.requiresFrom_length).2, fun index required => ?_⟩
      rcases Nat.le_total index sup.positionals.length with few | many
      · cases optional : sup.requiresFrom index with
        | true => rfl
        | false =>
          rw [(taken index few optional).1] at required
          cases required
      · rw [requiresFrom_of_le many required] at enough
        cases enough
  · rintro condition arguments kinds accepted
    obtain ⟨few, optional, unnamed⟩ := (isOk_assign_iff supUnstarred kinds).mp accepted
    rcases condition with named | ⟨subUnnamed, positions⟩
    · rw [named] at unnamed
      cases unnamed
    · refine (isOk_assign_iff subUnstarred kinds).mpr ⟨Nat.le_trans few longer, ?_, subUnnamed⟩
      rw [Bool.eq_false_iff]
      intro required
      rw [positions _ required] at optional
      cases optional

/-- A function with a default for its second parameter takes the place of one without a second
parameter, and so it takes the call with one argument. -/
theorem takes_positional_call_with_default :
    (Ty.callable ⟨[⟨some "count", .positional, .float⟩, ⟨some "unit", .optional, .str⟩],
      .str⟩).isSubtype (.callable (ofTypes [.int] .str)) = true ∧
      (Argument.assign [⟨.positional, none, .int⟩] (ofTypes [.int] .str).params).isOk = true ∧
      (Argument.assign [⟨.positional, none, .int⟩] [⟨some "count", .positional, .float⟩,
        ⟨some "unit", .optional, .str⟩]).isOk = true := by
  have fits : (Ty.callable ⟨[⟨some "count", .positional, .float⟩, ⟨some "unit", .optional, .str⟩],
      .str⟩).isSubtype (.callable (ofTypes [.int] .str)) = true := by
    decide +kernel
  have accepted : (Argument.assign [⟨.positional, none, .int⟩]
      (ofTypes [.int] .str).params).isOk = true := by
    decide
  refine ⟨fits, accepted, ?_⟩
  refine (takes_positional_calls_iff rfl rfl fits).mpr (.inr ⟨rfl, ?_⟩) _ (by simp) accepted
  intro index required
  cases index with
  | zero => rfl
  | succ index =>
    cases index <;> simp [requiresFrom, positionals, ParamKind.isPositional] at required

/-- A function that requires a name fits one without parameters, and a function that requires a
position fits one in which it is optional. In both cases the call without arguments is lost. -/
theorem loses_call_without_arguments :
    (Ty.callable ⟨[⟨some "key", .named, .str⟩], .int⟩).isSubtype (.callable ⟨[], .int⟩) = true ∧
      (Argument.assign [] []).isOk = true ∧
      (Argument.assign [] [⟨some "key", .named, .str⟩]).isOk = false ∧
      (Ty.callable ⟨[⟨some "x", .positional, .int⟩], .int⟩).isSubtype
        (.callable ⟨[⟨some "x", .optional, .int⟩], .int⟩) = true ∧
      (Argument.assign [] [⟨some "x", .optional, .int⟩]).isOk = true ∧
      (Argument.assign [] [⟨some "x", .positional, .int⟩]).isOk = false := by
  decide +kernel

end Signature

end Callwise
