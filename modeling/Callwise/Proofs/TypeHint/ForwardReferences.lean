import Callwise.Proofs.TypeHint.ShorterStrings

/-!
# Strings inside annotations

A string in an annotation is parsed and read in its place, and what it is parsed into may have
strings again. Reading is a recursion that leaves the tree it started from, so its size says nothing
about the end. What gets smaller is the length of the strings: if every string in a parsed text is
shorter than the text, the calls that reading makes are well founded, ordered by the longest string
still to be met and then by the size of what is read.

`Call` lists the functions that read annotations, `Call.made` the calls that each of them makes, and
`Call.answer` puts the answers together. Since the calls are well founded, only one way to answer
them follows these rounds, and reading with a bound on the depth is that way as soon as the bound is
no smaller than `textBound`. The parser of the program makes strings shorter, so this holds of
`TypeHint.read`.
-/

namespace Callwise.TypeHint

variable {parse : String → Option Expr}

/-! ### Names and strings -/

/-- The bound of one annotation is at most that of several. -/
theorem textBound_le_of_mem {item : Expr} {items : List Expr} (member : item ∈ items) :
    textBound item ≤ textBoundAll items := by
  induction items with
  | nil => cases member
  | cons first rest ih =>
    simp only [textBoundAll]
    rcases List.mem_cons.mp member with rfl | later
    · exact Nat.le_max_left _ _
    · exact Nat.le_trans (ih later) (Nat.le_max_right _ _)

theorem ofName_congr {first second : List String} (same : ∀ name, name ∈ first ↔ name ∈ second)
    (name : String) : ofName first name = ofName second name := by
  unfold ofName
  simp only [List.contains_eq_mem, same name]

section

variable {first second : List String} {ofText other : String → Ty}

mutual

/-- Reading depends on which type variables are declared and on what the strings in the annotation
stand for. -/
theorem readWith_congr (same : ∀ name, name ∈ first ↔ name ∈ second) :
    (hint : Expr) → (∀ text ∈ textsIn hint, ofText text = other text) →
      readWith first ofText hint = readWith second other hint
  | .name .., _ | .access .., _ => by simp only [readWith, ofName_congr same]
  | .literal _ value, agree => by
    cases value
    case str text =>
      simp only [readWith]
      exact agree text (by simp [textsIn])
    all_goals simp only [readWith]
  | .subscript _ value index, agree => by
    simp only [readWith, readWith_congr same index agree, readItems_congr same index agree,
      readParams_congr same index agree]
  | .binary _ op left right, agree => by
    simp only [textsIn, List.forall_mem_append] at agree
    cases op
    case bitOr =>
      simp only [readWith, readWith_congr same left agree.1, readWith_congr same right agree.2]
    all_goals simp only [readWith]
  | .tuple .., _ | .list .., _ | .call .., _ | .await .., _ | .set .., _ | .dict .., _
  | .unary .., _ | .boolean .., _ | .compare .., _ | .conditional .., _ | .lambda .., _
  | .formatted .., _ | .starred .., _ | .assignment .., _ | .comprehension .., _ | .slice _, _
  | .yield _, _ => by simp only [readWith]

/-- The same of the items of a tuple. -/
theorem readItems_congr (same : ∀ name, name ∈ first ↔ name ∈ second) (index : Expr)
    (agree : ∀ text ∈ textsIn index, ofText text = other text) :
    readItems first ofText index = readItems second other index := by
  cases index
  case tuple _ items =>
    simp only [readItems]
    exact readAll_congr same items agree
  all_goals simp only [readItems]
termination_by structural index

/-- The same of the parameters in the first item of a tuple. -/
theorem readParams_congr (same : ∀ name, name ∈ first ↔ name ∈ second) (index : Expr)
    (agree : ∀ text ∈ textsIn index, ofText text = other text) :
    readParams first ofText index = readParams second other index := by
  cases index
  case tuple _ items =>
    cases items with
    | nil => simp only [readParams]
    | cons head rest =>
      cases head
      case list _ params =>
        simp only [textsIn, textsInAll, List.forall_mem_append] at agree
        simp only [readParams, readAll_congr same params agree.1]
      all_goals simp only [readParams]
  all_goals simp only [readParams]
termination_by structural index

/-- The same of several annotations. -/
theorem readAll_congr (same : ∀ name, name ∈ first ↔ name ∈ second) :
    (hints : List Expr) → (∀ text ∈ textsInAll hints, ofText text = other text) →
      readAll first ofText hints = readAll second other hints
  | [], _ => rfl
  | hint :: rest, agree => by
    simp only [textsInAll, List.forall_mem_append] at agree
    simp only [readAll, readWith_congr same hint agree.1, readAll_congr same rest agree.2]

end

end

/-! ### Depth -/

/-- What a string stands for where strings may be nested to the given depth. -/
def readText (parse : String → Option Expr) (typeVars : List String) : (depth : Nat) → String → Ty
  | 0, _ => .any
  | depth + 1, text =>
    match parse text with
    | some inner => readDeep parse typeVars depth inner
    | none => .any

theorem readDeep_eq_readWith (parse : String → Option Expr) (typeVars : List String)
    (depth : Nat) (hint : Expr) :
    readDeep parse typeVars depth hint =
      readWith typeVars (readText parse typeVars depth) hint := by
  cases depth <;> rfl

/-- From the bound on, the depth does not matter. -/
theorem readDeep_eq_of_le (shortens : Shortens parse) (typeVars : List String) {hint : Expr}
    {depth other : Nat} (enough : textBound hint ≤ depth) (alsoEnough : textBound hint ≤ other) :
    readDeep parse typeVars depth hint = readDeep parse typeVars other hint := by
  induction depth using Nat.strongRecOn generalizing hint other with
  | ind depth ih =>
    rw [readDeep_eq_readWith, readDeep_eq_readWith]
    apply readWith_congr fun _ => Iff.rfl
    intro text met
    have below := (textBound_le_iff depth hint).mp enough text met
    have alsoBelow := (textBound_le_iff other hint).mp alsoEnough text met
    obtain ⟨depth, rfl⟩ := Nat.exists_eq_add_one_of_ne_zero (Nat.ne_zero_of_lt below)
    obtain ⟨other, rfl⟩ := Nat.exists_eq_add_one_of_ne_zero (Nat.ne_zero_of_lt alsoBelow)
    simp only [readText]
    split
    · rename_i inner parsed
      have shorter := (textBound_le_iff text.length inner).mpr (shortens text inner parsed)
      exact ih depth (Nat.lt_succ_self depth) (by omega) (by omega)
    · rfl

/-! ### Calls -/

/-- A call of one of the functions that read annotations. -/
inductive Call where
  /-- Read an annotation. -/
  | read (hint : Expr)
  /-- Read what stands between the brackets behind a name. -/
  | subscript (name : String) (index : Expr)
  /-- Read the items between the brackets of `Callable`. -/
  | callable (items : List Expr)

/-- The items between the brackets behind a name that are read: of a list and of an optional type
the first, of a dictionary two or none, of a tuple with `...` the first, and all of others. -/
def itemsRead (name : String) (items : List Expr) : List Expr :=
  match name with
  | "list" | "List" | "Optional" => items.take 1
  | "dict" | "Dict" => if items.length == 2 then items else []
  | "tuple" | "Tuple" => if items.any isEllipsis then items.take 1 else items
  | _ => items

namespace Call

/-- The calls that a call makes. A string is parsed first. -/
def made (parse : String → Option Expr) : Call → List Call
  | .read (.literal _ (.str text)) => (parse text).toList.map .read
  | .read (.subscript _ value index) => (baseName? value).toList.map (.subscript · index)
  | .read (.binary _ .bitOr left right) => [.read left, .read right]
  | .read _ => []
  | .subscript name index =>
    if name == "Callable" then [.callable (itemsOf index)]
    else (itemsRead name (itemsOf index)).map .read
  | .callable [.list _ params, ret] => .read ret :: params.map .read
  | .callable [_, ret] => [.read ret]
  | .callable _ => []

/-- The answer to a call, given the answers to the calls that it makes. -/
def combine (typeVars : List String) : Call → List Ty → Ty
  | .read (.name _ id), _ => ofName typeVars id
  | .read (.access _ _ attr), _ => ofName typeVars attr
  | .read (.literal _ .none), _ => .none
  | .read (.literal _ (.str _)), types => types.headD .any
  | .read (.subscript ..), types => types.headD .any
  | .read (.binary _ .bitOr _ _), types => Ty.unionOf types
  | .read _, _ => .any
  | .subscript name index, types =>
    if name == "Callable" then types.headD .any
    else ofSubscript name types ((itemsOf index).any isEllipsis) none
  | .callable [.list .., _], ret :: params => .callable (.ofTypes params ret)
  | .callable [_, _], [ret] => .callable (.ellipsis ret)
  | .callable _, _ => .callable (.ellipsis .any)

/-- One round of reading: ask for the answers to the calls that are made, and combine them. -/
def answer (parse : String → Option Expr) (typeVars : List String) (ask : Call → Ty)
    (call : Call) : Ty :=
  call.combine typeVars ((call.made parse).map ask)

/-! ### Every call is smaller -/

/-- The bound on the strings that can be met, and the size of what is read. An index may be its own
only item, so it counts more than an annotation of its size. -/
noncomputable def measure : Call → Nat × Nat
  | .read hint => (textBound hint, 2 * sizeOf hint)
  | .subscript _ index => (textBound index, 2 * sizeOf index + 1)
  | .callable [params, ret] =>
    (max (textBound params) (textBound ret), 2 * (sizeOf params + sizeOf ret) + 1)
  | .callable _ => (0, 0)

/-- A call with no larger bound and a smaller size comes before. -/
theorem lex_of_le_of_lt {bound other size larger : Nat} (notMore : bound ≤ other)
    (smaller : size < larger) : Prod.Lex (· < ·) (· < ·) (bound, size) (other, larger) := by
  rcases Nat.lt_or_eq_of_le notMore with less | rfl
  · exact .left _ _ less
  · exact .right _ smaller

/-- An item is no larger than the index it stands in. -/
theorem le_of_mem_itemsOf {index item : Expr} (member : item ∈ itemsOf index) :
    textBound item ≤ textBound index ∧ sizeOf item ≤ sizeOf index := by
  cases index
  case tuple span items =>
    refine ⟨textBound_le_of_mem member, ?_⟩
    have smaller := List.sizeOf_lt_of_mem member
    simp only [itemsOf] at smaller
    simp only [Expr.tuple.sizeOf_spec]
    omega
  all_goals
    obtain rfl := List.mem_singleton.mp member
    exact ⟨Nat.le_refl _, Nat.le_refl _⟩

theorem itemsRead_subset (name : String) (items : List Expr) : itemsRead name items ⊆ items := by
  unfold itemsRead
  repeat' split
  all_goals first | exact List.take_subset 1 items | simp

/-- The items of `Callable` come before what stands between its brackets. -/
theorem measure_callable_lt (name : String) (index : Expr) :
    Prod.Lex (· < ·) (· < ·) (callable (itemsOf index)).measure (subscript name index).measure := by
  cases index
  case tuple span items =>
    match items with
    | [params, ret] =>
      apply lex_of_le_of_lt
      · simp only [textBound, textBoundAll]
        omega
      · simp only [Expr.tuple.sizeOf_spec, List.cons.sizeOf_spec]
        omega
    | [] | [_] | _ :: _ :: _ :: _ => exact lex_of_le_of_lt (Nat.zero_le _) (Nat.succ_pos _)
  all_goals exact lex_of_le_of_lt (Nat.zero_le _) (Nat.succ_pos _)

/-- A call that is made comes before the call that makes it: a string is longer than the strings
inside it, and everything else that is read is a part. -/
theorem measure_lt (shortens : Shortens parse) {caller callee : Call}
    (called : callee ∈ caller.made parse) :
    Prod.Lex (· < ·) (· < ·) callee.measure caller.measure := by
  unfold made at called
  split at called
  · rename_i span text
    obtain ⟨inner, parsed, rfl⟩ := List.mem_map.mp called
    rw [Option.mem_toList] at parsed
    have shorter := (textBound_le_iff text.length inner).mpr (shortens text inner parsed)
    exact .left _ _ (Nat.lt_succ_of_le shorter)
  · rename_i span value index
    obtain ⟨name, _, rfl⟩ := List.mem_map.mp called
    refine lex_of_le_of_lt (by simp [textBound]) ?_
    simp only [Expr.subscript.sizeOf_spec]
    omega
  · rename_i span left right
    simp only [List.mem_cons, List.not_mem_nil, or_false] at called
    rcases called with rfl | rfl
    all_goals
      apply lex_of_le_of_lt
      · simp only [textBound]
        omega
      · simp only [Expr.binary.sizeOf_spec]
        omega
  · cases called
  · rename_i name index
    split at called
    · obtain rfl := List.mem_singleton.mp called
      exact measure_callable_lt name index
    · obtain ⟨item, within, rfl⟩ := List.mem_map.mp called
      have notMore := le_of_mem_itemsOf (itemsRead_subset _ _ within)
      exact lex_of_le_of_lt notMore.1 (by omega)
  · rename_i span params ret
    rcases List.mem_cons.mp called with rfl | called
    · apply lex_of_le_of_lt
      · omega
      · simp only [Expr.list.sizeOf_spec]
        omega
    · obtain ⟨param, member, rfl⟩ := List.mem_map.mp called
      have bounded := textBound_le_of_mem member
      have smaller := List.sizeOf_lt_of_mem member
      apply lex_of_le_of_lt
      · simp only [textBound]
        omega
      · simp only [Expr.list.sizeOf_spec]
        omega
  · rename_i params ret _
    obtain rfl := List.mem_singleton.mp called
    exact lex_of_le_of_lt (by omega) (by omega)
  · cases called

/-- Calls make calls only finitely often. -/
theorem made_wellFounded (shortens : Shortens parse) :
    WellFounded fun callee caller : Call => callee ∈ caller.made parse :=
  Subrelation.wf (measure_lt shortens)
    (InvImage.wf measure (Prod.lex Nat.lt_wfRel Nat.lt_wfRel).wf)

/-- Two ways to answer calls that follow the rounds are the same. -/
theorem answer_unique (shortens : Shortens parse) (typeVars : List String) {ask other : Call → Ty}
    (follows : ∀ call, ask call = call.answer parse typeVars ask)
    (alsoFollows : ∀ call, other call = call.answer parse typeVars other) : ask = other := by
  funext call
  induction call using (made_wellFounded shortens).induction with
  | _ call ih =>
    rw [follows, alsoFollows, answer, answer, List.map_congr_left ih]

end Call

/-! ### The reader follows the rounds -/

/-- What a string stands for, given what annotations do. Without a parse it is `Any`. -/
def ofParsed (parse : String → Option Expr) (ofHint : Expr → Ty) (text : String) : Ty :=
  match parse text with
  | some inner => ofHint inner
  | none => .any

/-- Read an annotation to the depth that its strings need. -/
def readFully (parse : String → Option Expr) (typeVars : List String) (hint : Expr) : Ty :=
  readDeep parse typeVars (textBound hint) hint

/-- Reading goes on in the same way inside strings. -/
theorem readFully_eq (shortens : Shortens parse) (typeVars : List String) (hint : Expr) :
    readFully parse typeVars hint =
      readWith typeVars (ofParsed parse (readFully parse typeVars)) hint := by
  rw [readFully, readDeep_eq_readWith]
  apply readWith_congr fun _ => Iff.rfl
  intro text met
  have below := (textBound_le_iff _ hint).mp (Nat.le_refl _) text met
  obtain ⟨depth, same⟩ := Nat.exists_eq_add_one_of_ne_zero (Nat.ne_zero_of_lt below)
  simp only [same, readText, ofParsed]
  split
  · rename_i inner parsed
    have shorter := (textBound_le_iff text.length inner).mpr (shortens text inner parsed)
    exact readDeep_eq_of_le shortens typeVars (by omega) (Nat.le_refl _)
  · rfl

/-- The types of the parameters if the first item is a list. -/
def listedParams (ofHint : Expr → Ty) : List Expr → Option (List Ty)
  | .list _ params :: _ => some (params.map ofHint)
  | _ => none

/-- The answer to every call, given what annotations stand for. -/
def Call.result (ofHint : Expr → Ty) : Call → Ty
  | .read hint => ofHint hint
  | .subscript name index =>
    ofSubscript name ((itemsOf index).map ofHint) ((itemsOf index).any isEllipsis)
      (listedParams ofHint (itemsOf index))
  | .callable items => callableOf (items.map ofHint) (listedParams ofHint items)

theorem readAll_eq_map (typeVars : List String) (ofText : String → Ty) (hints : List Expr) :
    readAll typeVars ofText hints = hints.map (readWith typeVars ofText) := by
  induction hints with
  | nil => rfl
  | cons first rest ih => simp [readAll, ih]

/-- Of one item, a list of parameters does not matter. -/
theorem ofSubscript_singleton (name : String) (ty : Ty) (hasEllipsis : Bool)
    (params other : Option (List Ty)) :
    ofSubscript name [ty] hasEllipsis params = ofSubscript name [ty] hasEllipsis other := by
  unfold ofSubscript
  split <;> rfl

/-- A subscripted name is read by reading its items. -/
theorem readWith_subscript (typeVars : List String) (ofText : String → Ty) (span : Span)
    {value : Expr} {name : String} (named : baseName? value = some name) (index : Expr) :
    readWith typeVars ofText (.subscript span value index) =
      (Call.subscript name index).result (readWith typeVars ofText) := by
  simp only [readWith, named, Call.result]
  cases index
  case tuple span items =>
    simp only [itemTypes, readItems, itemsOf, readAll_eq_map]
    congr 1
    cases items with
    | nil => rfl
    | cons first rest =>
      cases first
      case list span params => simp only [readParams, listedParams, readAll_eq_map]
      all_goals rfl
  all_goals exact ofSubscript_singleton _ _ _ _ _

/-- Only the items that are read matter. -/
theorem ofSubscript_itemsRead {name : String} (other : name ≠ "Callable") (ofHint : Expr → Ty)
    (items : List Expr) (params : Option (List Ty)) :
    ofSubscript name ((itemsRead name items).map ofHint) (items.any isEllipsis) none =
      ofSubscript name (items.map ofHint) (items.any isEllipsis) params := by
  have first : ((items.take 1).map ofHint).head? = (items.map ofHint).head? := by
    cases items <;> rfl
  unfold itemsRead
  split
  case h_1 | h_2 | h_3 => simp only [ofSubscript, first]
  case h_4 | h_5 =>
    match items with
    | [] | [_] | [_, _] | _ :: _ :: _ :: _ => rfl
  case h_6 | h_7 =>
    split
    · rename_i isTrue
      simp only [ofSubscript, first, isTrue, if_true]
    · rfl
  case h_8 =>
    unfold ofSubscript
    split
    case h_9 => exact absurd rfl other
    all_goals rfl

/-- Reading fully follows the rounds. -/
theorem result_eq_answer (shortens : Shortens parse) (typeVars : List String) (call : Call) :
    call.result (readFully parse typeVars) =
      call.answer parse typeVars (Call.result (readFully parse typeVars)) := by
  have unfolded := readFully_eq shortens typeVars
  cases call with
  | read hint =>
    rw [Call.result, unfolded]
    cases hint
    case literal span value =>
      cases value
      case str text =>
        simp only [readWith, ofParsed, Call.answer, Call.made, Call.combine]
        cases parse text <;> rfl
      all_goals rfl
    case subscript span value index =>
      cases named : baseName? value with
      | none => simp [readWith, Call.answer, Call.made, Call.combine, named]
      | some name =>
        rw [readWith_subscript _ _ _ named]
        simp only [Call.answer, Call.made, Call.combine, named, Option.toList_some, List.map_cons,
          List.map_nil, List.headD_cons]
        congr 1
        funext hint
        exact (unfolded hint).symm
    case binary span op left right =>
      cases op
      case bitOr =>
        simp only [readWith, Call.answer, Call.made, Call.combine, List.map_cons, List.map_nil,
          Call.result]
        rw [unfolded left, unfolded right]
      all_goals rfl
    all_goals rfl
  | subscript name index =>
    by_cases isCallable : name = "Callable"
    · subst isCallable
      simp [Call.result, Call.answer, Call.made, Call.combine, ofSubscript]
    · simp [Call.result, Call.answer, Call.made, Call.combine, isCallable]
      rw [← ofSubscript_itemsRead isCallable]
      rfl
  | callable items =>
    match items with
    | [params, ret] =>
      cases params
      case list span params =>
        simp [Call.result, Call.answer, Call.made, Call.combine, callableOf, listedParams,
          Function.comp_def]
      all_goals rfl
    | [] | [_] | _ :: _ :: _ :: _ =>
      simp [Call.result, Call.answer, Call.combine, callableOf]

/-- Reading an annotation ends, however deep strings are nested: if every string in a parsed text is
shorter than the text, the calls that reading makes are well founded. So exactly one way to answer
the calls follows the rounds, and reading to a sufficient depth gives its answers. -/
theorem reading_terminates {parse : String → Option Expr} (shortens : Shortens parse)
    (typeVars : List String) :
    (WellFounded fun callee caller : Call => callee ∈ caller.made parse) ∧
      ∃ ask : Call → Ty,
        (∀ other : Call → Ty,
          (∀ call, other call = call.answer parse typeVars other) ↔ other = ask) ∧
        ∀ hint depth, textBound hint ≤ depth →
          readDeep parse typeVars depth hint = ask (.read hint) := by
  refine ⟨Call.made_wellFounded shortens, Call.result (readFully parse typeVars), ?_, ?_⟩
  · intro other
    have follows := result_eq_answer shortens typeVars
    constructor
    · intro alsoFollows
      exact Call.answer_unique shortens typeVars alsoFollows follows
    · rintro rfl call
      exact follows call
  · intro hint depth enough
    exact readDeep_eq_of_le shortens typeVars enough (Nat.le_refl _)

/-- The parser of the program parses every text into shorter strings. A name in two pairs of quotes
is read through both. -/
theorem reading_terminates_in_quotes :
    let parse := fun text => (parseExpression text).toOption
    Shortens parse ∧
      (WellFounded fun callee caller : Call => callee ∈ caller.made parse) ∧
      ∀ depth, 6 ≤ depth → readDeep parse [] depth (.literal ⟨0, 7⟩ (.str "'int'")) = .int := by
  intro parse
  obtain ⟨wellFounded, ask, _, agrees⟩ := reading_terminates shortens_parseExpression []
  refine ⟨shortens_parseExpression, wellFounded, fun depth enough => ?_⟩
  calc readDeep parse [] depth (.literal ⟨0, 7⟩ (.str "'int'"))
      = ask (.read (.literal ⟨0, 7⟩ (.str "'int'"))) := agrees _ _ enough
    _ = readDeep parse [] 6 (.literal ⟨0, 7⟩ (.str "'int'")) := (agrees _ _ (by decide)).symm
    _ = .int := by decide +kernel

/-! ### The reader of the program -/

/-- Annotations are read as deep as they have to be. -/
theorem readDeep_eq_read (typeVars : List String) {hint : Expr} {depth : Nat}
    (enough : textBound hint ≤ depth) :
    readDeep (fun text => (parseExpression text).toOption) typeVars depth hint =
      read typeVars hint :=
  readDeep_eq_of_le shortens_parseExpression typeVars enough (Nat.le_refl _)

/-- Reading an annotation is the one way to answer the calls that follows the rounds, without any
bound on how deep strings are nested. -/
theorem follows_iff_eq_read (typeVars : List String) (ask : Call → Ty) :
    (∀ call, ask call =
        call.answer (fun text => (parseExpression text).toOption) typeVars ask) ↔
      ask = Call.result (read typeVars) := by
  have follows := result_eq_answer shortens_parseExpression typeVars
  constructor
  · intro alsoFollows
    exact Call.answer_unique shortens_parseExpression typeVars alsoFollows follows
  · rintro rfl call
    exact follows call

end Callwise.TypeHint
