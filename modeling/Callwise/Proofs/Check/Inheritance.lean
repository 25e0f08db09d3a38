import Callwise.Check.Statements
import Callwise.Proofs.Refine.Inheritance

/-!
# What the checker makes of types

The checker reads annotations, takes elements out of containers, joins the types of branches, writes
down signatures and hands the types of a call to a strategy. All of this keeps a hereditary
property that every type variable has.
-/

namespace Callwise

variable {kept : Ty → Prop}

/-- `Callable[..., ret]`. -/
theorem Signature.All.ellipsis (hereditary : Ty.Hereditary kept) {ret : Ty} (inside : kept ret) :
    (Signature.ellipsis ret).All kept := by
  have any : kept .any := hereditary.atom rfl
  refine ⟨inside, ?_⟩
  simp only [Signature.ellipsis, List.forall_mem_cons]
  exact ⟨any, any, by simp⟩

namespace Ty.Hereditary

/-! ### Annotations -/

/-- `Callable` with the types between its brackets. -/
theorem callableOf (hereditary : Hereditary kept) {types : List Ty} (each : ∀ ty ∈ types, kept ty)
    {params : Option (List Ty)} (listed : ∀ items, params = some items → ∀ ty ∈ items, kept ty) :
    kept (TypeHint.callableOf types params) := by
  unfold TypeHint.callableOf
  split
  · rename_i ret items
    apply (hereditary.callable_iff _).mpr
    refine ⟨each ret (by simp), ?_⟩
    simp only [Signature.ofTypes, List.forall_mem_map]
    exact listed items rfl
  · rename_i ret
    exact (hereditary.callable_iff _).mpr (.ellipsis hereditary (each ret (by simp)))
  · exact (hereditary.callable_iff _).mpr (.ellipsis hereditary (hereditary.atom rfl))

/-- A subscripted name. -/
theorem ofSubscript (hereditary : Hereditary kept) (name : String) {types : List Ty}
    (each : ∀ ty ∈ types, kept ty) (hasEllipsis : Bool) {params : Option (List Ty)}
    (listed : ∀ items, params = some items → ∀ ty ∈ items, kept ty) :
    kept (TypeHint.ofSubscript name types hasEllipsis params) := by
  have any : kept .any := hereditary.atom rfl
  have first : kept (types.head?.getD .any) := by
    cases types with
    | nil => exact any
    | cons ty rest => exact each ty List.mem_cons_self
  have none : kept .none := hereditary.atom rfl
  unfold TypeHint.ofSubscript
  simp only
  split
  case h_1 | h_2 => exact (hereditary.list_iff _).mpr first
  case h_3 | h_4 =>
    split
    · rename_i key value
      exact (hereditary.dict_iff key value).mpr ⟨each key (by simp), each value (by simp)⟩
    · exact (hereditary.dict_iff _ _).mpr ⟨any, any⟩
  case h_5 | h_6 =>
    split
    · exact (hereditary.generic_iff _ _).mpr (by simpa using first)
    · exact (hereditary.tuple_iff types).mpr each
  case h_7 => exact hereditary.unionOf (by simp [first, none])
  case h_8 => exact hereditary.unionOf each
  case h_9 => exact hereditary.callableOf each listed
  case h_10 => exact (hereditary.generic_iff _ _).mpr each

section

variable (hereditary : Hereditary kept) (variableKept : ∀ name, kept (.typeVar name))

include hereditary variableKept

/-- A name in an annotation. -/
theorem ofName (typeVars : List String) (name : String) : kept (TypeHint.ofName typeVars name) := by
  have any : kept .any := hereditary.atom rfl
  unfold TypeHint.ofName
  split
  · exact variableKept name
  · split
    case h_10 | h_11 => exact (hereditary.list_iff _).mpr any
    case h_12 | h_13 => exact (hereditary.dict_iff _ _).mpr ⟨any, any⟩
    case h_14 => exact (hereditary.callable_iff _).mpr (.ellipsis hereditary any)
    all_goals exact hereditary.atom rfl

end

mutual

/-- An annotation, given that strings in it stand for types with the property. -/
theorem readWith (hereditary : Hereditary kept) (variableKept : ∀ name, kept (.typeVar name))
    (typeVars : List String) {ofText : String → Ty} (texts : ∀ text, kept (ofText text)) :
    (hint : Expr) → kept (TypeHint.readWith typeVars ofText hint)
  | .name _ id => hereditary.ofName variableKept typeVars id
  | .access _ _ attr => hereditary.ofName variableKept typeVars attr
  | .literal _ value => by
    cases value
    case str text => exact texts text
    all_goals exact hereditary.atom rfl
  | .subscript _ value index => by
    have whole := hereditary.readWith variableKept typeVars texts index
    have items := hereditary.readItems variableKept typeVars texts index
    have params := hereditary.readParams variableKept typeVars texts index
    simp only [TypeHint.readWith]
    split
    · exact hereditary.atom rfl
    · refine hereditary.ofSubscript _ ?_ _ params
      unfold TypeHint.itemTypes
      split
      · exact items
      · simpa using whole
  | .binary _ op left right => by
    have leftKept := hereditary.readWith variableKept typeVars texts left
    have rightKept := hereditary.readWith variableKept typeVars texts right
    cases op
    case bitOr =>
      simp only [TypeHint.readWith]
      exact hereditary.unionOf (by simp [leftKept, rightKept])
    all_goals exact hereditary.atom rfl
  | .call .. | .await .. | .list .. | .tuple .. | .set .. | .dict .. | .unary .. | .boolean ..
  | .compare .. | .conditional .. | .lambda .. | .formatted .. | .starred .. | .assignment ..
  | .comprehension .. | .slice _ | .yield _ => hereditary.atom rfl

/-- The items of a tuple of annotations. -/
theorem readItems (hereditary : Hereditary kept) (variableKept : ∀ name, kept (.typeVar name))
    (typeVars : List String) {ofText : String → Ty} (texts : ∀ text, kept (ofText text))
    (index : Expr) : ∀ ty ∈ TypeHint.readItems typeVars ofText index, kept ty := by
  cases index
  case tuple _ items =>
    simp only [TypeHint.readItems]
    exact hereditary.readAll variableKept typeVars texts items
  all_goals simp [TypeHint.readItems]
termination_by structural index

/-- The annotations of parameters. -/
theorem readParams (hereditary : Hereditary kept) (variableKept : ∀ name, kept (.typeVar name))
    (typeVars : List String) {ofText : String → Ty} (texts : ∀ text, kept (ofText text))
    (index : Expr) (types : List Ty)
    (read : TypeHint.readParams typeVars ofText index = some types) : ∀ ty ∈ types, kept ty := by
  cases index
  case tuple _ items =>
    cases items with
    | nil => cases read
    | cons first rest =>
      cases first
      case list _ items =>
        obtain rfl : TypeHint.readAll typeVars ofText items = types := by
          simpa [TypeHint.readParams] using read
        exact hereditary.readAll variableKept typeVars texts items
      all_goals cases read
  all_goals cases read
termination_by structural index

/-- Several annotations. -/
theorem readAll (hereditary : Hereditary kept) (variableKept : ∀ name, kept (.typeVar name))
    (typeVars : List String) {ofText : String → Ty} (texts : ∀ text, kept (ofText text)) :
    (hints : List Expr) → ∀ ty ∈ TypeHint.readAll typeVars ofText hints, kept ty
  | [] => by simp [TypeHint.readAll]
  | first :: rest => by
    simp only [TypeHint.readAll, List.forall_mem_cons]
    exact ⟨hereditary.readWith variableKept typeVars texts first,
      hereditary.readAll variableKept typeVars texts rest⟩

end

section

variable (hereditary : Hereditary kept) (variableKept : ∀ name, kept (.typeVar name))

include hereditary variableKept

/-- An annotation with strings inside strings, level by level. -/
theorem readDeep (parse : String → Option Expr) (typeVars : List String) : (depth : Nat) →
    (hint : Expr) → kept (TypeHint.readDeep parse typeVars depth hint)
  | 0, hint => hereditary.readWith variableKept typeVars (fun _ => hereditary.atom rfl) hint
  | depth + 1, hint => by
    apply hereditary.readWith variableKept typeVars
    intro text
    split
    · rename_i inner _
      exact readDeep parse typeVars depth inner
    · exact hereditary.atom rfl

/-- An annotation. -/
theorem read (typeVars : List String) (hint : Expr) : kept (TypeHint.read typeVars hint) :=
  hereditary.readDeep variableKept _ typeVars (TypeHint.textBound hint) hint

/-- What an `except` clause catches. -/
theorem caughtType (typeVars : List String) (caught : Option Expr) :
    kept (Check.caughtType typeVars caught) := by
  cases caught with
  | none => exact hereditary.atom rfl
  | some hint => exact hereditary.read variableKept typeVars hint

/-- The signature of a function as its annotations say. -/
theorem signatureOf (checker : Checker) (params : List (Parameter (Option Expr)))
    (returns : Option Expr) (isAsync : Bool) :
    (checker.signatureOf params returns isAsync).All kept := by
  have any : kept .any := hereditary.atom rfl
  have annotated : ∀ hint : Option Expr,
      kept ((hint.map (TypeHint.read checker.typeVars)).getD .any) := by
    intro hint
    cases hint with
    | none => exact any
    | some hint => exact hereditary.read variableKept checker.typeVars hint
  constructor
  · simp only [Checker.signatureOf]
    split
    · exact (hereditary.generic_iff _ _).mpr (by simp [any, annotated returns])
    · exact annotated returns
  · simp only [Checker.signatureOf, List.forall_mem_map]
    intro param _
    exact annotated param.hint

end

/-! ### Expressions -/

section

variable (hereditary : Hereditary kept)

include hereditary

/-- A literal. -/
theorem literal (value : Literal) : kept value.ty := by
  cases value <;> exact hereditary.atom rfl

/-- What a loop goes through. -/
theorem element {ty : Ty} (inside : kept ty) : kept ty.element := by
  unfold Ty.element
  split
  · exact (hereditary.list_iff _).mp inside
  · exact ((hereditary.dict_iff _ _).mp inside).1
  · exact hereditary.unionOf ((hereditary.tuple_iff _).mp inside)
  · exact (hereditary.generic_iff _ _).mp inside _ (List.mem_singleton_self _)
  · exact inside
  · exact hereditary.atom rfl

/-- What a number of targets get from a value. -/
theorem elementTypes {ty : Ty} (inside : kept ty) (count : Nat) :
    ∀ part ∈ Check.elementTypes ty count, kept part := by
  have replicated : ∀ part ∈ List.replicate count ty.element, kept part := by
    intro part within
    rw [List.eq_of_mem_replicate within]
    exact hereditary.element inside
  unfold Check.elementTypes
  split
  · split
    · exact (hereditary.tuple_iff _).mp inside
    · exact replicated
  · exact replicated

/-- The result of an operator. -/
theorem binaryResult (op : BinaryOp) {left right : Ty} (leftInside : kept left)
    (rightInside : kept right) : kept (Ty.binaryResult op left right) := by
  unfold Ty.binaryResult
  split
  · unfold Ty.numericResult
    split
    · exact hereditary.atom rfl
    · split <;> exact hereditary.atom rfl
  · split
    case h_4 item other _ =>
      have items := (hereditary.list_iff item).mp leftInside
      have others := (hereditary.list_iff other).mp rightInside
      exact (hereditary.list_iff _).mpr (hereditary.unionOf (by simp [items, others]))
    all_goals exact hereditary.atom rfl

/-- A subscript. -/
theorem subscriptResult {value : Ty} (inside : kept value) (index : Expr) :
    kept (value.subscriptResult index) := by
  unfold Ty.subscriptResult
  split
  · exact inside
  · exact (hereditary.list_iff _).mp inside
  · exact ((hereditary.dict_iff _ _).mp inside).2
  · exact inside
  · rename_i items _ position
    cases found : items[position]? with
    | none => exact hereditary.atom rfl
    | some item => exact (hereditary.tuple_iff items).mp inside item (List.mem_of_getElem? found)
  · exact hereditary.atom rfl
  · exact hereditary.unionOf ((hereditary.tuple_iff _).mp inside)
  · exact hereditary.atom rfl

/-- An awaited value. -/
theorem awaited {ty : Ty} (inside : kept ty) : kept ty.awaited := by
  unfold Ty.awaited
  split
  · rename_i ret
    exact (hereditary.generic_iff _ _).mp inside ret (by simp)
  · exact hereditary.atom rfl

/-- A sign in front of a value. -/
theorem signed {ty : Ty} (inside : kept ty) : kept ty.signed := by
  unfold Ty.signed
  split
  · exact hereditary.atom rfl
  · exact inside

/-- A dictionary spread out in another. -/
theorem spread {ty : Ty} (inside : kept ty) : kept ty.spread.1 ∧ kept ty.spread.2 := by
  unfold Ty.spread
  split
  · exact (hereditary.dict_iff _ _).mp inside
  · exact ⟨hereditary.atom rfl, hereditary.atom rfl⟩

/-! ### Functions, classes and calls -/

/-- A parameter inside its function. -/
theorem boundType {param : Param} (inside : kept param.ty) : kept (Checker.boundType param) := by
  have text : kept .str := hereditary.atom rfl
  unfold Checker.boundType
  split
  · exact (hereditary.generic_iff _ _).mpr (by simpa using inside)
  · exact (hereditary.dict_iff _ _).mpr ⟨text, inside⟩
  · exact inside

/-- A class. -/
theorem classType (name : String) : kept (Check.classType name) :=
  (hereditary.callable_iff _).mpr (.ellipsis hereditary (hereditary.atom rfl))

/-- The context of an accepted call holds the types of the call and nothing else. -/
theorem contextOf {call : AcceptedCall} (accepted : call.All kept) {arguments : List Argument}
    (all : Argument.All kept arguments) (fullName file : String) (location : Location) :
    (Check.contextOf fullName call arguments file location).All kept where
  arguments := by
    simp only [Check.contextOf, List.forall_mem_map]
    intro indices _ argument within
    obtain ⟨index, _, found⟩ := List.mem_filterMap.mp within
    exact all argument (List.mem_of_getElem? found)
  callee := (hereditary.callable_iff _).mpr accepted.signature
  defaultType := accepted.ret

end

end Ty.Hereditary

end Callwise
