import Callwise.Proofs.Check.Inheritance
import Callwise.Proofs.Source.PlainOperands
import Callwise.Proofs.TypeHint.ForwardReferences

/-!
# The two notations of a union

A union is written `Union[a, b, c]` or `a | b | c`. The first joins the types of all items at once.
The second is grouped from the left, so it joins two types at a time and simplifies what it has
before the next one comes. Annotations are read into canonical types, and canonical types may be
joined in steps, so both notations give the same type with its members in the same order.
-/

namespace Callwise.TypeHint

/-- Annotations are read into canonical types if strings stand for canonical types. -/
theorem isCanonical_readWith (typeVars : List String) {ofText : String → Ty}
    (texts : ∀ text, (ofText text).isCanonical = true) (hint : Expr) :
    (readWith typeVars ofText hint).isCanonical = true :=
  Ty.Hereditary.isCanonical.readWith (fun _ => rfl) typeVars texts hint

/-- Strings stand for canonical types. -/
theorem isCanonical_readText (parse : String → Option Expr) (typeVars : List String) (depth : Nat)
    (text : String) : (readText parse typeVars depth text).isCanonical = true := by
  cases depth with
  | zero => rfl
  | succ depth =>
    simp only [readText]
    split
    · exact Ty.Hereditary.isCanonical.readDeep (fun _ => rfl) parse typeVars depth _
    · rfl

/-- A chain is read by joining the types of its parts one after another. -/
theorem readWith_orChain_eq_foldl (typeVars : List String) (ofText : String → Ty) (first : Expr)
    (rest : List (Span × Expr)) :
    readWith typeVars ofText (.orChain first rest) =
      (rest.map fun entry => readWith typeVars ofText entry.2).foldl
        (fun joined ty => Ty.unionOf [joined, ty]) (readWith typeVars ofText first) := by
  induction rest generalizing first with
  | nil => rfl
  | cons entry rest ih =>
    have step : readWith typeVars ofText (.binary entry.1 .bitOr first entry.2) =
        Ty.unionOf [readWith typeVars ofText first, readWith typeVars ofText entry.2] := by
      simp only [readWith]
    rw [List.map_cons, List.foldl_cons, ← step]
    exact ih _

/-- A chain stands for the union of its parts. -/
theorem readWith_orChain (typeVars : List String) {ofText : String → Ty}
    (texts : ∀ text, (ofText text).isCanonical = true) (first : Expr)
    (rest : List (Span × Expr)) :
    readWith typeVars ofText (.orChain first rest) =
      Ty.unionOf ((first :: rest.map Prod.snd).map (readWith typeVars ofText)) := by
  have canonical := isCanonical_readWith typeVars texts
  have each : ∀ ty ∈ [readWith typeVars ofText first] ++
      (rest.map fun entry => readWith typeVars ofText entry.2), ty.isCanonical = true := by
    rw [List.forall_mem_append, List.forall_mem_singleton, List.forall_mem_map]
    exact ⟨canonical first, fun entry _ => canonical entry.2⟩
  have joined := Ty.foldl_unionOf each
  rw [Ty.unionOf_singleton_of_isCanonical (canonical first)] at joined
  rw [readWith_orChain_eq_foldl, joined]
  simp [Function.comp_def]

/-- `Union` between brackets stands for the union of its items. -/
theorem readWith_union (typeVars : List String) (ofText : String → Ty) {base : Expr}
    (isUnion : baseName? base = some "Union") (span tupleSpan : Span) (items : List Expr) :
    readWith typeVars ofText (.subscript span base (.tuple tupleSpan items)) =
      Ty.unionOf (items.map (readWith typeVars ofText)) := by
  rw [readWith_subscript _ _ _ isUnion]
  rfl

/-- The strings in a chain are those in its parts. -/
theorem textBound_orChain (first : Expr) (rest : List (Span × Expr)) :
    textBound (.orChain first rest) = textBoundAll (first :: rest.map Prod.snd) := by
  induction rest generalizing first with
  | nil => simp [Expr.orChain, textBoundAll]
  | cons entry rest ih =>
    have step := ih (.binary entry.1 .bitOr first entry.2)
    simp only [textBoundAll, textBound, List.map_cons] at step ⊢
    rw [← Nat.max_assoc]
    exact step

/-- With the strings of all of several parts in reach, each part is read as it is on its own. -/
theorem map_readWith_eq_map_read (typeVars : List String) (parts : List Expr) :
    parts.map (readWith typeVars
        (readText (fun text => (parseExpression text).toOption) typeVars (textBoundAll parts))) =
      parts.map (read typeVars) := by
  refine List.map_congr_left fun part member => ?_
  rw [← readDeep_eq_readWith]
  exact readDeep_eq_read typeVars (textBound_le_of_mem member)

/-- `a | b | c` and `Union[a, b, c]` are read into the same type, with its members in the same
order, whatever the parts are and however many. It is the union of what the parts are read into, in
the order in which they are written. -/
theorem union_notations_read_alike (typeVars : List String) (first : Expr)
    (rest : List (Span × Expr)) {base : Expr} (isUnion : baseName? base = some "Union")
    (span tupleSpan : Span) :
    read typeVars (.orChain first rest) =
        read typeVars (.subscript span base (.tuple tupleSpan (first :: rest.map Prod.snd))) ∧
      read typeVars (.orChain first rest) =
        Ty.unionOf ((first :: rest.map Prod.snd).map (read typeVars)) := by
  have texts := isCanonical_readText (fun text => (parseExpression text).toOption) typeVars
    (textBoundAll (first :: rest.map Prod.snd))
  have chain : read typeVars (.orChain first rest) =
      Ty.unionOf ((first :: rest.map Prod.snd).map (read typeVars)) := by
    rw [read, textBound_orChain, readDeep_eq_readWith, readWith_orChain typeVars texts,
      map_readWith_eq_map_read]
  have brackets :
      read typeVars (.subscript span base (.tuple tupleSpan (first :: rest.map Prod.snd))) =
        Ty.unionOf ((first :: rest.map Prod.snd).map (read typeVars)) := by
    rw [read, readDeep_eq_readWith, readWith_union typeVars _ isUnion]
    simp only [textBound, map_readWith_eq_map_read]
  exact ⟨chain.trans brackets.symm, chain⟩

/-- `bool | Optional[T] | 'int'` and `typing.Union[bool, Optional[T], 'int']`. Both stand for the
union of `T`, `None` and `int`, which the truth values are among. -/
theorem union_notations_read_alike_of_three :
    let first := Expr.name ⟨0, 4⟩ "bool"
    let rest : List (Span × Expr) :=
      [(⟨0, 18⟩, .subscript ⟨7, 18⟩ (.name ⟨7, 15⟩ "Optional") (.name ⟨16, 17⟩ "T")),
        (⟨0, 26⟩, .literal ⟨21, 26⟩ (.str "int"))]
    let base := Expr.access ⟨0, 12⟩ (.name ⟨0, 6⟩ "typing") "Union"
    baseName? base = some "Union" ∧
      read ["T"] (.orChain first rest) = .union [.typeVar "T", .none, .int] ∧
      read ["T"] (.subscript ⟨0, 39⟩ base (.tuple ⟨13, 38⟩ (first :: rest.map Prod.snd))) =
        .union [.typeVar "T", .none, .int] := by
  intro first rest base
  have isUnion : baseName? base = some "Union" := rfl
  obtain ⟨alike, joined⟩ :=
    union_notations_read_alike ["T"] first rest isUnion ⟨0, 39⟩ ⟨13, 38⟩
  have union : read ["T"] (.orChain first rest) = .union [.typeVar "T", .none, .int] :=
    joined.trans (by decide +kernel)
  exact ⟨isUnion, union, alike.symm.trans union⟩

end Callwise.TypeHint
