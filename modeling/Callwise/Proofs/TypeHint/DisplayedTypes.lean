import Callwise.Proofs.Ty.Variables
import Callwise.Proofs.TypeHint.UnionNotations
import Callwise.Ty.Printer
import Mathlib.Tactic.Choose

/-!
# Displayed types are read back

Types are displayed in the notation of annotations: a word, a word with types in brackets behind it,
or types with bars between them. `Ty.spelling` says which, and `Ty.SpelledBy` which expressions have
this form, wherever they stand in a text. The text of a type whose names are identifiers is parsed
into such an expression, and such an expression is read into the type, provided that its unions are
simplified and that its names do not mean something else.
-/

namespace Callwise

/-! ### Spellings -/

/-- The outer form of a type's text. -/
inductive Ty.Spelling where
  | word (text : String)
  | subscript (base : String) (items : List Ty)
  | union (members : List Ty)

namespace Ty

/-- How the type is written. -/
def spelling : Ty → Spelling
  | .list item => .subscript "list" [item]
  | .dict key value => .subscript "dict" [key, value]
  | .tuple items => .subscript "tuple" items
  | .generic name (first :: rest) => .subscript name (first :: rest)
  | .union members => .union members
  | other => .word other.render

/-- The text of this form. -/
def Spelling.text : Spelling → String
  | .word text => text
  | .subscript base items => base ++ "[" ++ ", ".intercalate (items.map render) ++ "]"
  | .union members => " | ".intercalate (members.map render)

/-- The types that are written inside. -/
def Spelling.parts : Spelling → List Ty
  | .word _ => []
  | .subscript _ items => items
  | .union members => members

theorem renderList_eq_map (types : List Ty) : renderList types = types.map render := by
  induction types with
  | nil => rfl
  | cons first rest ih => simp [renderList, ih]

/-- Types are displayed as they are spelled. -/
theorem render_eq_text (ty : Ty) : ty.render = ty.spelling.text := by
  cases ty
  case generic name args =>
    cases args <;> simp [spelling, Spelling.text, render, renderList_eq_map]
  case dict key value =>
    simp [spelling, Spelling.text, render, String.intercalate_cons_cons, String.append_assoc]
  all_goals simp [spelling, Spelling.text, render, renderList_eq_map]

/-- Only unions are spelled as unions. -/
theorem eq_union_of_spelling {ty : Ty} {members : List Ty}
    (spelled : ty.spelling = .union members) : ty = .union members := by
  cases ty
  case generic name args => cases args <;> cases spelled
  all_goals cases spelled
  rfl

/-- What is written inside a type is directly inside it. -/
theorem parts_subset_components (ty : Ty) : ty.spelling.parts ⊆ ty.components := by
  cases ty
  case generic name args => cases args <;> simp [spelling, Spelling.parts, components]
  all_goals simp [spelling, Spelling.parts, components]

/-- The expression has the form in which the type is written: a word is a name, or the literal
`None`, an index is one item or a tuple of items, and bars are grouped from the left. -/
inductive SpelledBy : Ty → Expr → Prop where
  | none {ty : Ty} (span : Span) (spelled : ty.spelling = .word "None") :
      SpelledBy ty (.literal span .none)
  | word {ty : Ty} {text : String} (span : Span) (spelled : ty.spelling = .word text)
      (isName : text ≠ "None") : SpelledBy ty (.name span text)
  | subscript {ty : Ty} {base : String} {items : List Ty} {parts : List Expr} {index : Expr}
      (span baseSpan : Span) (spelled : ty.spelling = .subscript base items)
      (each : List.Forall₂ SpelledBy items parts) (isIndex : index.IsIndexOf parts) :
      SpelledBy ty (.subscript span (.name baseSpan base) index)
  | union {members : List Ty} (first : Expr) (rest : List (Span × Expr)) (several : rest ≠ [])
      (each : List.Forall₂ SpelledBy members (first :: rest.map Prod.snd)) :
      SpelledBy (.union members) (.orChain first rest)

/-! ### Parsing -/

/-- The text of the type can be taken apart: words are identifiers or `None`, brackets are not
empty, and a union has several members, none of them a union. -/
def isSpelled (ty : Ty) : Bool :=
  match ty.spelling with
  | .word text => text == "None" || isIdentifier text
  | .subscript base items => isIdentifier base && !items.isEmpty
  | .union members => decide (2 ≤ members.length) && members.all canBeMember

/-- The type's text is scanned as tokens that are parsed into an expression of the type's form, as
an operand of `|` if the type is no union. -/
def Parses (ty : Ty) : Prop :=
  ∃ tokens, Spells ty.render.toList tokens ∧ ∀ depth, tokens.length ≤ depth →
    Rule.Takes (ExprGrammar.test (.ofDepth depth)) tokens ExprGrammar.testEnds ty.SpelledBy ∧
      (ty.canBeMember = true → Rule.Takes (ExprGrammar.primary (.ofDepth depth)) tokens
        ExprGrammar.operandEnds ty.SpelledBy)

/-- Without operators it is enough what the rule for operands takes. -/
theorem Parses.of_primary {ty : Ty} {tokens : List Token} (spells : Spells ty.render.toList tokens)
    (takes : ∀ depth, tokens.length ≤ depth →
      Rule.Takes (ExprGrammar.primary (.ofDepth depth)) tokens ExprGrammar.operandEnds
        ty.SpelledBy) : ty.Parses := by
  refine ⟨tokens, spells, fun depth enough => ⟨?_, fun _ => takes depth enough⟩⟩
  exact ExprGrammar.passes_primary.takes spells.plain (by decide)
    ((takes depth enough).mono (by decide))

/-- A word is parsed into a name or `None`. -/
theorem parses_of_word {ty : Ty} {text : String} (spelled : ty.spelling = .word text)
    (isWord : text = "None" ∨ isIdentifier text = true) : ty.Parses := by
  have sameText : ty.render = text := by
    rw [render_eq_text, spelled]
    rfl
  by_cases isNone : text = "None"
  · subst isNone
    have spells : Spells ty.render.toList [.keyword "None"] := by
      rw [sameText]
      exact .none
    refine .of_primary spells fun depth _ => ExprGrammar.takes_none.imp ?_
    rintro hint ⟨span, rfl⟩
    exact .none span spelled
  · have spells : Spells ty.render.toList [.name text] := by
      rw [sameText]
      exact .name (isWord.resolve_left isNone)
    refine .of_primary spells fun depth _ => (ExprGrammar.takes_name text).imp ?_
    rintro hint ⟨span, rfl⟩
    exact .word span spelled isNone

/-- A name with types in brackets is parsed if the types are. -/
theorem parses_of_subscript {ty : Ty} {base : String} {items : List Ty}
    (spelled : ty.spelling = .subscript base items) (isName : isIdentifier base = true)
    (nonempty : items ≠ []) (each : ∀ item ∈ items, item.Parses) : ty.Parses := by
  choose! tokens spells takes using each
  have text : ty.render.toList = base.toList ++ (['['] ++
      ([',', ' '].intercalate (items.map fun item => item.render.toList) ++ [']'])) := by
    rw [render_eq_text, spelled]
    simp [Spelling.text, Function.comp_def]
  have inside := Spells.intercalate separates_comma nonempty spells
  refine .of_primary (text ▸ (Spells.name isName).bracket inside) fun depth enough => ?_
  simp only [List.length_append, List.length_singleton] at enough
  obtain ⟨depth, rfl⟩ := Nat.exists_eq_add_one_of_ne_zero (show depth ≠ 0 by omega)
  -- The items are read one level deeper, where the tokens of each are few enough.
  have deeper : ∀ item ∈ items, Rule.Takes (ExprRules.ofDepth (depth + 1)).test (tokens item)
      ExprGrammar.testEnds item.SpelledBy := by
    intro item member
    have shorter := Rule.length_le_intercalate (.symbol ",") tokens member
    exact (takes item member depth (by omega)).1
  have plain := fun item member => (spells item member).plain
  cases items with
  | nil => contradiction
  | cons first rest =>
    have index := ExprGrammar.takes_subscriptIndex plain deeper
    refine (ExprGrammar.takes_subscript base index).imp ?_
    rintro hint ⟨span, baseSpan, index, rfl, parts, isIndex, written⟩
    exact .subscript span baseSpan spelled written isIndex

/-- A union is parsed if its members are. -/
theorem parses_union {members : List Ty} (several : 2 ≤ members.length)
    (canBeMembers : ∀ member ∈ members, member.canBeMember = true)
    (each : ∀ member ∈ members, member.Parses) : (Ty.union members).Parses := by
  choose! tokens spells takes using each
  have text : (Ty.union members).render.toList =
      [' ', '|', ' '].intercalate (members.map fun member => member.render.toList) := by
    rw [render_eq_text]
    simp [spelling, Spelling.text, Function.comp_def]
  have whole := Spells.intercalate separates_bar (List.ne_nil_of_length_pos (by omega)) spells
  refine ⟨_, text ▸ whole, fun depth enough => ⟨?_, by simp [canBeMember]⟩⟩
  have operands : ∀ member ∈ members, Rule.Takes (ExprGrammar.primary (.ofDepth depth))
      (tokens member) ExprGrammar.operandEnds member.SpelledBy := by
    intro member isMember
    have shorter := Rule.length_le_intercalate (.symbol "|") tokens isMember
    exact (takes member isMember depth (by omega)).2 (canBeMembers member isMember)
  have plain := fun member isMember => (spells member isMember).plain
  cases members with
  | nil => cases several
  | cons first rest =>
    have chain := ExprGrammar.takes_operand plain operands
    refine (ExprGrammar.passes_operand.takes whole.plain (by decide) chain).imp ?_
    rintro hint ⟨head, tail, rfl, written⟩
    have sameLength := written.length_eq
    refine .union head tail ?_ written
    rintro rfl
    simp only [List.length_cons, List.map_nil, List.length_nil] at sameLength several
    omega

/-- A type whose text can be taken apart everywhere is parsed into an expression of its form. -/
theorem parses_of_isSpelled {ty : Ty} (spelled : ty.everywhere isSpelled = true) : ty.Parses := by
  have parts : ∀ part ∈ ty.spelling.parts, part.Parses := by
    intro part member
    have inside := parts_subset_components ty member
    have smaller := sizeOf_component_lt inside
    exact parses_of_isSpelled (everywhere_of_mem_components spelled inside)
  have root := everywhere_root spelled
  unfold isSpelled at root
  cases form : ty.spelling with
  | word text =>
    rw [form] at root
    exact parses_of_word form (by simpa using root)
  | subscript base items =>
    rw [form] at root parts
    simp only [Bool.and_eq_true, Bool.not_eq_true', List.isEmpty_eq_false_iff] at root
    exact parses_of_subscript form root.1 root.2 parts
  | union members =>
    rw [form] at root parts
    simp only [Bool.and_eq_true, decide_eq_true_eq, List.all_eq_true] at root
    obtain rfl := eq_union_of_spelling form
    exact parses_union root.1 root.2 parts
termination_by sizeOf ty

/-- The text by itself. -/
theorem parseExpression_render {ty : Ty} (spelled : ty.everywhere isSpelled = true) :
    ∃ hint, parseExpression ty.render = .ok hint ∧ ty.SpelledBy hint := by
  obtain ⟨tokens, spells, takes⟩ := parses_of_isSpelled spelled
  obtain ⟨lexemes, scanned, same⟩ := spells.ofText 0
  have size := spells.size
  have inner : Rule.Takes (ExprRules.ofDepth (nestingBound ty.render.toList)).test tokens
      ExprGrammar.testEnds ty.SpelledBy := (takes (ty.render.toList.length + 1) (by omega)).1
  obtain ⟨hint, parsed, written⟩ := ExprGrammar.run_wholeText spells.plain inner same
  refine ⟨hint, ?_, written⟩
  simp only [parseExpression, scanned]
  exact parsed

/-! ### Reading -/

/-- The names that stand for types of their own. -/
def reservedNames : List String :=
  ["int", "float", "str", "bool", "bytes", "None", "Any", "Never", "NoReturn", "list", "List",
    "dict", "Dict", "Callable"]

/-- The names that have a meaning of their own before brackets. -/
def reservedBases : List String :=
  ["list", "List", "dict", "Dict", "tuple", "Tuple", "Optional", "Union", "Callable"]

/-- The type has a notation in annotations, and its own name does not mean anything else there. -/
def isReadable (typeVars : List String) : Ty → Bool
  | .tuple items => !items.isEmpty
  | .typeVar name => typeVars.contains name
  | .named name =>
    isIdentifier name && !typeVars.contains name && !reservedNames.contains name
  | .generic name args => isIdentifier name && !args.isEmpty && !reservedBases.contains name
  | .placeholder _ | .callable _ | .overloaded _ => false
  | _ => true

/-- An expression of a type's form is neither a tuple nor `...`. -/
theorem SpelledBy.isPlain {ty : Ty} {hint : Expr} (spelled : ty.SpelledBy hint) :
    TypeHint.itemsOf hint = [hint] ∧ TypeHint.isEllipsis hint = false := by
  cases spelled with
  | none | word | subscript => exact ⟨rfl, rfl⟩
  | union first rest several _ =>
    obtain ⟨span, left, right, same⟩ := Expr.orChain_eq_binary first several
    rw [same]
    exact ⟨rfl, rfl⟩

/-- The items of an index of a type's form. -/
theorem SpelledBy.itemsOf_index {items : List Ty} {parts : List Expr} {index : Expr}
    (each : List.Forall₂ SpelledBy items parts) (isIndex : index.IsIndexOf parts) :
    TypeHint.itemsOf index = parts := by
  cases isIndex with
  | single item =>
    obtain ⟨ty, _, spelled, _⟩ := List.forall₂_cons_right_iff.mp each
    exact spelled.isPlain.1
  | several => rfl

theorem SpelledBy.any_isEllipsis {items : List Ty} {parts : List Expr}
    (each : List.Forall₂ SpelledBy items parts) : parts.any TypeHint.isEllipsis = false := by
  induction each with
  | nil => rfl
  | cons spelled _ ih =>
    rw [List.any_cons, spelled.isPlain.2, ih, Bool.or_false]

variable {typeVars : List String}

/-- A word that stands for a type is read as that type. -/
theorem ofName_of_spelling (unreserved : ∀ name ∈ reservedNames, name ∉ typeVars)
    {ty : Ty} (readable : ty.isReadable typeVars = true) {text : String}
    (spelled : ty.spelling = .word text) : TypeHint.ofName typeVars text = ty := by
  have free : ∀ name ∈ reservedNames, typeVars.contains name = false := fun name reserved => by
    simpa using unreserved name reserved
  cases ty
  case generic name args => cases args <;> simp [spelling, isReadable] at spelled readable
  case named name =>
    simp only [spelling, render, Spelling.word.injEq] at spelled
    subst spelled
    simp only [isReadable, Bool.and_eq_true, Bool.not_eq_true'] at readable
    unfold TypeHint.ofName
    rw [readable.1.2]
    have unreservedName := readable.2
    split <;> simp_all [reservedNames]
  case typeVar name =>
    simp only [spelling, render, Spelling.word.injEq] at spelled
    subst spelled
    have declared : typeVars.contains name = true := readable
    unfold TypeHint.ofName
    rw [if_pos declared]
  case placeholder | callable | overloaded => cases readable
  case list | tuple | dict | union => cases spelled
  all_goals
    simp only [spelling, render, Spelling.word.injEq] at spelled
    subst spelled
    unfold TypeHint.ofName
    rw [free _ (by decide)]
    rfl

/-- A name with types in brackets is read as the type that is written so. -/
theorem ofSubscript_of_spelling {ty : Ty} (readable : ty.isReadable typeVars = true)
    {base : String} {items : List Ty} (spelled : ty.spelling = .subscript base items)
    (params : Option (List Ty)) : TypeHint.ofSubscript base items false params = ty := by
  cases ty
  case generic name args =>
    cases args with
    | nil => cases spelled
    | cons first rest =>
      cases spelled
      simp only [isReadable, Bool.and_eq_true, Bool.not_eq_true'] at readable
      have unreserved := readable.2
      unfold TypeHint.ofSubscript
      split <;> simp_all [reservedBases]
  all_goals cases spelled
  all_goals rfl

/-- Several types are read back if each of them is. -/
theorem SpelledBy.map_eq {ofHint : Expr → Ty} {types : List Ty} {hints : List Expr}
    (each : List.Forall₂ SpelledBy types hints)
    (reads : ∀ ty ∈ types, ∀ hint, ty.SpelledBy hint → ofHint hint = ty) :
    hints.map ofHint = types := by
  induction each with
  | nil => rfl
  | cons spelled _ ih =>
    rw [List.forall_mem_cons] at reads
    rw [List.map_cons, reads.1 _ spelled, ih reads.2]

/-- A type whose unions are simplified and whose names mean what they say is read back. -/
theorem readWith_of_spelledBy (unreserved : ∀ name ∈ reservedNames, name ∉ typeVars)
    {ofText : String → Ty} (texts : ∀ text, (ofText text).isCanonical = true) {ty : Ty}
    (canonical : ty.isCanonical = true) (readable : ty.everywhere (isReadable typeVars) = true)
    {hint : Expr} (spelled : ty.SpelledBy hint) :
    TypeHint.readWith typeVars ofText hint = ty := by
  have parts : ∀ part ∈ ty.spelling.parts, ∀ hint, part.SpelledBy hint →
      TypeHint.readWith typeVars ofText hint = part := by
    intro part member hint spelled
    have inside := parts_subset_components ty member
    have smaller := sizeOf_component_lt inside
    exact readWith_of_spelledBy unreserved texts (everywhere_of_mem_components canonical inside)
      (everywhere_of_mem_components readable inside) spelled
  have simplified := everywhere_root canonical
  have root := everywhere_root readable
  cases spelled with
  | none span form =>
    -- The literal is read as the name `None` would be, which is no variable.
    have isType := ofName_of_spelling unreserved root form
    have isNone : TypeHint.ofName typeVars "None" = .none :=
      ofName_of_spelling unreserved rfl rfl
    simp only [TypeHint.readWith]
    exact isNone.symm.trans isType
  | word span form _ =>
    simp only [TypeHint.readWith]
    exact ofName_of_spelling unreserved root form
  | subscript span baseSpan form each isIndex =>
    rw [form] at parts
    rw [TypeHint.readWith_subscript typeVars ofText span rfl, TypeHint.Call.result,
      SpelledBy.itemsOf_index each isIndex, SpelledBy.any_isEllipsis each,
      SpelledBy.map_eq each parts]
    exact ofSubscript_of_spelling root form _
  | union first rest _ each =>
    rw [TypeHint.readWith_orChain typeVars texts, SpelledBy.map_eq each parts]
    exact unionOf_of_isSimplified simplified
termination_by sizeOf ty

theorem isIdentifier_of_reservedName :
    ∀ name ∈ reservedNames, name = "None" ∨ isIdentifier name = true := by
  decide +kernel

theorem isIdentifier_of_reservedBase : ∀ name ∈ reservedBases, isIdentifier name = true := by
  decide +kernel

/-- The text of a readable type can be taken apart, unless the type is a variable with an unusual
name. -/
theorem isSpelled_of_isReadable {ty : Ty} (simplified : ty.isSimplified = true)
    (readable : ty.isReadable typeVars = true)
    (identifier : ∀ name, ty = .typeVar name → isIdentifier name = true) : ty.isSpelled = true := by
  cases ty
  case union members =>
    simp only [isSimplified, Bool.and_eq_true] at simplified
    simpa [isSpelled, spelling] using simplified.1
  case typeVar name => simp [isSpelled, spelling, render, identifier name rfl]
  case named name =>
    simp only [isReadable, Bool.and_eq_true] at readable
    simp [isSpelled, spelling, render, readable.1.1]
  case generic name args =>
    simp only [isReadable, Bool.and_eq_true] at readable
    cases args with
    | nil => simp at readable
    | cons first rest => simp [isSpelled, spelling, readable.1.1]
  case placeholder | callable | overloaded => cases readable
  case list item => simp [isSpelled, spelling, isIdentifier_of_reservedBase "list" (by decide)]
  case dict key value =>
    simp [isSpelled, spelling, isIdentifier_of_reservedBase "dict" (by decide)]
  case tuple items =>
    simp only [isSpelled, spelling, isIdentifier_of_reservedBase "tuple" (by decide)]
    exact readable
  case none => rfl
  all_goals
    simp only [isSpelled, spelling, render, Bool.or_eq_true, beq_iff_eq]
    exact isIdentifier_of_reservedName _ (by decide)

/-- A type that can be read back is spelled with names in all its places. -/
theorem everywhere_isSpelled {ty : Ty} (canonical : ty.isCanonical = true)
    (readable : ty.everywhere (isReadable typeVars) = true)
    (identifiers : ∀ name ∈ ty.typeVarOccurrences, isIdentifier name = true) :
    ty.everywhere isSpelled = true := by
  rw [everywhere_iff_components]
  constructor
  · refine isSpelled_of_isReadable (everywhere_root canonical) (everywhere_root readable) ?_
    intro name isVariable
    exact identifiers name ((mem_typeVarOccurrences ty name).mpr (.inl isVariable))
  · intro part inside
    have smaller := sizeOf_component_lt inside
    refine everywhere_isSpelled (everywhere_of_mem_components canonical inside)
      (everywhere_of_mem_components readable inside) fun name occurs => ?_
    exact identifiers name ((mem_typeVarOccurrences ty name).mpr (.inr ⟨part, inside, occurs⟩))
termination_by sizeOf ty

end Ty

namespace TypeHint

/-- What a type is displayed as is read back: every expression of its form is read into the type,
and its text is parsed into such an expression. -/
theorem displayed_types_read_back (typeVars : List String)
    (unreserved : ∀ name ∈ Ty.reservedNames, name ∉ typeVars) (ty : Ty)
    (canonical : ty.isCanonical = true)
    (readable : ty.everywhere (Ty.isReadable typeVars) = true) :
    (∀ hint, ty.SpelledBy hint → read typeVars hint = ty) ∧
      ((∀ name ∈ ty.freeTypeVars, isIdentifier name = true) →
        ∃ hint, parseExpression ty.render = .ok hint ∧ ty.SpelledBy hint ∧
          read typeVars hint = ty) := by
  have reads : ∀ hint, ty.SpelledBy hint → read typeVars hint = ty := by
    intro hint spelled
    rw [read, readDeep_eq_readWith]
    exact Ty.readWith_of_spelledBy unreserved (isCanonical_readText _ typeVars _) canonical readable
      spelled
  refine ⟨reads, fun identifiers => ?_⟩
  have spelled := Ty.everywhere_isSpelled canonical readable fun name occurs =>
    identifiers name (by simpa [Ty.freeTypeVars] using occurs)
  obtain ⟨hint, parsed, written⟩ := Ty.parseExpression_render spelled
  exact ⟨hint, parsed, written, reads hint written⟩

/-- The last member of this union has the name of a statement. -/
theorem displayed_types_read_back_union :
    let ty : Ty := .union [.dict .str (.list (.typeVar "T")),
      .generic "Box" [.tuple [.int, .none]], .named "match"]
    ty.isCanonical = true ∧ ty.everywhere (Ty.isReadable ["T"]) = true ∧
      ∃ hint, parseExpression "dict[str, list[T]] | Box[tuple[int, None]] | match" = .ok hint ∧
        ty.SpelledBy hint ∧ read ["T"] hint = ty := by
  intro ty
  have canonical : ty.isCanonical = true := by decide +kernel
  have readable : ty.everywhere (Ty.isReadable ["T"]) = true := by decide +kernel
  have identifiers : ∀ name ∈ ty.freeTypeVars, isIdentifier name = true := by decide +kernel
  exact ⟨canonical, readable,
    (displayed_types_read_back ["T"] (by decide) ty canonical readable).2 identifiers⟩

end TypeHint

end Callwise
