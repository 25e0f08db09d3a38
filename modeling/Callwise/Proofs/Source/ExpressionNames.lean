import Callwise.Proofs.Source.ExpressionParts
import Callwise.Proofs.Source.NameTokens

/-!
# Names in expressions

An expression can define names: those that stand for themselves, if it is a target, and those before
`:=`. They are undotted if the words are, and the words of every text are, also of the texts between
the braces of formatted strings.
-/

namespace Callwise

/-- The names that the expression can define have no dots. -/
inductive Expr.IsUndotted : Expr → Prop where
  | literal (span : Span) (value : Literal) : IsUndotted (.literal span value)
  | name {id : String} (span : Span) (undotted : Callwise.IsUndotted id) :
    IsUndotted (.name span id)
  | access {value : Expr} (span : Span) (attr : String) (inside : IsUndotted value) :
    IsUndotted (.access span value attr)
  | call {callee : Expr} {args : List Expr} {keywords : List Keyword} (span : Span)
    (inCallee : IsUndotted callee) (inArgs : ∀ arg ∈ args, IsUndotted arg)
    (inKeywords : ∀ keyword ∈ keywords, IsUndotted keyword.value) :
    IsUndotted (.call span callee args keywords)
  | await {value : Expr} (span : Span) (inside : IsUndotted value) : IsUndotted (.await span value)
  | list {items : List Expr} (span : Span) (inItems : ∀ item ∈ items, IsUndotted item) :
    IsUndotted (.list span items)
  | tuple {items : List Expr} (span : Span) (inItems : ∀ item ∈ items, IsUndotted item) :
    IsUndotted (.tuple span items)
  | set {items : List Expr} (span : Span) (inItems : ∀ item ∈ items, IsUndotted item) :
    IsUndotted (.set span items)
  | dict {entries : List DictEntry} (span : Span)
    (inEntries : ∀ entry ∈ entries, ∀ part ∈ entry.parts, IsUndotted part) :
    IsUndotted (.dict span entries)
  | binary {left right : Expr} (span : Span) (op : BinaryOp) (inLeft : IsUndotted left)
    (inRight : IsUndotted right) : IsUndotted (.binary span op left right)
  | unary {operand : Expr} (span : Span) (op : UnaryOp) (inside : IsUndotted operand) :
    IsUndotted (.unary span op operand)
  | boolean {operands : List Expr} (span : Span)
    (inOperands : ∀ operand ∈ operands, IsUndotted operand) : IsUndotted (.boolean span operands)
  | compare {left : Expr} {others : List Expr} (span : Span) (inLeft : IsUndotted left)
    (inOthers : ∀ other ∈ others, IsUndotted other) : IsUndotted (.compare span left others)
  | conditional {test body orElse : Expr} (span : Span) (inTest : IsUndotted test)
    (inBody : IsUndotted body) (inElse : IsUndotted orElse) :
    IsUndotted (.conditional span test body orElse)
  | lambda {body : Expr} (span : Span) (params : List (Parameter Unit))
    (inBody : IsUndotted body) : IsUndotted (.lambda span params body)
  | subscript {value index : Expr} (span : Span) (inValue : IsUndotted value)
    (inIndex : IsUndotted index) : IsUndotted (.subscript span value index)
  | formatted {values : List Expr} (span : Span) (inValues : ∀ value ∈ values, IsUndotted value) :
    IsUndotted (.formatted span values)
  | starred {value : Expr} (span : Span) (inside : IsUndotted value) :
    IsUndotted (.starred span value)
  | assignment {target : String} {value : Expr} (span : Span)
    (undotted : Callwise.IsUndotted target) (inside : IsUndotted value) :
    IsUndotted (.assignment span target value)
  | comprehension (span : Span) (kind : ComprehensionKind) : IsUndotted (.comprehension span kind)
  | slice (span : Span) : IsUndotted (.slice span)
  | yield (span : Span) : IsUndotted (.yield span)

namespace Expr

/-- The names in an expression are undotted if those in its parts are. -/
theorem IsUndotted.grows : Grows .undotted IsUndotted IsUndotted where
  literal span value _ := .literal span value
  text span _ _ := .literal span _
  name span allowed := .name span (Words.isUndotted_of_allow allowed)
  access := .access
  call := .call
  await := .await
  list := .list
  tuple := .tuple
  set := .set
  dict := .dict
  binary := .binary
  unary := .unary
  boolean := .boolean
  compare := .compare
  conditional := .conditional
  lambda := .lambda
  subscript := .subscript
  formatted := .formatted
  starred := .starred
  assignment span allowed inside := .assignment span (Words.isUndotted_of_allow allowed) inside
  comprehension := .comprehension
  slice := .slice
  yield := .yield

end Expr

/-- The rules make undotted names of undotted words, and of every text. -/
abbrev ExprRules.AreUndotted (rules : ExprRules) : Prop :=
  rules.Build .undotted Expr.IsUndotted Expr.IsUndotted

/-- The names that expressions define are undotted, however deep they are nested. -/
theorem ExprRules.areUndotted_ofDepth (depth : Nat) : (ExprRules.ofDepth depth).AreUndotted := by
  refine ExprRules.build_ofDepth Expr.IsUndotted.grows (fun build text offset => ?_) depth
  exact (Lexeme.yields_undotted _ _ _).bind fun _ words =>
    (ExprGrammar.gives_wholeText build).run words

end Callwise
