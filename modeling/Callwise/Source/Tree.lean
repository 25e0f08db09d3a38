import Callwise.Location
import Callwise.Ty.Basic

/-!
# Syntax trees

Expressions and statements as the checker sees them. A tree keeps what a type can depend on and
nothing else: of a default value only that there is one, of a comprehension only its kind, of a
slice nothing, and statements that neither bind names nor hold examined expressions are all alike.
-/

namespace Callwise

/-- A literal value. Numbers other than integers and the bytes of a bytes literal do not matter. -/
inductive Literal where
  | none
  | bool
  | int (value : Nat)
  | float
  | imaginary
  | str (value : String)
  | bytes
  | ellipsis
  deriving DecidableEq, Repr, Inhabited

/-- The operators between two operands. -/
inductive BinaryOp where
  | add | sub | mul | matMul | div | floorDiv | mod | pow
  | shiftLeft | shiftRight | bitOr | bitXor | bitAnd
  deriving DecidableEq, Repr, Inhabited

/-- The operators in front of one operand; all but `not` are arithmetic. -/
inductive UnaryOp where
  | not
  | arithmetic
  deriving DecidableEq, Repr, Inhabited

/-- What a comprehension builds. -/
inductive ComprehensionKind where
  | list | set | dict | generator
  deriving DecidableEq, Repr, Inhabited

/-- A parameter as a function or a `lambda` declares it, given the form of its annotation. -/
structure Parameter (α : Type) where
  name : String
  kind : ParamKind
  hint : α
  deriving Inhabited

mutual

/-- An expression, with its place in the text. -/
inductive Expr where
  | literal (span : Span) (value : Literal)
  | name (span : Span) (id : String)
  | access (span : Span) (value : Expr) (attr : String)
  | call (span : Span) (callee : Expr) (args : List Expr) (keywords : List Keyword)
  | await (span : Span) (value : Expr)
  | list (span : Span) (items : List Expr)
  | tuple (span : Span) (items : List Expr)
  | set (span : Span) (items : List Expr)
  | dict (span : Span) (entries : List DictEntry)
  | binary (span : Span) (op : BinaryOp) (left right : Expr)
  | unary (span : Span) (op : UnaryOp) (operand : Expr)
  /-- Operands joined by `and` or by `or`. -/
  | boolean (span : Span) (operands : List Expr)
  | compare (span : Span) (left : Expr) (others : List Expr)
  | conditional (span : Span) (test body orElse : Expr)
  | lambda (span : Span) (params : List (Parameter Unit)) (body : Expr)
  | subscript (span : Span) (value index : Expr)
  /-- A formatted string with the expressions between its braces. -/
  | formatted (span : Span) (values : List Expr)
  | starred (span : Span) (value : Expr)
  /-- `name := value` -/
  | assignment (span : Span) (target : String) (value : Expr)
  | comprehension (span : Span) (kind : ComprehensionKind)
  | slice (span : Span)
  | yield (span : Span)

/-- An argument given by name, or `**value` without one. -/
structure Keyword where
  name : Option String
  value : Expr

/-- A part of a dictionary display: a key with its value, or another dictionary. -/
inductive DictEntry where
  | pair (key value : Expr)
  | spread (value : Expr)

end

instance : Inhabited Expr := ⟨.literal default .none⟩

namespace Expr

/-- Where the expression stands. -/
def span : Expr → Span
  | literal span _ | name span _ | access span _ _ | call span _ _ _ | await span _
  | list span _ | tuple span _ | set span _ | dict span _ | binary span _ _ _ | unary span _ _
  | boolean span _ | compare span _ _ | conditional span _ _ _ | lambda span _ _
  | subscript span _ _ | formatted span _ | starred span _ | assignment span _ _
  | comprehension span _ | slice span | yield span => span

/-- The expression is `*value`. -/
def isStarred : Expr → Bool
  | starred .. => true
  | _ => false

end Expr

/-- A name brought in by an import, and the name it gets here if that differs. -/
structure ImportedName where
  name : String
  alias? : Option String
  deriving DecidableEq, Repr, Inhabited

/-- What a function definition says apart from its body. -/
structure FunctionHeader where
  name : String
  params : List (Parameter (Option Expr))
  returns : Option Expr
  decorators : List Expr
  isAsync : Bool
  deriving Inhabited

mutual

/-- A statement. -/
inductive Stmt where
  | importModules (names : List ImportedName)
  /-- `from module import names`; a relative import has leading dots. -/
  | importFrom (module : Option String) (isRelative : Bool) (names : List ImportedName)
  | function (header : FunctionHeader) (body : List Stmt)
  | classDef (name : String) (decorators : List Expr) (body : List Stmt)
  | assign (targets : List Expr) (value : Expr)
  | annotated (target hint : Expr) (value : Option Expr)
  | augmented (target value : Expr)
  | expr (value : Expr)
  | ret (value : Option Expr)
  | ifThen (test : Expr) (body orElse : List Stmt)
  | whileLoop (test : Expr) (body orElse : List Stmt)
  | forLoop (target iterable : Expr) (body orElse : List Stmt)
  | withBlock (items : List (Expr × Option Expr)) (body : List Stmt)
  | tryBlock (body : List Stmt) (handlers : List Handler) (orElse cleanup : List Stmt)
  | raise (value : Option Expr)
  | assert (test : Expr)
  /-- A statement that the checker passes over. -/
  | inert

/-- An `except` clause. -/
structure Handler where
  caught : Option Expr
  name : Option String
  body : List Stmt

end

instance : Inhabited Stmt := ⟨.inert⟩

end Callwise
