import Callwise.Source.StmtGrammar
import Callwise.Ty.Union

/-!
# Annotations

An annotation is an expression that stands for a type. A string in an annotation is parsed and read
in its place. Since a string is longer than every string that stands inside it, reading ends after
at most as many levels as the longest string has characters; `TypeHint.textBound` gives that
number, and reading counts it down.
-/

namespace Callwise.TypeHint

/-- The type that a name stands for; declared type variables come first. -/
def ofName (typeVars : List String) (name : String) : Ty :=
  if typeVars.contains name then .typeVar name
  else
    match name with
    | "int" => .int
    | "float" => .float
    | "str" => .str
    | "bool" => .bool
    | "bytes" => .bytes
    | "None" => .none
    | "Any" => .any
    | "Never" | "NoReturn" => .never
    | "list" | "List" => .list .any
    | "dict" | "Dict" => .dict .any .any
    | "Callable" => .callable (.ellipsis .any)
    | other => .named other

/-- The name before a subscript: a plain name or the last part of a dotted one. -/
def baseName? : Expr → Option String
  | .name _ id => some id
  | .access _ _ attr => some attr
  | _ => none

/-- The items of a subscript. -/
def itemsOf : Expr → List Expr
  | .tuple _ items => items
  | other => [other]

/-- The types of the items of a subscript, given the type of the whole index and those of its items
if it is a tuple. -/
def itemTypes (index : Expr) (whole : Ty) (items : List Ty) : List Ty :=
  match index with
  | .tuple .. => items
  | _ => [whole]

/-- The item is `...`. -/
def isEllipsis : Expr → Bool
  | .literal _ .ellipsis => true
  | _ => false

/-- `Callable[params, ret]`, given the types of its items and, if the first is a list, the types in
that. -/
def callableOf (types : List Ty) (params : Option (List Ty)) : Ty :=
  match types, params with
  | [_, ret], some params => .callable (.ofTypes params ret)
  | [_, ret], none => .callable (.ellipsis ret)
  | _, _ => .callable (.ellipsis .any)

/-- A subscripted name, given the types of its items, whether one of them is `...`, and the types in
its first item if that is a list. -/
def ofSubscript (name : String) (types : List Ty) (hasEllipsis : Bool) (params : Option (List Ty)) :
    Ty :=
  let first := types.head?.getD .any
  match name with
  | "list" | "List" => .list first
  | "dict" | "Dict" =>
    match types with
    | [key, value] => .dict key value
    | _ => .dict .any .any
  | "tuple" | "Tuple" => if hasEllipsis then .generic "tuple" [first] else .tuple types
  | "Optional" => Ty.unionOf [first, .none]
  | "Union" => Ty.unionOf types
  | "Callable" => callableOf types params
  | other => .generic other types

mutual

/-- The type of an annotation, given what its strings stand for. -/
def readWith (typeVars : List String) (ofText : String → Ty) : Expr → Ty
  | .name _ id => ofName typeVars id
  | .access _ _ attr => ofName typeVars attr
  | .literal _ .none => .none
  | .literal _ (.str text) => ofText text
  | .subscript _ value index =>
    match baseName? value with
    | none => .any
    | some name =>
      let types :=
      itemTypes index (readWith typeVars ofText index) (readItems typeVars ofText index)
      ofSubscript name types ((itemsOf index).any isEllipsis) (readParams typeVars ofText index)
  | .binary _ .bitOr left right =>
    Ty.unionOf [readWith typeVars ofText left, readWith typeVars ofText right]
  | _ => .any

/-- The types of the items of a tuple. -/
def readItems (typeVars : List String) (ofText : String → Ty) : Expr → List Ty
  | .tuple _ items => readAll typeVars ofText items
  | _ => []

/-- The types in the first item of a tuple if that is a list. -/
def readParams (typeVars : List String) (ofText : String → Ty) : Expr → Option (List Ty)
  | .tuple _ (.list _ items :: _) => some (readAll typeVars ofText items)
  | _ => Option.none

/-- The types of several annotations. -/
def readAll (typeVars : List String) (ofText : String → Ty) : List Expr → List Ty
  | [] => []
  | first :: rest => readWith typeVars ofText first :: readAll typeVars ofText rest

end

/-- Read an annotation with strings inside strings up to the given depth. Text that does not parse
stands for `Any`. -/
def readDeep (parse : String → Option Expr) (typeVars : List String) : (depth : Nat) → Expr → Ty
  | 0 => readWith typeVars fun _ => .any
  | depth + 1 => readWith typeVars fun text =>
    match parse text with
    | some inner => readDeep parse typeVars depth inner
    | none => .any

mutual

/-- One more than the length of the longest string that is read as a part of the annotation. -/
def textBound : Expr → Nat
  | .literal _ (.str text) => text.length + 1
  | .subscript _ _ index => textBound index
  | .binary _ _ left right => max (textBound left) (textBound right)
  | .tuple _ items => textBoundAll items
  | .list _ items => textBoundAll items
  | _ => 0

/-- The largest bound of several annotations. -/
def textBoundAll : List Expr → Nat
  | [] => 0
  | first :: rest => max (textBound first) (textBoundAll rest)

end

/-- The type of an annotation where the given type variables are declared. -/
def read (typeVars : List String) (hint : Expr) : Ty :=
  readDeep (fun text => (parseExpression text).toOption) typeVars (textBound hint) hint

end Callwise.TypeHint
