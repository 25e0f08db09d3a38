/-!
# Types and signatures

A type is one of the built-in scalars, a container, a union, a named type with or
without arguments, a placeholder, a declared type variable, or something that can be
called: one signature, or an overloaded list of them. Types, signatures and parameters
contain each other, so every traversal is a family of functions with one member for each
of the three and one for each list of them.

Equality of types is decided by such a family. `Ty.same_iff` says that it decides
equality and nothing else, and instances for the three types follow.
-/

namespace Callwise

/-- How a parameter receives its argument; the same words say how an argument is
written at a call. -/
inductive ParamKind where
  /-- Given by position or by name, and required. -/
  | positional
  /-- Given by position or by name, with a default. -/
  | optional
  /-- Collects the remaining positional arguments. -/
  | star
  /-- Given by name only, and required. -/
  | named
  /-- Given by name only, with a default. -/
  | namedOptional
  /-- Collects the remaining named arguments. -/
  | doubleStar
  deriving DecidableEq, Repr, Inhabited

namespace ParamKind

/-- Positional arguments land here one by one. -/
def isPositional : ParamKind → Bool
  | positional | optional => true
  | _ => false

/-- Only a name reaches such a parameter. -/
def isNamed : ParamKind → Bool
  | named | namedOptional => true
  | _ => false

/-- A call without an argument for such a parameter is refused. -/
def isRequired : ParamKind → Bool
  | positional | named => true
  | _ => false

/-- The parameter takes any number of arguments. -/
def isVariadic : ParamKind → Bool
  | star | doubleStar => true
  | _ => false

/-- The kind that remains once position can no longer be used. -/
def toNamed : ParamKind → ParamKind
  | positional => named
  | optional => namedOptional
  | other => other

end ParamKind

mutual

/-- The static types of expressions. -/
inductive Ty where
  /-- Compatible with every type in both directions. -/
  | any
  /-- The type without values. -/
  | never
  /-- The type of the single value `None`. -/
  | none
  | bool
  | int
  | float
  | str
  | bytes
  /-- A list and the type of its items. -/
  | list (item : Ty)
  /-- A tuple of fixed length. -/
  | tuple (items : List Ty)
  /-- A dictionary with the types of its keys and values. -/
  | dict (key value : Ty)
  /-- One of several types. Nothing is assumed of the members here; `Ty.unionOf` builds
  the simplified form. -/
  | union (members : List Ty)
  /-- A named type applied to arguments. -/
  | generic (name : String) (args : List Ty)
  /-- A named type without arguments. -/
  | named (name : String)
  /-- A placeholder for something nothing is known about. -/
  | placeholder (id : Nat)
  /-- A declared type variable. -/
  | typeVar (name : String)
  /-- Something that is called through one signature. -/
  | callable (signature : Signature)
  /-- Something that is called through the first fitting signature. -/
  | overloaded (signatures : List Signature)

/-- Parameters in order and the type of the result. -/
structure Signature where
  params : List Param
  ret : Ty

/-- One parameter; a parameter without a name is reached by position only. -/
structure Param where
  name : Option String
  kind : ParamKind
  ty : Ty

end

instance : Inhabited Ty := ⟨.any⟩

/-! ### Equality -/

mutual

/-- Structural equality of types. -/
def Ty.same : Ty → Ty → Bool
  | .any, .any | .never, .never | .none, .none | .bool, .bool | .int, .int
  | .float, .float | .str, .str | .bytes, .bytes => true
  | .list left, .list right => left.same right
  | .tuple left, .tuple right => Ty.sameList left right
  | .dict leftKey leftValue, .dict rightKey rightValue =>
    leftKey.same rightKey && leftValue.same rightValue
  | .union left, .union right => Ty.sameList left right
  | .generic leftName left, .generic rightName right =>
    leftName == rightName && Ty.sameList left right
  | .named left, .named right => left == right
  | .placeholder left, .placeholder right => left == right
  | .typeVar left, .typeVar right => left == right
  | .callable left, .callable right => left.same right
  | .overloaded left, .overloaded right => Signature.sameList left right
  | _, _ => false
termination_by structural left => left

/-- Equality of lists of types. -/
def Ty.sameList : List Ty → List Ty → Bool
  | [], [] => true
  | left :: lefts, right :: rights => left.same right && Ty.sameList lefts rights
  | _, _ => false
termination_by structural left => left

/-- Equality of signatures. -/
def Signature.same : Signature → Signature → Bool
  | ⟨leftParams, leftRet⟩, ⟨rightParams, rightRet⟩ =>
    Param.sameList leftParams rightParams && leftRet.same rightRet
termination_by structural left => left

/-- Equality of lists of signatures. -/
def Signature.sameList : List Signature → List Signature → Bool
  | [], [] => true
  | left :: lefts, right :: rights => left.same right && Signature.sameList lefts rights
  | _, _ => false
termination_by structural left => left

/-- Equality of parameters. -/
def Param.same : Param → Param → Bool
  | ⟨leftName, leftKind, leftTy⟩, ⟨rightName, rightKind, rightTy⟩ =>
    leftName == rightName && leftKind == rightKind && leftTy.same rightTy
termination_by structural left => left

/-- Equality of parameter lists. -/
def Param.sameList : List Param → List Param → Bool
  | [], [] => true
  | left :: lefts, right :: rights => left.same right && Param.sameList lefts rights
  | _, _ => false
termination_by structural left => left

end

mutual

/-- `Ty.same` decides equality of types. -/
theorem Ty.same_iff : (left right : Ty) → (left.same right = true ↔ left = right)
  | .any, right | .never, right | .none, right | .bool, right | .int, right
  | .float, right | .str, right | .bytes, right => by cases right <;> simp [Ty.same]
  | .list item, right => by cases right <;> simp [Ty.same, Ty.same_iff item]
  | .tuple items, right => by cases right <;> simp [Ty.same, Ty.sameList_iff items]
  | .dict key value, right => by
    cases right <;> simp [Ty.same, Ty.same_iff key, Ty.same_iff value]
  | .union members, right => by cases right <;> simp [Ty.same, Ty.sameList_iff members]
  | .generic name args, right => by cases right <;> simp [Ty.same, Ty.sameList_iff args]
  | .named name, right => by cases right <;> simp [Ty.same]
  | .placeholder id, right => by cases right <;> simp [Ty.same]
  | .typeVar name, right => by cases right <;> simp [Ty.same]
  | .callable signature, right => by
    cases right <;> simp [Ty.same, Signature.same_iff signature]
  | .overloaded signatures, right => by
    cases right <;> simp [Ty.same, Signature.sameList_iff signatures]

/-- `Ty.sameList` decides equality of lists of types. -/
theorem Ty.sameList_iff : (left right : List Ty) → (Ty.sameList left right = true ↔ left = right)
  | [], right => by cases right <;> simp [Ty.sameList]
  | first :: rest, right => by
    cases right <;> simp [Ty.sameList, Ty.same_iff first, Ty.sameList_iff rest]

/-- `Signature.same` decides equality of signatures. -/
theorem Signature.same_iff : (left right : Signature) → (left.same right = true ↔ left = right)
  | ⟨params, ret⟩, ⟨_, _⟩ => by
    simp [Signature.same, Param.sameList_iff params, Ty.same_iff ret]

/-- `Signature.sameList` decides equality of lists of signatures. -/
theorem Signature.sameList_iff :
    (left right : List Signature) → (Signature.sameList left right = true ↔ left = right)
  | [], right => by cases right <;> simp [Signature.sameList]
  | first :: rest, right => by
    cases right <;> simp [Signature.sameList, Signature.same_iff first, Signature.sameList_iff rest]

/-- `Param.same` decides equality of parameters. -/
theorem Param.same_iff : (left right : Param) → (left.same right = true ↔ left = right)
  | ⟨_, _, ty⟩, ⟨_, _, _⟩ => by simp [Param.same, Ty.same_iff ty, and_assoc]

/-- `Param.sameList` decides equality of parameter lists. -/
theorem Param.sameList_iff :
    (left right : List Param) → (Param.sameList left right = true ↔ left = right)
  | [], right => by cases right <;> simp [Param.sameList]
  | first :: rest, right => by
    cases right <;> simp [Param.sameList, Param.same_iff first, Param.sameList_iff rest]

end

instance : DecidableEq Ty := fun left right => decidable_of_iff _ (Ty.same_iff left right)

instance : DecidableEq Signature :=
  fun left right => decidable_of_iff _ (Signature.same_iff left right)

instance : DecidableEq Param := fun left right => decidable_of_iff _ (Param.same_iff left right)

/-! ### Signatures -/

namespace Signature

/-- `Callable[..., ret]`: any arguments at all. -/
def ellipsis (ret : Ty) : Signature :=
  ⟨[⟨none, .star, .any⟩, ⟨none, .doubleStar, .any⟩], ret⟩

/-- `Callable[[a, b], ret]`: unnamed positional parameters of the given types. -/
def ofTypes (types : List Ty) (ret : Ty) : Signature :=
  ⟨types.map fun ty => ⟨none, .positional, ty⟩, ret⟩

/-- The parameters are exactly a star and a double star of type `Any`; their names do
not matter. -/
def isEllipsis (signature : Signature) : Bool :=
  match signature.params with
  | [star, doubleStar] =>
    star.kind == .star && star.ty == .any && doubleStar.kind == .doubleStar
      && doubleStar.ty == .any
  | _ => false

/-- The same parameters with another result. -/
def withRet (signature : Signature) (ret : Ty) : Signature := ⟨signature.params, ret⟩

/-- The parameters that positional arguments fill one by one. -/
def positionals (signature : Signature) : List Param :=
  signature.params.filter fun param => param.kind.isPositional

/-- The parameter that collects further positional arguments. -/
def star? (signature : Signature) : Option Param :=
  signature.params.find? fun param => param.kind == .star

/-- The parameter that collects further named arguments. -/
def doubleStar? (signature : Signature) : Option Param :=
  signature.params.find? fun param => param.kind == .doubleStar

/-- The type that the first positional argument has to have. -/
def firstPositional? (signature : Signature) : Option Ty :=
  (signature.positionals.head?.or signature.star?).map Param.ty

/-- One positional argument is enough: no name is required, and the argument is either
the only required one or has an optional or star parameter to go to. -/
def acceptsOne (signature : Signature) : Bool :=
  let required := signature.params.countP fun param => param.kind == .positional
  signature.params.all (fun param => param.kind != .named)
    && (required == 1 || (required == 0 && signature.firstPositional?.isSome))

end Signature

/-! ### Questions about types -/

namespace Ty

/-- The signature of a type that has exactly one. -/
def signature? : Ty → Option Signature
  | .callable signature => some signature
  | _ => Option.none

/-- The type says nothing: calls and operations on it are not checked. -/
def isGradual : Ty → Bool
  | .any | .placeholder _ => true
  | _ => false

end Ty

mutual

/-- A declared type variable occurs somewhere in the type. -/
def Ty.hasTypeVars : Ty → Bool
  | .typeVar _ => true
  | .list item => item.hasTypeVars
  | .tuple items => Ty.anyHasTypeVars items
  | .union members => Ty.anyHasTypeVars members
  | .generic _ args => Ty.anyHasTypeVars args
  | .dict key value => key.hasTypeVars || value.hasTypeVars
  | .callable signature => signature.hasTypeVars
  | .overloaded signatures => Signature.anyHasTypeVars signatures
  | _ => false

/-- A declared type variable occurs in one of the types. -/
def Ty.anyHasTypeVars : List Ty → Bool
  | [] => false
  | first :: rest => first.hasTypeVars || Ty.anyHasTypeVars rest

/-- A declared type variable occurs in the signature. -/
def Signature.hasTypeVars : Signature → Bool
  | ⟨params, ret⟩ => ret.hasTypeVars || Param.anyHasTypeVars params

/-- A declared type variable occurs in one of the signatures. -/
def Signature.anyHasTypeVars : List Signature → Bool
  | [] => false
  | first :: rest => first.hasTypeVars || Signature.anyHasTypeVars rest

/-- A declared type variable occurs in the parameter's type. -/
def Param.hasTypeVars : Param → Bool
  | ⟨_, _, ty⟩ => ty.hasTypeVars

/-- A declared type variable occurs in one of the parameters. -/
def Param.anyHasTypeVars : List Param → Bool
  | [] => false
  | first :: rest => first.hasTypeVars || Param.anyHasTypeVars rest

end

/-- The type is not fixed yet: it is a placeholder or mentions a type variable. -/
def Ty.isOpen : Ty → Bool
  | .placeholder _ => true
  | ty => ty.hasTypeVars

end Callwise
