import Callwise.Ty.Basic

/-!
# The text of a type

Types are written as in annotations; signatures as `def (x: int, *, flag: bool =) -> str`.
-/

namespace Callwise

/-- The marker `*` stands before the first parameter that only a name reaches, unless a star
parameter has come before it. -/
def Param.needsMarker (starSeen : Bool) (kind : ParamKind) : Bool := kind.isNamed && !starSeen

/-- A parameter given the text of its type: stars in front, `=` behind where there is a
default. -/
def Param.decorate (name : Option String) (kind : ParamKind) (ty : String) : String :=
  let labelled := match name with
    | some name => name ++ ": " ++ ty
    | none => ty
  match kind with
  | .star => "*" ++ labelled
  | .doubleStar => "**" ++ labelled
  | .optional | .namedOptional => labelled ++ " ="
  | .positional | .named => labelled

mutual

/-- The text of a type. -/
def Ty.render : Ty → String
  | .any => "Any"
  | .never => "Never"
  | .none => "None"
  | .bool => "bool"
  | .int => "int"
  | .float => "float"
  | .str => "str"
  | .bytes => "bytes"
  | .list item => "list[" ++ item.render ++ "]"
  | .tuple items => "tuple[" ++ ", ".intercalate (Ty.renderList items) ++ "]"
  | .dict key value => "dict[" ++ key.render ++ ", " ++ value.render ++ "]"
  | .union members => " | ".intercalate (Ty.renderList members)
  | .generic name [] => name
  | .generic name args => name ++ "[" ++ ", ".intercalate (Ty.renderList args) ++ "]"
  | .named name => name
  | .placeholder id => "T" ++ id.repr
  | .typeVar name => name
  | .callable signature => signature.render
  | .overloaded signatures =>
    "Overload(" ++ ", ".intercalate (Signature.renderList signatures) ++ ")"

/-- The texts of several types. -/
def Ty.renderList : List Ty → List String
  | [] => []
  | first :: rest => first.render :: Ty.renderList rest

/-- The text of a signature. -/
def Signature.render : Signature → String
  | ⟨params, ret⟩ =>
    "def (" ++ ", ".intercalate (Param.renderList params false) ++ ") -> " ++ ret.render

/-- The texts of several signatures. -/
def Signature.renderList : List Signature → List String
  | [] => []
  | first :: rest => first.render :: Signature.renderList rest

/-- The text of a parameter. -/
def Param.render : Param → String
  | ⟨name, kind, ty⟩ => Param.decorate name kind ty.render

/-- The parts between the parentheses of a signature. -/
def Param.renderList : List Param → (starSeen : Bool) → List String
  | [], _ => []
  | first :: rest, starSeen =>
    let marked := Param.needsMarker starSeen first.kind
    let text := first.render
    let parts := Param.renderList rest (starSeen || marked || first.kind == .star)
    if marked then "*" :: text :: parts else text :: parts

end

end Callwise
