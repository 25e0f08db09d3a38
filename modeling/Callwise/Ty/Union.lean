import Callwise.Ty.Subtype

/-!
# Simplified unions

`Ty.unionOf` joins types into one. Unions among them are opened, `Never` is dropped, `Any`
swallows everything, and a member that another one absorbs is left out, so that what remains
is in the order of first appearance. A member with a type variable or a placeholder is
absorbed by an equal member only: its meaning is still open, and `Optional[T]` must not
collapse.
-/

namespace Callwise.Ty

/-- The types that a list of types contributes to a union: a union gives its members,
`Never` gives nothing, and any other type gives itself. -/
def flatten (types : List Ty) : List Ty :=
  types.flatMap fun
    | .union members => members
    | .never => []
    | other => [other]

/-- The second type adds nothing beside the first. -/
def absorbs (wide narrow : Ty) : Bool :=
  wide == narrow || (!wide.isOpen && !narrow.isOpen && narrow.isSubtype wide)

/-- Add one member to members of which none absorbs another: it is left out when one of
them absorbs it, and otherwise replaces those that it absorbs. -/
def addMember (members : List Ty) (ty : Ty) : List Ty :=
  if members.any fun member => absorbs member ty then members
  else (members.filter fun member => !absorbs ty member) ++ [ty]

/-- The union of members that are already simplified. -/
def ofMembers : List Ty → Ty
  | [] => .never
  | [single] => single
  | members => .union members

/-- The simplified union of types. -/
def unionOf (types : List Ty) : Ty :=
  let flat := flatten types
  if flat.contains .any then .any
  else ofMembers (flat.foldl addMember [])

/-- The type without its `None` members. -/
def removeNone : Ty → Ty
  | .union members => unionOf (members.filter (· != .none))
  | .none => .never
  | other => other

end Callwise.Ty
