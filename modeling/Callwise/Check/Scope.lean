import Callwise.NameMap
import Callwise.Ty.Basic

/-!
# Names in scope

The types of the names that can be used at some point of a program, and a supply of placeholders
for what is not known yet. Placeholders are never used twice.
-/

namespace Callwise

/-- The types of names, and the number of the next placeholder. -/
structure Scope where
  types : NameMap Ty := {}
  nextPlaceholder : Nat := 0
  deriving Inhabited

namespace Scope

/-- A placeholder that has not been used yet. -/
def fresh (scope : Scope) : Ty × Scope :=
  (.placeholder scope.nextPlaceholder, { scope with nextPlaceholder := scope.nextPlaceholder + 1 })

/-- The type of a name. -/
def find? (scope : Scope) (name : String) : Option Ty := scope.types.find? name

/-- The name has a type. -/
def contains (scope : Scope) (name : String) : Bool := scope.types.contains name

/-- Give a name a type. -/
def set (scope : Scope) (name : String) (ty : Ty) : Scope :=
  { scope with types := scope.types.insert name ty }

/-- Take the type of a name away. -/
def erase (scope : Scope) (name : String) : Scope :=
  { scope with types := scope.types.erase name }

/-- The names that have a type. -/
def names (scope : Scope) : List String := scope.types.names

end Scope

end Callwise
