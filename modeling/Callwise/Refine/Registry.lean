import Callwise.NameMap
import Callwise.Refine.Curry
import Callwise.Refine.Decorator
import Callwise.Refine.Flow
import Callwise.Refine.PartialCall
import Callwise.Refine.Pointfree

/-!
# Strategies by name

A registry says which strategy refines calls of which function. It is built from a table of
entries. If a name is entered twice, the later entry counts, or the table is refused.

Registries only store strategies and tell their names, so anything that has a name can be
registered. Unless something else is said, strategies are those of the library.
-/

namespace Callwise

/-- Things that are told by name. Different things may have the same name. -/
class Named (σ : Type) where
  name : σ → String

/-- The ways to refine a call. -/
inductive Strategy where
  | partialCall
  | curry
  | flow
  | pointfree
  | decorators
  deriving DecidableEq, Repr, Inhabited

namespace Strategy

/-- The name of a strategy. -/
def name : Strategy → String
  | partialCall => "partial"
  | curry => "curry"
  | flow => "flow"
  | pointfree => "pointfree"
  | decorators => "decorators"

/-- The strategy with this name. -/
def ofName? (name : String) : Option Strategy :=
  [partialCall, curry, flow, pointfree, decorators].find? fun strategy => strategy.name == name

/-- The refined type of a call, or a diagnostic of the strategy's own. -/
def analyze : Strategy → CallContext → Except Diagnostic Ty
  | partialCall => PartialCall.analyze
  | curry => Curry.analyze
  | flow => Flow.analyze
  | pointfree => Pointfree.analyze
  | decorators => Decorator.analyze

end Strategy

instance : Named Strategy := ⟨Strategy.name⟩

/-- A name that a table gives to two strategies, which are told by their own names. -/
structure DuplicateName where
  name : String
  first : String
  second : String
  deriving DecidableEq, Repr, Inhabited

/-- The text of the error. -/
def DuplicateName.message (error : DuplicateName) : String :=
  "'" ++ error.name ++ "' is registered to both '" ++ error.first ++ "' and '" ++
    error.second ++ "'"

/-- Which strategy refines calls of which function. -/
structure Registry (σ : Type := Strategy) where
  hooks : NameMap σ := {}

/-- Entries in the order in which they were made. -/
structure RegistryTable (σ : Type := Strategy) where
  entries : List (String × σ) := []

section

variable {σ : Type}

namespace Registry

instance : Inhabited (Registry σ) := ⟨{}⟩

/-- The strategy for a full name. -/
def find? (registry : Registry σ) (fullName : String) : Option σ := registry.hooks.find? fullName

/-- There is a strategy for the full name. -/
def contains (registry : Registry σ) (fullName : String) : Bool := registry.hooks.contains fullName

/-- The number of names. -/
def size (registry : Registry σ) : Nat := registry.hooks.size

/-- The names in ascending order. -/
def names (registry : Registry σ) : List String :=
  registry.hooks.names.mergeSort fun left right => !decide (right < left)

/-- The registries agree on all names. -/
def same [BEq σ] (left right : Registry σ) : Bool :=
  left.names == right.names && left.names.all fun name => left.find? name == right.find? name

end Registry

namespace RegistryTable

instance : Inhabited (RegistryTable σ) := ⟨{}⟩

/-- Enter one name. -/
def register (table : RegistryTable σ) (name : String) (strategy : σ) : RegistryTable σ :=
  ⟨table.entries ++ [(name, strategy)]⟩

/-- Enter several names with the same strategy. -/
def registerAll (table : RegistryTable σ) (names : List String) (strategy : σ) : RegistryTable σ :=
  ⟨table.entries ++ names.map fun name => (name, strategy)⟩

/-- The names that come again, given the names seen and those found to come again so far. -/
def repeated : List String → (seen found : List String) → List String
  | [], _, found => found
  | name :: rest, seen, found =>
    if seen.contains name then
      repeated rest seen (if found.contains name then found else found ++ [name])
    else repeated rest (name :: seen) found

/-- The names entered more than once, in the order of their second entries. -/
def duplicates (table : RegistryTable σ) : List String :=
  repeated (table.entries.map Prod.fst) [] []

/-- The registry in which later entries replace earlier ones. -/
def build (table : RegistryTable σ) : Registry σ :=
  ⟨table.entries.foldl (fun hooks (name, strategy) => hooks.insert name strategy) {}⟩

/-- Add entries to a registry, up to the first name that it has already. -/
def addNew [Named σ] : List (String × σ) → Registry σ → Except DuplicateName (Registry σ)
  | [], registry => .ok registry
  | (name, strategy) :: rest, registry =>
    match registry.find? name with
    | some first => .error ⟨name, Named.name first, Named.name strategy⟩
    | none => addNew rest ⟨registry.hooks.insert name strategy⟩

/-- The registry, provided that no name is entered twice. -/
def buildStrict [Named σ] (table : RegistryTable σ) : Except DuplicateName (Registry σ) :=
  addNew table.entries {}

end RegistryTable

end

end Callwise
