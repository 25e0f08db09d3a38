import Callwise.NameMap
import Callwise.Ty.Basic

/-!
# Modules and what they define

The index knows the types of definitions by their full names, and for names that a module only
passes on the full name they come from. Such chains are followed for at most sixteen steps, so a
cycle of names ends somewhere inside it.
-/

namespace Callwise

/-- What a module offers to those that import it. -/
structure Exports where
  definitions : List (String × Ty) := []
  /-- Names that the module has imported, with the full names they stand for. -/
  aliases : List (String × String) := []
  deriving Inhabited

/-- The definitions of all known modules. -/
structure ModuleIndex where
  definitions : NameMap Ty := {}
  aliases : NameMap String := {}
  modules : List String := []
  deriving Inhabited

/-- A name in a module. -/
def qualified (module name : String) : String := module ++ "." ++ name

namespace ModuleIndex

/-- The longest chain of names that is followed. -/
def maxAliasSteps : Nat := 16

/-- Add what a module offers. -/
def add (index : ModuleIndex) (module : String) (exports : Exports) : ModuleIndex where
  definitions := exports.definitions.foldl
    (fun known (name, ty) => known.insert (qualified module name) ty) index.definitions
  aliases := exports.aliases.foldl
    (fun known (name, target) => known.insert (qualified module name) target) index.aliases
  modules := if index.modules.contains module then index.modules else index.modules ++ [module]

/-- Follow a chain of names for so many steps. -/
def follow (index : ModuleIndex) : (steps : Nat) → String → String
  | 0, name => name
  | steps + 1, name =>
    match index.aliases.find? name with
    | some target => index.follow steps target
    | none => name

/-- The name under which something is defined. -/
def canonical (index : ModuleIndex) (fullName : String) : String :=
  index.follow maxAliasSteps fullName

/-- The type of what a full name stands for. -/
def find? (index : ModuleIndex) (fullName : String) : Option Ty :=
  index.definitions.find? (index.canonical fullName)

/-- The full name stands for a definition. -/
def contains (index : ModuleIndex) (fullName : String) : Bool := (index.find? fullName).isSome

/-- The module has been added. -/
def hasModule (index : ModuleIndex) (module : String) : Bool := index.modules.contains module

/-- The number of definitions. -/
def size (index : ModuleIndex) : Nat := index.definitions.size

end ModuleIndex

end Callwise
