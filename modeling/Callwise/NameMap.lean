/-!
# Tables from names to values

A table is a list of entries with at most one entry for each name as long as it is built
by `insert`. Looking a name up finds its first entry.
-/

namespace Callwise

/-- Values stored under names. -/
structure NameMap (α : Type) where
  entries : List (String × α) := []

namespace NameMap

variable {α : Type}

instance : Inhabited (NameMap α) := ⟨{}⟩

/-- The value stored under a name. -/
def find? (map : NameMap α) (name : String) : Option α := map.entries.lookup name

/-- A value is stored under the name. -/
def contains (map : NameMap α) (name : String) : Bool := (map.find? name).isSome

/-- Replace the value of the first entry with this name. -/
def replaceEntry (name : String) (value : α) : List (String × α) → List (String × α)
  | [] => [(name, value)]
  | entry :: rest =>
    if name == entry.1 then (name, value) :: rest else entry :: replaceEntry name value rest

/-- Store a value under a name, in place of what was there. A new name comes last. -/
def insert (map : NameMap α) (name : String) (value : α) : NameMap α :=
  ⟨replaceEntry name value map.entries⟩

/-- Store a value under a name that has none yet. -/
def insertIfNew (map : NameMap α) (name : String) (value : α) : NameMap α :=
  if map.contains name then map else map.insert name value

/-- Forget what is stored under a name. -/
def erase (map : NameMap α) (name : String) : NameMap α :=
  ⟨map.entries.filter fun entry => entry.1 != name⟩

/-- The names that have a value, in the order of their first insertion. -/
def names (map : NameMap α) : List String := map.entries.map Prod.fst

/-- The number of entries. -/
def size (map : NameMap α) : Nat := map.entries.length

/-- Nothing is stored. -/
def isEmpty (map : NameMap α) : Bool := map.entries.isEmpty

theorem lookup_replaceEntry (entries : List (String × α)) (name other : String) (value : α) :
    (replaceEntry name value entries).lookup other =
      if other == name then some value else entries.lookup other := by
  induction entries with
  | nil => grind [replaceEntry]
  | cons entry rest ih => grind [replaceEntry]

/-- Looking up after an insertion finds the new value under its name and nothing else
changed. -/
theorem find?_insert (map : NameMap α) (name other : String) (value : α) :
    (map.insert name value).find? other = if other == name then some value else map.find? other :=
  lookup_replaceEntry map.entries name other value

/-- Looking up after forgetting a name finds nothing under it and everything else as before. -/
theorem find?_erase (map : NameMap α) (name other : String) :
    (map.erase name).find? other = if other == name then none else map.find? other := by
  obtain ⟨entries⟩ := map
  simp only [find?, erase]
  induction entries with
  | nil => simp
  | cons entry rest ih => grind

end NameMap

end Callwise
