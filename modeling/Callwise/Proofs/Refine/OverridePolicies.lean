import Callwise.Refine.Plugin
import Mathlib

/-!
# How registries treat repeated names

A table can be built in two ways, and plugins can be asked one after the other. In `build` the last
entry of a name counts. `buildStrict` stops at the first entry whose name has one already, which is
the second entry of the first name that `duplicates` lists. A chain of plugins lets the first plugin
decide, so it is a single table with the entries of the plugins in the opposite order.
-/

namespace Callwise

namespace NameMap

variable {α : Type}

/-- A new name comes last, and a known one keeps its place. -/
theorem names_insert (map : NameMap α) (name : String) (value : α) :
    (map.insert name value).names =
      if name ∈ map.names then map.names else map.names ++ [name] := by
  obtain ⟨entries⟩ := map
  simp only [names, insert]
  induction entries with
  | nil => rfl
  | cons entry rest ih =>
    by_cases same : name = entry.1
    · simp [replaceEntry, same]
    · rw [replaceEntry, if_neg (by simpa using same), List.map_cons, ih]
      by_cases known : name ∈ rest.map Prod.fst <;> simp [known, same]

end NameMap

/-! ### Calls that make entries -/

/-- A call that enters one name or several names with one strategy. -/
inductive Registration (σ : Type) where
  | one (name : String) (strategy : σ)
  | all (names : List String) (strategy : σ)

variable {σ : Type}

namespace Registration

/-- The entries that a call makes. -/
def entries : Registration σ → List (String × σ)
  | one name strategy => [(name, strategy)]
  | all names strategy => names.map fun name => (name, strategy)

/-- The table after the call. -/
def enter (table : RegistryTable σ) : Registration σ → RegistryTable σ
  | one name strategy => table.register name strategy
  | all names strategy => table.registerAll names strategy

end Registration

namespace RegistryTable

/-- The table that a sequence of calls makes. -/
def ofCalls (calls : List (Registration σ)) : RegistryTable σ := calls.foldl Registration.enter {}

/-- The table holds the entries of all calls, in the order of the calls. -/
theorem ofCalls_eq (calls : List (Registration σ)) :
    ofCalls calls = ⟨calls.flatMap Registration.entries⟩ := by
  induction calls using List.reverseRecOn with
  | nil => rfl
  | append_singleton calls call ih =>
    rw [ofCalls] at ih ⊢
    rw [List.foldl_append, ih, List.flatMap_append, List.flatMap_singleton]
    cases call <;> rfl

/-- The entries of a name, in their order. -/
def entriesOf (name : String) (entries : List (String × σ)) : List (String × σ) :=
  entries.filter fun entry => entry.1 == name

theorem entriesOf_append (name : String) (front back : List (String × σ)) :
    entriesOf name (front ++ back) = entriesOf name front ++ entriesOf name back :=
  List.filter_append ..

/-- A name that is not entered has no entry. -/
theorem entriesOf_eq_nil {name : String} {entries : List (String × σ)}
    (fresh : name ∉ entries.map Prod.fst) : entriesOf name entries = [] := by
  refine List.filter_eq_nil_iff.mpr fun entry listed same => fresh ?_
  exact eq_of_beq same ▸ List.mem_map_of_mem listed

/-- A name that stands once among the names of entries has one entry. -/
theorem exists_entriesOf_eq {name : String} {entries : List (String × σ)}
    (once : (entries.map Prod.fst).Nodup) (entered : name ∈ entries.map Prod.fst) :
    ∃ strategy, entriesOf name entries = [(name, strategy)] := by
  obtain ⟨⟨name, strategy⟩, member, rfl⟩ := List.mem_map.mp entered
  obtain ⟨before, after, rfl⟩ := List.append_of_mem member
  simp only [List.map_append, List.map_cons, List.nodup_append', List.nodup_cons,
    List.disjoint_cons_right] at once
  obtain ⟨_, ⟨notAfter, _⟩, notBefore, _⟩ := once
  refine ⟨strategy, ?_⟩
  rw [entriesOf_append, entriesOf_eq_nil notBefore, List.nil_append, entriesOf,
    List.filter_cons_of_pos (by simp)]
  exact congrArg _ (entriesOf_eq_nil notAfter)

/-! ### The last entry counts -/

/-- One more entry is stored in the registry of the others. -/
theorem build_concat (entries : List (String × σ)) (name : String) (strategy : σ) :
    build ⟨entries ++ [(name, strategy)]⟩ = ⟨(build ⟨entries⟩).hooks.insert name strategy⟩ := by
  simp only [build, List.foldl_append, List.foldl_cons, List.foldl_nil]

/-- The registry holds for each name its last entry. -/
theorem find?_build (entries : List (String × σ)) (name : String) :
    (build ⟨entries⟩).find? name = (entriesOf name entries).getLast?.map Prod.snd := by
  induction entries using List.reverseRecOn with
  | nil => rfl
  | append_singleton entries entry ih =>
    rw [Registry.find?] at ih
    rw [build_concat, Registry.find?, NameMap.find?_insert, ih, entriesOf_append]
    by_cases same : name = entry.1
    · simp [entriesOf, same]
    · simp [entriesOf, same, Ne.symm same]

/-- The names of the registry are those of the entries, each once. -/
theorem names_hooks_build (entries : List (String × σ)) :
    (build ⟨entries⟩).hooks.names.Nodup ∧
      ∀ name, name ∈ (build ⟨entries⟩).hooks.names ↔ name ∈ entries.map Prod.fst := by
  induction entries using List.reverseRecOn with
  | nil => exact ⟨List.nodup_nil, fun name => Iff.rfl⟩
  | append_singleton entries entry ih =>
    obtain ⟨once, member⟩ := ih
    rw [build_concat, NameMap.names_insert]
    split
    case isTrue known =>
      refine ⟨once, fun name => ?_⟩
      rw [member, List.map_append, List.mem_append, List.map_singleton, List.mem_singleton]
      exact ⟨.inl, fun either => either.elim id fun same => same ▸ (member _).mp known⟩
    case isFalse fresh =>
      exact ⟨by simpa using once.concat fresh, fun name => by simp [member]⟩

/-- The registry counts the different names. -/
theorem size_build (entries : List (String × σ)) :
    (build ⟨entries⟩).size = (entries.map Prod.fst).dedup.length := by
  obtain ⟨once, member⟩ := names_hooks_build entries
  have same : (build ⟨entries⟩).hooks.names.Perm (entries.map Prod.fst).dedup := by
    rw [List.perm_ext_iff_of_nodup once (List.nodup_dedup _)]
    exact fun name => (member name).trans List.mem_dedup.symm
  rw [← same.length_eq, NameMap.names, List.length_map]
  rfl

/-- Listed are the names that are entered. -/
theorem mem_names_build (entries : List (String × σ)) (name : String) :
    name ∈ (build ⟨entries⟩).names ↔ name ∈ entries.map Prod.fst := by
  rw [Registry.names, List.mem_mergeSort]
  exact (names_hooks_build entries).2 name

/-- The names are listed in ascending order, each once. -/
theorem pairwise_names_build (entries : List (String × σ)) :
    (build ⟨entries⟩).names.Pairwise (· < ·) := by
  have order : ∀ left right : String, (!decide (right < left)) = true ↔ left ≤ right := by
    intro left right
    rw [Bool.not_eq_true', decide_eq_false_iff_not, not_lt]
  have ascending : (build ⟨entries⟩).names.Pairwise fun left right => !decide (right < left) := by
    refine List.pairwise_mergeSort ?_ ?_ _
    · intro first second third
      simpa only [order] using le_trans
    · intro left right
      simpa only [Bool.or_eq_true, order] using le_total left right
  have once : (build ⟨entries⟩).names.Nodup :=
    (List.mergeSort_perm _ _).nodup_iff.mpr (names_hooks_build entries).1
  refine (ascending.and once).imp ?_
  rintro left right ⟨ordered, differ⟩
  exact lt_of_le_of_ne ((order left right).mp ordered) differ

/-! ### The first repetition stops -/

/-- What has been found first stays first. -/
theorem exists_repeated_eq (names seen found : List String) (name : String) :
    ∃ more, repeated names seen (name :: found) = name :: more := by
  induction names generalizing seen found with
  | nil => exact ⟨found, rfl⟩
  | cons next names ih =>
    unfold repeated
    split
    · split
      · exact ih seen found
      · exact ih seen (found ++ [next])
    · exact ih (next :: seen) found

/-- What comes of adding entries one by one to a registry, given the repeated names among the
entries: all are added, or the first repeated name is refused with its first two entries. -/
theorem addNew_build [Named σ] (done rest : List (String × σ)) (seen : List String)
    (once : (done.map Prod.fst).Nodup)
    (sees : ∀ name, name ∈ seen ↔ name ∈ done.map Prod.fst) :
    repeated (rest.map Prod.fst) seen [] = [] ∧
        addNew rest (build ⟨done⟩) = .ok (build ⟨done ++ rest⟩) ∨
      ∃ name more first second others, repeated (rest.map Prod.fst) seen [] = name :: more ∧
        entriesOf name (done ++ rest) = (name, first) :: (name, second) :: others ∧
        addNew rest (build ⟨done⟩) = .error ⟨name, Named.name first, Named.name second⟩ := by
  -- The entries so far have different names, so the registry holds the only entry of each.
  induction rest generalizing done seen with
  | nil => exact .inl ⟨rfl, by rw [List.append_nil]; rfl⟩
  | cons entry rest ih =>
    obtain ⟨name, strategy⟩ := entry
    have found := find?_build done name
    simp only [List.map_cons, repeated, addNew, List.contains_iff_mem]
    by_cases entered : name ∈ seen
    · obtain ⟨first, only⟩ := exists_entriesOf_eq once ((sees name).mp entered)
      obtain ⟨more, head⟩ := exists_repeated_eq (rest.map Prod.fst) seen [] name
      rw [only] at found
      refine .inr ⟨name, more, first, strategy, entriesOf name rest, ?_, ?_, ?_⟩
      · simpa [entered] using head
      · rw [entriesOf_append, only]
        simp [entriesOf]
      · rw [found]
        rfl
    · have fresh : name ∉ done.map Prod.fst := fun member => entered ((sees name).mpr member)
      rw [entriesOf_eq_nil fresh] at found
      have step := ih (done ++ [(name, strategy)]) (name :: seen)
        (by simpa using once.concat fresh) (by simp [sees, or_comm])
      rw [List.append_assoc, List.singleton_append, build_concat] at step
      rw [if_neg entered, found]
      exact step

/-! ### All policies -/

/-- A chain of plugins answers like one table with the entries of the later plugins first. -/
theorem findHook?_eq (parts : List (String × List (String × σ))) (name : String) :
    Plugin.findHook? (parts.map fun part => ⟨part.1, build ⟨part.2⟩⟩) name =
      (build ⟨(parts.map Prod.snd).reverse.flatten⟩).find? name := by
  induction parts with
  | nil => rfl
  | cons part parts ih =>
    rw [Plugin.findHook?] at ih ⊢
    rw [List.map_cons, List.findSome?_cons, ih, List.map_cons, List.reverse_cons,
      List.flatten_append, List.flatten_singleton, find?_build, find?_build, find?_build,
      entriesOf_append, List.getLast?_append]
    cases (entriesOf name part.2).getLast? <;> rfl

/-- For every kind of strategy and every sequence of calls: the registry holds for each name its
last entry, counts the different names and lists them in ascending order. The strict registry is the
same if no name is entered twice; otherwise it is refused for the first repeated name, with the
names of the strategies of its first two entries. And plugins asked in turn answer like the registry
of their entries in the opposite order. -/
theorem override_policies [Named σ] (calls : List (Registration σ)) :
    (∀ name, (ofCalls calls).build.find? name =
      ((calls.flatMap Registration.entries).filter (·.1 == name)).getLast?.map Prod.snd) ∧
    (ofCalls calls).build.size =
      ((calls.flatMap Registration.entries).map Prod.fst).dedup.length ∧
    (ofCalls calls).build.names.Pairwise (· < ·) ∧
    (∀ name, name ∈ (ofCalls calls).build.names ↔
      name ∈ (calls.flatMap Registration.entries).map Prod.fst) ∧
    ((∃ registry, (ofCalls calls).buildStrict = .ok registry) ↔ (ofCalls calls).duplicates = []) ∧
    ((ofCalls calls).duplicates = [] ∧ (ofCalls calls).buildStrict = .ok (ofCalls calls).build ∨
      ∃ name more first second others, (ofCalls calls).duplicates = name :: more ∧
        (calls.flatMap Registration.entries).filter (·.1 == name) =
          (name, first) :: (name, second) :: others ∧
        (ofCalls calls).buildStrict = .error ⟨name, Named.name first, Named.name second⟩) ∧
    ∀ (parts : List (String × List (String × σ))) (name : String),
      Plugin.findHook? (parts.map fun part => ⟨part.1, build ⟨part.2⟩⟩) name =
        (build ⟨(parts.map Prod.snd).reverse.flatten⟩).find? name := by
  rw [ofCalls_eq]
  have strict := addNew_build [] (calls.flatMap Registration.entries) [] List.nodup_nil
    fun name => Iff.rfl
  refine ⟨find?_build _, size_build _, pairwise_names_build _, mem_names_build _, ?_, strict,
    findHook?_eq⟩
  obtain ⟨none, built⟩ | ⟨name, more, first, second, others, head, _, refused⟩ := strict
  · exact ⟨fun _ => none, fun _ => ⟨_, built⟩⟩
  · constructor
    · rintro ⟨registry, built⟩
      cases refused.symm.trans built
    · intro empty
      cases head.symm.trans empty

-- Two strategies with one name are told apart by the registry, and told alike by the error.
example :
    let _ : Named (String × Nat) := ⟨Prod.fst⟩
    let calls := [Registration.one "pkg.safe" ("safe", 1), .all ["pkg.io", "pkg.safe"] ("safe", 2)]
    (ofCalls calls).build.find? "pkg.safe" = some ("safe", 2) ∧
      (ofCalls calls).buildStrict = .error ⟨"pkg.safe", "safe", "safe"⟩ :=
  ⟨by decide, rfl⟩

end RegistryTable

end Callwise
