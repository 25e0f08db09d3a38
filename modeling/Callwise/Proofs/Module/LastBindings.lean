import Callwise.Module.Stubs
import Callwise.Proofs.Check.EventNames
import Callwise.Proofs.Check.ReportOptions

/-!
# Exports reflect the last binding of each name

A module offers a name as a definition or as an alias of something imported. Which one it is depends
on the last event at the top level that defines or imports the name, in whatever order definitions
and imports, conditionals and nested scopes come. Names of different modules are told apart by the
last dot, so in an index of stubs no full name stands for both.
-/

namespace Callwise

/-! ### The last event about a name -/

namespace Event

/-- The event defines or imports the name. -/
def binds (name : String) (event : Event) : Bool := !event.isDeclaration && event.name == name

/-- The last event that defines or imports the name. -/
def last? (name : String) (events : List Event) : Option Event :=
  (events.filter (binds name)).getLast?

theorem last?_concat (name : String) (events : List Event) (event : Event) :
    last? name (events ++ [event]) =
      if event.binds name then some event else last? name events := by
  unfold last?
  cases isBinding : event.binds name <;> simp [List.filter_append, isBinding]

/-- The last event about a name is one of the events. -/
theorem mem_of_last? {name : String} {events : List Event} {event : Event}
    (last : last? name events = some event) : event ∈ events :=
  (List.mem_filter.mp (List.mem_of_getLast? last)).1

/-- After a definition or an import, that is the last event about its name. -/
theorem last?_concat_binding {event : Event} (isBinding : event.isDeclaration = false)
    (name : String) (events : List Event) :
    last? name (events ++ [event]) =
      if name = event.name then some event else last? name events := by
  rw [last?_concat]
  by_cases same : name = event.name
  · simp [binds, isBinding, same]
  · simp [binds, same, Ne.symm same]

end Event

open Event

theorem Scope.find?_set (scope : Scope) (name other : String) (ty : Ty) :
    (scope.set name ty).find? other = if other = name then some ty else scope.find? other := by
  show (scope.types.insert name ty).find? other = _
  simp only [NameMap.find?_insert, beq_iff_eq]
  rfl

theorem Scope.find?_erase (scope : Scope) (name other : String) :
    (scope.erase name).find? other = if other = name then none else scope.find? other := by
  show (scope.types.erase name).find? other = _
  simp only [NameMap.find?_erase, beq_iff_eq]
  rfl

namespace Checker

/-- Outside all scopes, the state has recorded the events of the history: the last definition of a
name is in scope and listed, and the last import of a name that is not in scope is its alias. -/
structure Records (checker : Checker) (history : List Event) : Prop where
  outermost : checker.depth = 0
  types : ∀ name ty, checker.scope.find? name = some ty ↔
    last? name history = some (.defines name ty)
  definitions : ∀ name, name ∈ checker.definitions ↔ ∃ ty, checker.scope.find? name = some ty
  definedOnce : checker.definitions.Nodup
  aliases : ∀ name fullName,
    (name, fullName) ∈ checker.aliases ∧ checker.scope.find? name = none ↔
      last? name history = some (.imports name fullName)
  importedOnce : (checker.aliases.map Prod.fst).Nodup

namespace Records

variable {checker : Checker} {history : List Event}

/-- Nothing has happened. -/
theorem start (file : String) (limit : Nat) (notes : Bool) :
    (Checker.start file limit notes).Records [] where
  outermost := rfl
  types name ty := by
    constructor <;> intro absurd <;> cases absurd
  definitions name := by
    constructor
    · intro member
      cases member
    · rintro ⟨ty, found⟩
      cases found
  definedOnce := List.nodup_nil
  aliases name fullName := by
    constructor
    · rintro ⟨member, _⟩
      cases member
    · intro absurd
      cases absurd
  importedOnce := List.nodup_nil

/-- A definition. -/
theorem define (records : checker.Records history) (name : String) (ty : Ty) :
    (checker.define name ty).Records (history ++ [.defines name ty]) := by
  have scope (other : String) : (checker.define name ty).scope.find? other =
      if other = name then some ty else checker.scope.find? other :=
    checker.scope.find?_set name other ty
  have last (other : String) : last? other (history ++ [.defines name ty]) =
      if other = name then some (.defines name ty) else last? other history :=
    last?_concat_binding rfl other history
  have listed : (checker.define name ty).definitions =
      if name ∈ checker.definitions then checker.definitions
      else checker.definitions ++ [name] := by
    by_cases known : name ∈ checker.definitions <;>
      simp [Checker.define, records.outermost, known]
  refine ⟨records.outermost, ?_, ?_, ?_, ?_, records.importedOnce⟩
  · intro other found
    rw [scope, last]
    by_cases same : other = name
    · simp [same]
    · simpa [same] using records.types other found
  · intro other
    rw [scope, listed]
    by_cases same : other = name
    · by_cases known : name ∈ checker.definitions <;> simp [same, known]
    · by_cases known : name ∈ checker.definitions <;>
        simpa [same, known] using records.definitions other
  · rw [listed]
    by_cases known : name ∈ checker.definitions
    · simpa [known] using records.definedOnce
    · simp only [known, if_false]
      refine List.nodup_append.mpr ⟨records.definedOnce, by simp, ?_⟩
      rintro listedName member _ (_ | ⟨_, ⟨⟩⟩) rfl
      exact known member
  · intro other fullName
    rw [scope, last]
    by_cases same : other = name
    · simp [same]
    · simp only [same, if_false]
      exact records.aliases other fullName

/-- An import. -/
theorem addImport (records : checker.Records history) (name fullName : String) :
    (checker.addImport name fullName).Records (history ++ [.imports name fullName]) := by
  have scope (other : String) : (checker.addImport name fullName).scope.find? other =
      if other = name then none else checker.scope.find? other := by
    rw [addImport_scope, Scope.find?_erase]
  have last (other : String) : last? other (history ++ [.imports name fullName]) =
      if other = name then some (.imports name fullName) else last? other history :=
    last?_concat_binding rfl other history
  have aliases : (checker.addImport name fullName).aliases =
      checker.aliases.filter (fun entry => entry.1 != name) ++ [(name, fullName)] := by
    rw [addImport_aliases, if_pos records.outermost]
  have definitions : (checker.addImport name fullName).definitions =
      checker.definitions.filter (· != name) := by
    rw [addImport_definitions, if_pos records.outermost]
  refine ⟨by rw [addImport_depth, records.outermost], ?_, ?_, ?_, ?_, ?_⟩
  · intro other found
    rw [scope, last]
    by_cases same : other = name
    · simp [same]
    · simpa [same] using records.types other found
  · intro other
    rw [scope, definitions]
    by_cases same : other = name
    · simp [same]
    · simpa [same] using records.definitions other
  · rw [definitions]
    exact records.definedOnce.filter _
  · intro other target
    rw [scope, last, aliases]
    by_cases same : other = name
    · simp [same, eq_comm]
    · simpa [same] using records.aliases other target
  · rw [aliases, List.map_append]
    refine List.nodup_append.mpr ⟨?_, by simp, ?_⟩
    · exact records.importedOnce.sublist (List.filter_sublist.map _)
    · intro imported member other single
      obtain ⟨entry, kept, rfl⟩ := List.mem_map.mp member
      have different := (List.mem_filter.mp kept).2
      rw [List.mem_singleton.mp single]
      simpa using different

/-- The declaration of a type variable is neither a definition nor an import. -/
theorem declareTypeVar (records : checker.Records history) (name : String) :
    (checker.declareTypeVar name).Records (history ++ [.declares name]) := by
  obtain ⟨scope, _, definitions, aliases, depth⟩ := checker.declareTypeVar_frame name
  have last (other : String) : last? other (history ++ [.declares name]) = last? other history := by
    rw [last?_concat]
    rfl
  constructor
  · rw [depth, records.outermost]
  · simpa only [scope, last] using records.types
  · simpa only [scope, definitions] using records.definitions
  · rw [definitions]
    exact records.definedOnce
  · simpa only [scope, aliases, last] using records.aliases
  · rw [aliases]
    exact records.importedOnce

/-- What is recorded does not depend on diagnostics and placeholders. -/
theorem of_sameNames {other : Checker} (records : checker.Records history)
    (same : other.SameNames checker) : other.Records history := by
  have scope (name : String) : other.scope.find? name = checker.scope.find? name :=
    congrArg (·.find? name) same.types
  constructor
  · rw [same.depth, records.outermost]
  · simpa only [scope] using records.types
  · simpa only [scope, same.definitions] using records.definitions
  · rw [same.definitions]
    exact records.definedOnce
  · simpa only [scope, same.aliases] using records.aliases
  · rw [same.aliases]
    exact records.importedOnce

/-- Events are recorded in the order in which they happen. -/
theorem replay (records : checker.Records history) (events : List Event) :
    (Event.replay events checker).Records (history ++ events) := by
  induction events generalizing checker history with
  | nil =>
    rw [List.append_nil]
    exact records
  | cons event rest ih =>
    rw [List.append_cons]
    cases event with
    | defines name ty => exact ih (records.define name ty)
    | imports name fullName => exact ih (records.addImport name fullName)
    | declares name => exact ih (records.declareTypeVar name)

/-- Modules are recorded in the order in which they are checked. -/
theorem checkModules (env : Environment) (modules : List CheckedModule) (file : String)
    (limit : Nat) (notes : Bool) :
    ((Checker.start file limit notes).checkModules env modules).Records
      (eventsOfModules env modules (Checker.start file limit notes)) := by
  have replayed := (start file limit notes).replay
    (eventsOfModules env modules (Checker.start file limit notes))
  exact replayed.of_sameNames (sameNames_checkModules env modules _)

/-! ### Exports -/

/-- A definition is exported with its present type if it is the last event about its name. -/
theorem mem_exports_definitions (records : checker.Records history) (name : String) (ty : Ty) :
    (name, ty) ∈ checker.exports.definitions ↔ last? name history = some (.defines name ty) := by
  rw [← records.types]
  simp only [exports, List.mem_filterMap, Option.map_eq_some_iff, Prod.mk.injEq]
  constructor
  · rintro ⟨listed, _, found, inScope, rfl, rfl⟩
    exact inScope
  · intro inScope
    exact ⟨name, (records.definitions name).mpr ⟨ty, inScope⟩, ty, inScope, rfl, rfl⟩

/-- An import is exported as an alias if it is the last event about its name. -/
theorem mem_exports_aliases (records : checker.Records history) (name fullName : String) :
    (name, fullName) ∈ checker.exports.aliases ↔
      last? name history = some (.imports name fullName) := by
  rw [← records.aliases]
  simp [exports, Scope.contains, NameMap.contains, Scope.find?]

/-- No name is exported twice as a definition. -/
theorem nodup_exports_definitions (records : checker.Records history) :
    (checker.exports.definitions.map Prod.fst).Nodup := by
  have listed (names : List String) : ((names.filterMap fun name =>
      (checker.scope.find? name).map fun ty => (name, ty)).map Prod.fst).Sublist names := by
    induction names with
    | nil => exact .slnil
    | cons name rest ih =>
      cases found : checker.scope.find? name with
      | none => simpa [found] using ih.cons name
      | some ty => simpa [found] using ih
  exact records.definedOnce.sublist (listed checker.definitions)

/-- No name is exported twice as an alias. -/
theorem nodup_exports_aliases (records : checker.Records history) :
    (checker.exports.aliases.map Prod.fst).Nodup :=
  records.importedOnce.sublist (List.filter_sublist.map _)

/-- No name is exported both as a definition and as an alias. -/
theorem disjoint_exports (records : checker.Records history) (name : String)
    (defined : name ∈ checker.exports.definitions.map Prod.fst) :
    name ∉ checker.exports.aliases.map Prod.fst := by
  intro imported
  obtain ⟨⟨_, ty⟩, asDefinition, rfl⟩ := List.mem_map.mp defined
  obtain ⟨⟨_, fullName⟩, asAlias, rfl⟩ := List.mem_map.mp imported
  have first := (records.mem_exports_definitions _ ty).mp asDefinition
  have second := (records.mem_exports_aliases _ fullName).mp asAlias
  rw [first] at second
  cases second

/-- Names in the events are all that is exported. -/
theorem isUndotted_exports (records : checker.Records history) (undotted : AllUndotted history)
    (name : String) :
    (name ∈ checker.exports.definitions.map Prod.fst → IsUndotted name) ∧
      (name ∈ checker.exports.aliases.map Prod.fst → IsUndotted name) := by
  constructor
  · intro defined
    obtain ⟨⟨_, ty⟩, asDefinition, rfl⟩ := List.mem_map.mp defined
    have last := (records.mem_exports_definitions _ ty).mp asDefinition
    exact undotted _ (mem_of_last? last)
  · intro imported
    obtain ⟨⟨_, fullName⟩, asAlias, rfl⟩ := List.mem_map.mp imported
    have last := (records.mem_exports_aliases _ fullName).mp asAlias
    exact undotted _ (mem_of_last? last)

end Records

end Checker

/-! ### Names of modules -/

/-- An undotted text has no dot to begin it with elsewhere. -/
theorem nil_of_dot_cons {front rest otherRest : List Char} (undotted : '.' ∉ rest)
    (same : '.' :: rest = front ++ '.' :: otherRest) : front = [] ∧ rest = otherRest := by
  cases front with
  | nil => exact ⟨rfl, (List.cons.inj same).2⟩
  | cons first others =>
    have inside : '.' ∈ rest := by
      rw [(List.cons.inj same).2]
      simp
    exact absurd inside undotted

/-- The last dot of a full name stands before an undotted name. -/
theorem qualified_inj {module other name otherName : String} (undotted : IsUndotted name)
    (otherUndotted : IsUndotted otherName)
    (same : qualified module name = qualified other otherName) :
    module = other ∧ name = otherName := by
  have chars : module.toList ++ '.' :: name.toList = other.toList ++ '.' :: otherName.toList := by
    have texts := congrArg String.toList same
    simpa [qualified] using texts
  obtain ⟨front, extended, behind⟩ | ⟨front, extended, behind⟩ := List.append_eq_append_iff.mp chars
  · obtain ⟨rfl, sameName⟩ := nil_of_dot_cons undotted behind
    rw [List.append_nil] at extended
    exact ⟨String.toList_injective extended.symm, String.toList_injective sameName⟩
  · obtain ⟨rfl, sameName⟩ := nil_of_dot_cons otherUndotted behind
    rw [List.append_nil] at extended
    exact ⟨String.toList_injective extended, String.toList_injective sameName.symm⟩

namespace ModuleIndex

/-- The names of an entry are those of a module's offer, and they stand under the module's name. -/
theorem contains_foldl_insert {α : Type} (module : String) (offer : List (String × α))
    (known : NameMap α) (fullName : String) :
    (offer.foldl (fun known entry => known.insert (qualified module entry.1) entry.2)
        known).contains fullName = true ↔
      known.contains fullName = true ∨
        ∃ name ∈ offer.map Prod.fst, fullName = qualified module name := by
  induction offer generalizing known with
  | nil => simp
  | cons entry rest ih =>
    rw [List.foldl_cons, ih]
    have inserted : (known.insert (qualified module entry.1) entry.2).contains fullName = true ↔
        fullName = qualified module entry.1 ∨ known.contains fullName = true := by
      by_cases same : fullName = qualified module entry.1 <;>
        simp [NameMap.contains, NameMap.find?_insert, same]
    rw [inserted]
    simp only [List.map_cons, List.mem_cons, exists_eq_or_imp]
    exact or_assoc.trans or_left_comm

/-- The full name is an undotted name in one of the modules. -/
def IsName (modules : List String) (fullName : String) : Prop :=
  ∃ module ∈ modules, ∃ name, IsUndotted name ∧ fullName = qualified module name

/-- All full names are names in the modules, and none is both a definition and an alias. -/
structure IsSeparated (index : ModuleIndex) (modules : List String) : Prop where
  definitions : ∀ fullName, index.definitions.contains fullName = true → IsName modules fullName
  aliases : ∀ fullName, index.aliases.contains fullName = true → IsName modules fullName
  separate : ∀ fullName, ¬ (index.definitions.contains fullName = true ∧
    index.aliases.contains fullName = true)

namespace IsSeparated

variable {index : ModuleIndex} {modules : List String}

theorem isName_cons {module fullName : String} (isName : IsName modules fullName) :
    IsName (module :: modules) fullName := by
  obtain ⟨other, member, rest⟩ := isName
  exact ⟨other, List.mem_cons_of_mem module member, rest⟩

/-- A name in a new module is a name in none of the others. -/
theorem not_isName {module name : String} (new : module ∉ modules) (undotted : IsUndotted name) :
    ¬ IsName modules (qualified module name) := by
  rintro ⟨other, member, otherName, otherUndotted, same⟩
  obtain ⟨rfl, _⟩ := qualified_inj undotted otherUndotted same
  exact new member

/-- A module with a new name is added. Its own names are separate, and those of the other modules
differ from them. -/
theorem add (separated : index.IsSeparated modules) {module : String} (new : module ∉ modules)
    {exports : Exports}
    (undottedDefinitions : ∀ name ∈ exports.definitions.map Prod.fst, IsUndotted name)
    (undottedAliases : ∀ name ∈ exports.aliases.map Prod.fst, IsUndotted name)
    (disjoint : ∀ name ∈ exports.definitions.map Prod.fst,
      name ∉ exports.aliases.map Prod.fst) :
    (index.add module exports).IsSeparated (module :: modules) := by
  have definitions (fullName : String) :
      (index.add module exports).definitions.contains fullName = true ↔ _ :=
    contains_foldl_insert module exports.definitions index.definitions fullName
  have aliases (fullName : String) :
      (index.add module exports).aliases.contains fullName = true ↔ _ :=
    contains_foldl_insert module exports.aliases index.aliases fullName
  constructor
  · intro fullName contained
    obtain before | ⟨name, member, rfl⟩ := (definitions fullName).mp contained
    · exact isName_cons (separated.definitions fullName before)
    · exact ⟨module, List.mem_cons_self, name, undottedDefinitions name member, rfl⟩
  · intro fullName contained
    obtain before | ⟨name, member, rfl⟩ := (aliases fullName).mp contained
    · exact isName_cons (separated.aliases fullName before)
    · exact ⟨module, List.mem_cons_self, name, undottedAliases name member, rfl⟩
  · rintro fullName ⟨defined, aliased⟩
    obtain defined | ⟨name, member, rfl⟩ := (definitions fullName).mp defined
    · obtain aliased | ⟨name, member, rfl⟩ := (aliases fullName).mp aliased
      · exact separated.separate fullName ⟨defined, aliased⟩
      · exact not_isName new (undottedAliases name member) (separated.definitions _ defined)
    · obtain aliased | ⟨other, otherMember, same⟩ := (aliases _).mp aliased
      · exact not_isName new (undottedDefinitions name member) (separated.aliases _ aliased)
      · have undotted := undottedDefinitions name member
        obtain ⟨_, rfl⟩ := qualified_inj undotted (undottedAliases other otherMember) same
        exact disjoint name member otherMember

/-- A stub with a new name is added. -/
theorem addStub (separated : index.IsSeparated modules) {stub : String × String}
    (new : stub.1 ∉ modules) : (index.addStub stub).IsSeparated (stub.1 :: modules) := by
  unfold ModuleIndex.addStub
  simp only
  split
  · refine ⟨fun fullName contained => ?_, fun fullName contained => ?_, separated.separate⟩
    · exact isName_cons (separated.definitions fullName contained)
    · exact isName_cons (separated.aliases fullName contained)
  · rename_i body parsed
    let checker := Checker.start ("<stub " ++ stub.1 ++ ">") 100 true
    have records : (checker.checkModule { index } body stub.2).Records _ :=
      .checkModules { index } [⟨body, stub.2⟩] _ 100 true
    have undotted : AllUndotted
        (Checker.eventsOfModules { index } [⟨body, stub.2⟩] checker) := by
      simp only [Checker.eventsOfModules, List.append_nil]
      exact Stmt.eventsOfBody_allUndotted body _ (allUndotted_of_parseProgram parsed)
    have names := records.isUndotted_exports undotted
    exact separated.add new (fun name => (names name).1) (fun name => (names name).2)
      records.disjoint_exports

/-- Stubs with different names that are new are added one after another. -/
theorem addStubs (separated : index.IsSeparated modules) {stubs : List (String × String)}
    (distinct : (stubs.map Prod.fst).Nodup) (new : ∀ stub ∈ stubs, stub.1 ∉ modules)
    (fullName : String) :
    ¬ ((stubs.foldl ModuleIndex.addStub index).definitions.contains fullName = true ∧
      (stubs.foldl ModuleIndex.addStub index).aliases.contains fullName = true) := by
  induction stubs generalizing index modules with
  | nil => exact separated.separate fullName
  | cons stub rest ih =>
    rw [List.map_cons, List.nodup_cons] at distinct
    obtain ⟨newStub, newRest⟩ := List.forall_mem_cons.mp new
    refine ih (separated.addStub newStub) distinct.2 fun other member => ?_
    rw [List.mem_cons, not_or]
    refine ⟨fun same => distinct.1 ?_, newRest other member⟩
    rw [← same]
    exact List.mem_map_of_mem member

end IsSeparated

end ModuleIndex

/-- After modules have been checked one after another, every name is exported once at most: as a
definition with its present type if the last event about it at the top level is a definition, and as
an alias if that is an import. Hence no full name of stubs with different names is both a definition
and an alias in their index. -/
theorem exports_reflect_last_bindings (env : Environment) (file : String) (limit : Nat)
    (notes : Bool) (modules : List CheckedModule) (stubs : List (String × String))
    (distinct : (stubs.map Prod.fst).Nodup) :
    let events := Checker.eventsOfModules env modules (.start file limit notes)
    let checker := (Checker.start file limit notes).checkModules env modules
    let index := ModuleIndex.ofStubs stubs
    (checker.exports.definitions.map Prod.fst).Nodup ∧
    (checker.exports.aliases.map Prod.fst).Nodup ∧
    (∀ name ∈ checker.exports.definitions.map Prod.fst,
      name ∉ checker.exports.aliases.map Prod.fst) ∧
    (∀ name ty, (name, ty) ∈ checker.exports.definitions ↔
      last? name events = some (.defines name ty)) ∧
    (∀ name ty, (name, ty) ∈ checker.exports.definitions → checker.scope.find? name = some ty) ∧
    (∀ name fullName, (name, fullName) ∈ checker.exports.aliases ↔
      last? name events = some (.imports name fullName)) ∧
    ∀ fullName, ¬ (index.definitions.contains fullName = true ∧
      index.aliases.contains fullName = true) := by
  intro events checker index
  have records : checker.Records events := .checkModules env modules file limit notes
  refine ⟨records.nodup_exports_definitions, records.nodup_exports_aliases,
    records.disjoint_exports, records.mem_exports_definitions, ?_, records.mem_exports_aliases, ?_⟩
  · intro name ty exported
    exact (records.types name ty).mpr ((records.mem_exports_definitions name ty).mp exported)
  · have nothing : ModuleIndex.IsSeparated {} [] := by
      constructor <;> simp [NameMap.contains, NameMap.find?]
    exact nothing.addStubs distinct (by simp)

/-- A name that is imported and then defined in a branch, and one that is defined and imported in a
later module. -/
theorem exports_of_rebound_names :
    let span : Span := ⟨0, 0⟩
    let number : Expr := .literal span (.int 1)
    let modules : List CheckedModule :=
      [⟨[.importModules [⟨"os", none⟩], .assign [.name span "x"] number,
          .ifThen number [.assign [.name span "os"] number] []], ""⟩,
        ⟨[.importFrom (some "sys") false [⟨"path", some "x"⟩]], ""⟩]
    let stubs := [("a", "b = 1\n"), ("a.b", "import c\n")]
    let checker := (Checker.start "" 100 true).checkModules {} modules
    let index := ModuleIndex.ofStubs stubs
    (stubs.map Prod.fst).Nodup ∧
      ("os", Ty.int) ∈ checker.exports.definitions ∧
      ("x", "sys.path") ∈ checker.exports.aliases ∧
      ¬ (index.definitions.contains "a.b" = true ∧ index.aliases.contains "a.b" = true) := by
  intro span number modules stubs checker index
  have distinct : (stubs.map Prod.fst).Nodup := by decide
  have exports := exports_reflect_last_bindings {} "" 100 true modules stubs distinct
  obtain ⟨_, _, _, definitions, _, aliases, separate⟩ := exports
  refine ⟨distinct, (definitions "os" .int).mpr ?_, (aliases "x" "sys.path").mpr ?_, separate "a.b"⟩
  · rfl
  · rfl

end Callwise
