import Callwise.Module.Index

/-!
# Chains of aliases

A name that a module only passes on leads to the full name it comes from, and that name may lead
further. `ModuleIndex.link?` is the name so many steps along such a chain, and
`ModuleIndex.follow` walks it with a bound on the steps. One lemma connects them: after any number
of steps the walk is where the chain is, and goes on from there with the steps that are left.

So all names along a chain that ends in reach resolve to its last name. A chain that does not end
in reach is left at the sixteenth name, which leads further and therefore defines nothing as long
as no name both is defined and leads on.
-/

namespace Callwise.ModuleIndex

variable {index : ModuleIndex} {name : String}

/-- The name so many steps behind a name, if the chain of aliases goes that far. -/
def link? (index : ModuleIndex) (name : String) : (steps : Nat) → Option String
  | 0 => some name
  | steps + 1 => (index.link? name steps).bind index.aliases.find?

/-- The chain behind a name of a chain is the rest of that chain. -/
theorem link?_add {middle : String} {earlier : Nat}
    (reached : index.link? name earlier = some middle) (later : Nat) :
    index.link? name (earlier + later) = index.link? middle later := by
  induction later with
  | zero => exact reached
  | succ later ih =>
    rw [← Nat.add_assoc, link?, link?, ih]

/-- A chain that goes so far has a name at every earlier place. -/
theorem exists_link?_of_le {last : String} {earlier steps : Nat} (order : earlier ≤ steps)
    (reached : index.link? name steps = some last) :
    ∃ spelling, index.link? name earlier = some spelling := by
  induction order generalizing last with
  | refl => exact ⟨last, reached⟩
  | step _ ih =>
    obtain ⟨before, found, _⟩ := Option.bind_eq_some_iff.mp reached
    exact ih found

/-- Following a chain passes through its names. -/
theorem follow_add_of_link? {middle : String} {earlier : Nat}
    (reached : index.link? name earlier = some middle) (later : Nat) :
    index.follow (earlier + later) name = index.follow later middle := by
  induction earlier generalizing middle later with
  | zero =>
    cases reached
    rw [Nat.zero_add]
  | succ earlier ih =>
    obtain ⟨before, found, leads⟩ := Option.bind_eq_some_iff.mp reached
    have through := ih found (later + 1)
    rw [Nat.add_right_comm, Nat.add_assoc, through, follow, leads]

/-- A name that leads nowhere is not left. -/
theorem follow_of_unaliased (ended : index.aliases.find? name = none) (steps : Nat) :
    index.follow steps name = name := by
  cases steps with
  | zero => rfl
  | succ steps => rw [follow, ended]

/-- The first name of a chain that ends in reach stands for its last name. -/
theorem canonical_of_link? {last : String} {steps : Nat} (short : steps ≤ 16)
    (reached : index.link? name steps = some last) (ended : index.aliases.find? last = none) :
    index.canonical name = last := by
  obtain ⟨left, total⟩ := Nat.exists_eq_add_of_le short
  rw [canonical, maxAliasSteps, total, follow_add_of_link? reached, follow_of_unaliased ended]

/-- A chain on which every name in reach leads further goes all the way. -/
theorem exists_link?_of_aliased {bound : Nat}
    (endless : ∀ steps ≤ bound, ∀ spelling ∈ index.link? name steps,
      index.aliases.contains spelling = true) :
    ∀ steps ≤ bound, ∃ spelling, index.link? name steps = some spelling := by
  intro steps
  induction steps with
  | zero => exact fun _ => ⟨name, rfl⟩
  | succ steps ih =>
    intro inReach
    have before : steps ≤ bound := Nat.le_of_succ_le inReach
    obtain ⟨spelling, reached⟩ := ih before
    obtain ⟨target, leads⟩ := Option.isSome_iff_exists.mp (endless steps before spelling reached)
    exact ⟨target, by rw [link?, reached, Option.bind_some, leads]⟩

/-- If the chain of a name ends within sixteen steps, every name on it stands for the last one and
has the type defined under it, and a name once resolved is not resolved any further. If all names
up to the sixteenth lead further, the name stands for the sixteenth, and nothing is found under it
provided that no name both is defined and leads further. -/
theorem spellings_resolve_alike (index : ModuleIndex) (name : String) :
    (∀ (steps : Nat) (last : String), steps ≤ 16 → index.link? name steps = some last →
        index.aliases.find? last = none → ∀ earlier ≤ steps,
          ∃ spelling, index.link? name earlier = some spelling ∧
            index.canonical spelling = last ∧
            index.find? spelling = index.definitions.find? last ∧
            index.canonical (index.canonical spelling) = index.canonical spelling) ∧
      ((∀ steps ≤ 16, ∀ spelling ∈ index.link? name steps,
          index.aliases.contains spelling = true) →
        index.link? name 16 = some (index.canonical name) ∧
          ((∀ fullName, index.definitions.contains fullName = true →
              index.aliases.contains fullName = false) →
            index.find? name = none)) := by
  constructor
  · intro steps last short reached ended earlier order
    obtain ⟨spelling, here⟩ := exists_link?_of_le order reached
    have onward : index.link? spelling (steps - earlier) = some last := by
      rw [← link?_add here, Nat.add_sub_cancel' order]
      exact reached
    have resolved : index.canonical spelling = last :=
      canonical_of_link? (Nat.le_trans (Nat.sub_le steps earlier) short) onward ended
    have settled : index.canonical last = last := follow_of_unaliased ended _
    exact ⟨spelling, here, resolved, by rw [find?, resolved], by rw [resolved, settled]⟩
  · intro endless
    obtain ⟨sixteenth, reached⟩ := exists_link?_of_aliased endless 16 (Nat.le_refl 16)
    have resolved : index.canonical name = sixteenth := follow_add_of_link? reached 0
    refine ⟨by rw [resolved, reached], fun apart => ?_⟩
    have leads := endless 16 (Nat.le_refl 16) sixteenth reached
    cases defined : index.definitions.find? sixteenth with
    | none => rw [find?, resolved, defined]
    | some ty =>
      have alone := apart sixteenth (by rw [NameMap.contains, defined]; rfl)
      rw [leads] at alone
      cases alone

/-- An index with a name that is passed on twice and a name passed on in a circle. -/
def relayed : ModuleIndex where
  definitions := ⟨[("lib.core.run", .int)]⟩
  aliases := ⟨[("app.run", "lib.run"), ("lib.run", "lib.core.run"), ("app.loop", "lib.loop"),
    ("lib.loop", "app.loop")]⟩

/-- A name that is passed on twice has the type of its definition under all its spellings, and a
circle of names has none. -/
theorem spellings_resolve_alike_relayed :
    (relayed.canonical "app.run" = "lib.core.run" ∧ relayed.find? "lib.run" = some .int) ∧
      relayed.canonical "app.loop" = "app.loop" ∧ relayed.find? "app.loop" = none := by
  have ending := (spellings_resolve_alike relayed "app.run").1 2 "lib.core.run" (by decide) rfl rfl
  obtain ⟨outer, outerReached, outerName, _⟩ := ending 0 (by decide)
  obtain ⟨inner, innerReached, _, innerType, _⟩ := ending 1 (by decide)
  obtain rfl : "app.run" = outer := Option.some.inj outerReached
  obtain rfl : "lib.run" = inner := Option.some.inj innerReached
  have circle := (spellings_resolve_alike relayed "app.loop").2 (by decide)
  have apart : ∀ fullName, relayed.definitions.contains fullName = true →
      relayed.aliases.contains fullName = false := by
    intro fullName defined
    by_cases same : fullName = "lib.core.run"
    · subst same
      decide
    · have different : (fullName == "lib.core.run") = false := beq_false_of_ne same
      have missing : relayed.definitions.find? fullName = none := by
        rw [relayed, NameMap.find?, List.lookup_cons, different]
        rfl
      rw [NameMap.contains, missing] at defined
      cases defined
  exact ⟨⟨outerName, innerType⟩, Option.some.inj circle.1.symm, circle.2 apart⟩

end Callwise.ModuleIndex
