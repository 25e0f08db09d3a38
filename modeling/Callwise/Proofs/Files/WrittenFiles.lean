import Callwise.Files.Tree

/-!
# Written files read back

A file that is written at a path is the file that the path names afterwards. The path is followed in
the changed tree, where the same directories have to be there: putting a file in a place where no
directory is leaves every directory with all its entries. Whether a path can be written depends on
the tree alone, not on the text.
-/

namespace Callwise

namespace FileNode

/-! ### Putting a node into a tree -/

/-- Replacing the entries of a name changes what is under this name, if something is. -/
theorem lookup_replaced (entries : List (String × FileNode)) (name other : String)
    (inner : FileNode) :
    (entries.map fun entry => if entry.1 == name then (name, inner) else entry).lookup other =
      if other == name then (entries.lookup name).map fun _ => inner
      else entries.lookup other := by
  induction entries with
  | nil => simp
  | cons entry entries ih =>
    obtain ⟨key, value⟩ := entry
    by_cases replaced : key = name
    · by_cases same : other = name
      · simp [replaced, same]
      · have skipped : (other == name) = false := by simpa using same
        simpa [replaced, skipped, List.lookup_cons] using ih
    · have kept : (name == key) = false := by simpa using Ne.symm replaced
      have head : (if key == name then (name, inner) else (key, value)) = (key, value) := by
        simp [replaced]
      rw [List.map_cons, head, List.lookup_cons, ih, List.lookup_cons,
        List.lookup_cons, kept]
      by_cases same : other = name
      · simp [same, kept]
      · simp [same]

/-- The entries of a directory. -/
@[simp]
theorem entries_directory (entries : List (String × FileNode)) :
    (directory entries).entries = entries := rfl

/-- After an insertion the name leads to what was inserted below it, and other names lead to what
they led to before. -/
theorem lookup_insert (new node : FileNode) (name other : String) (names : List String) :
    (insert new (name :: names) node).entries.lookup other =
      if other == name then
        some (insert new names ((node.entries.lookup name).getD (.directory [])))
      else node.entries.lookup other := by
  simp only [insert]
  cases found : node.entries.lookup name with
  | none =>
    by_cases same : other = name
    · simp [same, found, List.lookup_append]
    · have skipped : (other == name) = false := by simpa using same
      simp [skipped, List.lookup_append, List.lookup_cons]
  | some inner =>
    rw [Option.isSome_some, if_pos rfl, entries_directory, lookup_replaced, found]
    rfl

/-- An insertion below a name makes a directory. -/
theorem insert_cons (new node : FileNode) (name : String) (names : List String) :
    insert new (name :: names) node = .directory (insert new (name :: names) node).entries := by
  simp only [insert]
  split <;> rfl

/-- The inserted node is at the end of its names. -/
theorem descend?_insert (new node : FileNode) (names : List String) :
    (insert new names node).descend? names = some new := by
  induction names generalizing node with
  | nil => rfl
  | cons name names ih =>
    rw [descend?, lookup_insert, beq_self_eq_true, if_pos rfl]
    exact ih _

/-- Names that follow each other are followed one after the other. -/
theorem descend?_append (first second : List String) (node : FileNode) :
    node.descend? (first ++ second) = (node.descend? first).bind (descend? second) := by
  induction first generalizing node with
  | nil => rfl
  | cons name first ih =>
    cases found : node.entries.lookup name with
    | none => simp [descend?, found]
    | some inner => simp [descend?, found, ih]

/-- A name behind the names of a directory leads to its entry. -/
theorem descend?_concat {node : FileNode} {names : List String}
    {entries : List (String × FileNode)} (found : node.descend? names = some (.directory entries))
    (name : String) : node.descend? (names ++ [name]) = entries.lookup name := by
  rw [descend?_append, found]
  cases entry : entries.lookup name <;> simp [descend?, entry]

/-- Every directory of the first tree is a directory of the second, with all its entries. -/
def KeepsDirectories (before after : FileNode) : Prop :=
  ∀ names entries, before.descend? names = some (.directory entries) →
    ∃ more, after.descend? names = some (.directory more) ∧
      ∀ name, (entries.lookup name).isSome = true → (more.lookup name).isSome = true

/-- An insertion in a place where no directory is keeps the directories. -/
theorem keepsDirectories_insert (new : FileNode) {names : List String} {node : FileNode}
    (free : ∀ entries, node.descend? names ≠ some (.directory entries)) :
    KeepsDirectories node (insert new names node) := by
  induction names generalizing node with
  | nil =>
    intro way entries found
    cases node with
    | directory own => exact absurd rfl (free own)
    | file content =>
      cases way with
      | nil => cases found
      | cons name way => cases found
  | cons name names ih =>
    intro way entries found
    cases way with
    | nil =>
      cases found
      refine ⟨_, congrArg some (insert_cons new _ name names), fun other present => ?_⟩
      rw [lookup_insert]
      split
      · rfl
      · exact present
    | cons other way =>
      obtain ⟨inner, here, below⟩ := Option.bind_eq_some_iff.mp found
      rw [descend?, lookup_insert]
      by_cases same : other = name
      · subst same
        rw [beq_self_eq_true, if_pos rfl, here]
        refine ih (fun entries isDirectory => free entries ?_) way entries below
        rw [descend?, here]
        exact isDirectory
      · have skipped : (other == name) = false := by simpa using same
        rw [skipped, here]
        exact ⟨entries, below, fun _ present => present⟩

end FileNode

namespace FileTree

variable {tree : FileTree}

/-! ### Following a path -/

/-- A segment leads from one place to another: the first is a directory, and the segment is a dot,
two dots or the name of one of its entries. -/
def Leads (tree : FileTree) (segment : String) (place next : List String) : Prop :=
  ∃ entries, tree.root.descend? place.reverse = some (.directory entries) ∧
    (segment = "." ∧ next = place ∨
      segment = ".." ∧ next = place.tail ∨
      segment ≠ "." ∧ segment ≠ ".." ∧ (entries.lookup segment).isSome = true ∧
        next = segment :: place)

/-- A path is followed segment by segment. -/
theorem follow_cons_iff {segment : String} {segments place result : List String} :
    tree.follow (segment :: segments) place = .ok result ↔
      ∃ next, tree.Leads segment place next ∧ tree.follow segments next = .ok result := by
  constructor
  · intro reached
    rw [follow] at reached
    split at reached
    · cases reached
    · cases reached
    · rename_i entries found
      split at reached
      · rename_i here
        exact ⟨place, ⟨entries, found, .inl ⟨beq_iff_eq.mp here, rfl⟩⟩, reached⟩
      · rename_i notHere
        rw [beq_iff_eq] at notHere
        split at reached
        · rename_i up
          exact ⟨place.tail, ⟨entries, found, .inr (.inl ⟨beq_iff_eq.mp up, rfl⟩)⟩, reached⟩
        · rename_i notUp
          rw [beq_iff_eq] at notUp
          split at reached
          · rename_i present
            exact ⟨segment :: place,
              ⟨entries, found, .inr (.inr ⟨notHere, notUp, present, rfl⟩)⟩, reached⟩
          · cases reached
  · rintro ⟨next, ⟨entries, found, ways⟩, following⟩
    rw [follow, found]
    rcases ways with ⟨rfl, rfl⟩ | ⟨rfl, rfl⟩ | ⟨notHere, notUp, present, rfl⟩
    · exact following
    · exact following
    · simp only [beq_iff_eq, notHere, notUp, present, if_false, if_true]
      exact following

/-- A segment leads to the same place in a tree that keeps the directories. -/
theorem Leads.of_keepsDirectories {before after : FileTree}
    (keeps : before.root.KeepsDirectories after.root) {segment : String} {place next : List String}
    (leads : before.Leads segment place next) : after.Leads segment place next := by
  obtain ⟨entries, found, ways⟩ := leads
  obtain ⟨more, still, kept⟩ := keeps _ _ found
  refine ⟨more, still, ?_⟩
  rcases ways with here | up | ⟨notHere, notUp, present, same⟩
  · exact .inl here
  · exact .inr (.inl up)
  · exact .inr (.inr ⟨notHere, notUp, kept segment present, same⟩)

/-- A path leads to the same place in a tree that keeps the directories. -/
theorem follow_of_keepsDirectories {before after : FileTree}
    (keeps : before.root.KeepsDirectories after.root) {segments place result : List String}
    (reached : before.follow segments place = .ok result) :
    after.follow segments place = .ok result := by
  induction segments generalizing place with
  | nil => exact reached
  | cons segment segments ih =>
    obtain ⟨next, leads, following⟩ := follow_cons_iff.mp reached
    exact follow_cons_iff.mpr ⟨next, leads.of_keepsDirectories keeps, ih following⟩

/-- A path can be continued by one more segment. -/
theorem follow_append {segments place between next : List String} {last : String}
    (reached : tree.follow segments place = .ok between) (leads : tree.Leads last between next) :
    tree.follow (segments ++ [last]) place = .ok next := by
  induction segments generalizing place with
  | nil =>
    cases reached
    exact follow_cons_iff.mpr ⟨next, leads, rfl⟩
  | cons segment segments ih =>
    obtain ⟨following, first, others⟩ := follow_cons_iff.mp reached
    exact follow_cons_iff.mpr ⟨following, first, ih others⟩

/-- A path names what is at the place to which it leads. -/
theorem find_of_follow {path : String} (nonempty : path.isEmpty = false)
    (noSlash : Path.endsWithSlash path = false) {place : List String}
    (reached : tree.follow (Path.segments path) (tree.startOf path) = .ok place) {node : FileNode}
    (there : tree.root.descend? place.reverse = some node) : tree.find path = .ok node := by
  rw [find, nonempty]
  simp only [bind, Except.bind, reached, there, noSlash]
  rfl

/-! ### Writing and reading -/

/-- A file can be written at the path: it gets this name in the directory at this place. -/
structure Accepts (tree : FileTree) (path : String) (place : List String) (name : String) :
    Prop where
  last : (Path.segments path).getLast? = some name
  reached : tree.follow (Path.segments path).dropLast (tree.startOf path) = .ok place
  isDirectory : ∃ entries, tree.root.descend? place.reverse = some (.directory entries) ∧
    (entries.lookup name).any FileNode.isDirectory = false
  isName : Path.endsWithSlash path = false ∧ name ≠ "." ∧ name ≠ ".."

/-- The tree with a text in a file. -/
def withFile (tree : FileTree) (names : List String) (text : String) : FileTree :=
  { tree with root := FileNode.insert (.file text.toUTF8) names tree.root }

/-- A text is written exactly where a file can be. -/
theorem write_eq_ok_iff {tree changed : FileTree} {path text : String} :
    tree.write path text = .ok changed ↔
      ∃ place name, tree.Accepts path place name ∧
        changed = tree.withFile (place.reverse ++ [name]) text := by
  constructor
  · intro written
    unfold write at written
    split at written
    · split at written <;> cases written
    · rename_i name last
      cases reached : tree.follow (Path.segments path).dropLast (tree.startOf path) with
      | error error =>
        rw [reached] at written
        cases written
      | ok place =>
        rw [reached] at written
        cases found : tree.root.descend? place.reverse with
        | none => simp only [found, bind, Except.bind] at written; cases written
        | some node =>
          cases node with
          | file content => simp only [found, bind, Except.bind] at written; cases written
          | directory entries =>
            simp only [found, bind, Except.bind] at written
            split at written
            · cases written
            · rename_i free
              cases written
              simp only [Bool.or_eq_true, not_or, beq_iff_eq, Bool.not_eq_true] at free
              obtain ⟨⟨⟨noDirectory, noSlash⟩, notHere⟩, notUp⟩ := free
              exact ⟨place, name, ⟨last, reached, ⟨entries, found, noDirectory⟩,
                noSlash, notHere, notUp⟩, rfl⟩
  · rintro ⟨place, name, accepts, rfl⟩
    obtain ⟨entries, found, noDirectory⟩ := accepts.isDirectory
    obtain ⟨noSlash, notHere, notUp⟩ := accepts.isName
    simp only [write, accepts.last, accepts.reached, bind, Except.bind, found, noDirectory, noSlash,
      beq_eq_false_iff_ne.mpr notHere, beq_eq_false_iff_ne.mpr notUp]
    rfl

/-- Whether a text can be written does not depend on the text. -/
theorem exists_write_of_isOk {path text : String} (writable : (tree.write path text).isOk = true)
    (other : String) :
    ∃ changed, tree.write path other = .ok changed := by
  cases written : tree.write path text with
  | error error =>
    rw [written] at writable
    cases writable
  | ok changed =>
    obtain ⟨place, name, accepts, _⟩ := write_eq_ok_iff.mp written
    exact ⟨_, write_eq_ok_iff.mpr ⟨place, name, accepts, rfl⟩⟩

/-- The path of a file that can be written is not empty. -/
theorem Accepts.nonempty {path name : String} {place : List String}
    (accepts : tree.Accepts path place name) : path.isEmpty = false := by
  rw [Bool.eq_false_iff]
  intro empty
  obtain rfl := String.isEmpty_iff.mp empty
  have noSegments : Path.segments "" = [] := by decide
  have last := accepts.last
  rw [noSegments] at last
  cases last

/-- The last segment leads to the new file. -/
theorem Accepts.leads_withFile {path name : String} {place : List String}
    (accepts : tree.Accepts path place name) (text : String)
    (keeps : tree.root.KeepsDirectories (tree.withFile (place.reverse ++ [name]) text).root) :
    (tree.withFile (place.reverse ++ [name]) text).Leads name place (name :: place) := by
  obtain ⟨entries, found, _⟩ := accepts.isDirectory
  obtain ⟨more, still, _⟩ := keeps _ _ found
  have inserted := FileNode.descend?_insert (.file text.toUTF8) tree.root (place.reverse ++ [name])
  have present : more.lookup name = some (.file text.toUTF8) :=
    (FileNode.descend?_concat still name).symm.trans inserted
  exact ⟨more, still, .inr (.inr ⟨accepts.isName.2.1, accepts.isName.2.2, by simp [present], rfl⟩)⟩

/-- The new file is what the path names. -/
theorem Accepts.find_withFile {path name : String} {place : List String}
    (accepts : tree.Accepts path place name) (text : String) :
    (tree.withFile (place.reverse ++ [name]) text).find path = .ok (.file text.toUTF8) := by
  obtain ⟨entries, found, noDirectory⟩ := accepts.isDirectory
  have free : ∀ other, tree.root.descend? (place.reverse ++ [name]) ≠ some (.directory other) := by
    intro other isDirectory
    rw [FileNode.descend?_concat found] at isDirectory
    rw [isDirectory] at noDirectory
    cases noDirectory
  have keeps := FileNode.keepsDirectories_insert (.file text.toUTF8) free
  have inserted : (tree.withFile (place.reverse ++ [name]) text).root.descend?
      (name :: place).reverse = some (.file text.toUTF8) := by
    rw [List.reverse_cons]
    exact FileNode.descend?_insert _ _ _
  have onTheWay : (tree.withFile (place.reverse ++ [name]) text).follow
      (Path.segments path).dropLast (tree.startOf path) = .ok place :=
    follow_of_keepsDirectories keeps accepts.reached
  have reached := follow_append onTheWay (accepts.leads_withFile text keeps)
  obtain ⟨front, spelled⟩ := List.getLast?_eq_some_iff.mp accepts.last
  rw [spelled, List.dropLast_concat, ← spelled] at reached
  exact find_of_follow accepts.nonempty accepts.isName.1 reached inserted

/-- What is written at a path is read at the path. -/
theorem readText_of_write {tree changed : FileTree} {path text : String}
    (written : tree.write path text = .ok changed) : changed.readText path = .ok text := by
  obtain ⟨place, name, accepts, rfl⟩ := write_eq_ok_iff.mp written
  have valid : String.fromUTF8? text.toUTF8 = some text := by
    unfold String.fromUTF8?
    rw [dif_pos (by exact text.isValidUTF8)]
    rfl
  simp only [readText, accepts.find_withFile, bind, Except.bind, valid]

end FileTree

end Callwise
