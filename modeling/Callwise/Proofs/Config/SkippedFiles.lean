import Callwise.Config.Discovery
import Callwise.Proofs.Files.Spellings

/-!
# Configuration files that are passed over

A file with the name of a configuration file may hold no configuration. Deleting all such files from
a tree keeps its directories, so a way through directories leads where it led before, and of the
paths where a configuration is looked for those still name a file from which one can be loaded.
Afterwards the configuration of a directory is the nearest one that can be loaded. Before, the
nearest file decides, and this is the same unless the nearest file is deleted and the nearest
configuration that can be loaded is not the standard one.
-/

namespace Callwise

variable {tree : FileTree}

/-- The configuration of which a file holds the text. -/
def Config.ofBytes? (content : ByteArray) : Option Config :=
  (String.fromUTF8? content).bind fun text => (Config.ofText text).toOption

namespace FileNode

/-! ### Deleting the files that hold no configuration -/

/-- Under this name the node is a configuration file, but it holds no configuration. -/
def isInvalidAs (name : String) : FileNode → Bool
  | .file content => Config.fileNames.contains name && (Config.ofBytes? content).isNone
  | .directory _ => false

mutual

/-- The node without all configuration files that hold no configuration. -/
def withoutInvalid : FileNode → FileNode
  | .file content => .file content
  | .directory entries => .directory (withoutInvalidIn entries entries)

/-- The entries without those whose names lead to such files. -/
def withoutInvalidIn (all : List (String × FileNode)) :
    List (String × FileNode) → List (String × FileNode)
  | [] => []
  | (name, node) :: rest =>
    if (all.lookup name).any (isInvalidAs name) then withoutInvalidIn all rest
    else (name, node.withoutInvalid) :: withoutInvalidIn all rest

end

/-- A name leads to what it led to before, if this is not deleted. -/
theorem lookup_withoutInvalidIn (all entries : List (String × FileNode)) (name : String) :
    (withoutInvalidIn all entries).lookup name =
      if (all.lookup name).any (isInvalidAs name) then none
      else (entries.lookup name).map withoutInvalid := by
  induction entries with
  | nil => simp [withoutInvalidIn]
  | cons entry rest ih =>
    obtain ⟨key, node⟩ := entry
    rw [withoutInvalidIn]
    by_cases same : name = key
    · subst same
      split
      · rename_i deleted
        simpa [deleted] using ih
      · simp
    · have skipped : (name == key) = false := by simpa using same
      split <;> simpa [List.lookup_cons, skipped] using ih

/-- Below a file there are no directories. -/
theorem descend?_file_ne (content : ByteArray) (names : List String)
    (entries : List (String × FileNode)) :
    (file content).descend? names ≠ some (.directory entries) := by
  cases names <;> nofun

/-- The directories are those that were there before, with the entries that are not deleted. -/
theorem descend?_withoutInvalid_iff {node : FileNode} {names : List String}
    {kept : List (String × FileNode)} :
    node.withoutInvalid.descend? names = some (.directory kept) ↔
      ∃ entries, node.descend? names = some (.directory entries) ∧
        kept = withoutInvalidIn entries entries := by
  induction names generalizing node with
  | nil => cases node <;> simp [descend?, withoutInvalid, eq_comm]
  | cons name names ih =>
    cases node with
    | file content => simp [withoutInvalid, descend?_file_ne]
    | directory own =>
      simp only [descend?, withoutInvalid, entries_directory, lookup_withoutInvalidIn]
      cases own.lookup name with
      | none => simp
      | some inner =>
        cases inner with
        | directory entries => simpa [isInvalidAs] using ih
        | file content =>
          cases deleted : (file content).isInvalidAs name <;>
            simp [deleted, withoutInvalid, descend?_file_ne]

end FileNode

namespace FileTree

/-- The tree without all configuration files that hold no configuration. -/
def withoutInvalid (tree : FileTree) : FileTree :=
  { tree with root := tree.root.withoutInvalid }

/-- Deleting files leaves the directories where they are. -/
theorem keepsDirectories_withoutInvalid (tree : FileTree) :
    tree.withoutInvalid.root.KeepsDirectories tree.root := by
  intro names kept found
  obtain ⟨entries, before, rfl⟩ := FileNode.descend?_withoutInvalid_iff.mp found
  refine ⟨entries, before, fun name present => ?_⟩
  rw [FileNode.lookup_withoutInvalidIn] at present
  split at present
  · cases present
  · simpa using present

/-- A way that ends at a directory starts at one. -/
theorem exists_directory_of_follow {segments place reached : List String}
    (followed : tree.follow segments place = .ok reached) {entries : List (String × FileNode)}
    (there : tree.root.descend? reached.reverse = some (.directory entries)) :
    ∃ own, tree.root.descend? place.reverse = some (.directory own) := by
  cases segments with
  | nil =>
    cases followed
    exact ⟨entries, there⟩
  | cons segment segments =>
    obtain ⟨_, ⟨own, here, _⟩, _⟩ := follow_cons_iff.mp followed
    exact ⟨own, here⟩

/-- A way to a directory stays. -/
theorem follow_withoutInvalid {segments place reached : List String}
    (followed : tree.follow segments place = .ok reached) {entries : List (String × FileNode)}
    (there : tree.root.descend? reached.reverse = some (.directory entries)) :
    tree.withoutInvalid.follow segments place = .ok reached := by
  induction segments generalizing place with
  | nil => exact followed
  | cons segment segments ih =>
    obtain ⟨next, ⟨own, here, ways⟩, following⟩ := follow_cons_iff.mp followed
    have stays := FileNode.descend?_withoutInvalid_iff.mpr ⟨own, here, rfl⟩
    refine follow_cons_iff.mpr ⟨next, ⟨_, stays, ?_⟩, ih following⟩
    refine ways.imp_right fun ways => ways.imp_right ?_
    rintro ⟨notHere, notUp, _, rfl⟩
    refine ⟨notHere, notUp, ?_, rfl⟩
    obtain ⟨inner, below⟩ := exists_directory_of_follow following there
    rw [List.reverse_cons, FileNode.descend?_concat here] at below
    simp [FileNode.lookup_withoutInvalidIn, below, FileNode.isInvalidAs]

/-! ### Files behind a name -/

/-- The content of the file that a path names. -/
def file? (tree : FileTree) (path : String) : Option ByteArray :=
  match tree.find path with
  | .ok (.file content) => some content
  | _ => none

theorem file?_eq_some_iff {path : String} {content : ByteArray} :
    tree.file? path = some content ↔ tree.find path = .ok (.file content) := by
  unfold file?
  split <;> simp_all

theorem isFile_eq (tree : FileTree) (path : String) :
    tree.isFile path = (tree.file? path).isSome := by
  unfold isFile file?
  cases tree.find path with
  | error error => rfl
  | ok node => cases node <;> rfl

/-- The last step of a way is taken behind all others. -/
theorem exists_leads_of_follow_append {segments place next : List String} {last : String}
    (reached : tree.follow (segments ++ [last]) place = .ok next) :
    ∃ between, tree.follow segments place = .ok between ∧ tree.Leads last between next := by
  induction segments generalizing place with
  | nil =>
    obtain ⟨_, leads, ends⟩ := follow_cons_iff.mp reached
    cases ends
    exact ⟨place, rfl, leads⟩
  | cons segment segments ih =>
    obtain ⟨following, first, others⟩ := follow_cons_iff.mp reached
    obtain ⟨between, onTheWay, leads⟩ := ih others
    exact ⟨between, follow_cons_iff.mpr ⟨following, first, onTheWay⟩, leads⟩

/-- The path ends with a slash and the name of a configuration file. -/
structure IsCandidate (path name : String) : Prop where
  listed : name ∈ Config.fileNames
  spelled : ∃ before, path.toList = before ++ '/' :: name.toList

namespace IsCandidate

variable {path name : String} (candidate : IsCandidate path name)

include candidate

/-- The names of settings files are plain names. -/
theorem isName : '/' ∉ name.toList ∧ name.isEmpty = false ∧ name ≠ "." ∧ name ≠ ".." := by
  have listed := candidate.listed
  simp only [Config.fileNames, List.mem_cons, List.not_mem_nil, or_false] at listed
  rcases listed with rfl | rfl <;> decide

theorem endsWithSlash : Path.endsWithSlash path = false := by
  obtain ⟨before, spelled⟩ := candidate.spelled
  obtain ⟨noSlash, nonempty, _⟩ := candidate.isName
  have someChars : name.toList ≠ [] := by simpa using nonempty
  obtain ⟨front, last, split⟩ := (List.eq_nil_or_concat name.toList).resolve_left someChars
  have differs : last ≠ '/' := fun same => noSlash (by simp [split, same])
  rw [Path.endsWithSlash, spelled, split, List.concat_eq_append, ← List.cons_append,
    ← List.append_assoc, List.getLast?_concat]
  simpa using differs

theorem isEmpty : path.isEmpty = false := by
  obtain ⟨before, spelled⟩ := candidate.spelled
  rw [Bool.eq_false_iff]
  intro empty
  rw [String.isEmpty_iff.mp empty] at spelled
  simp at spelled

/-- A candidate names a file if the way to its name leads to a directory in which the name leads to
the file. -/
theorem exists_file?_iff : ∃ front, ∀ (tree : FileTree) (content : ByteArray),
    tree.file? path = some content ↔
      ∃ place entries, tree.follow front (tree.startOf path) = .ok place ∧
        tree.root.descend? place.reverse = some (.directory entries) ∧
        entries.lookup name = some (.file content) := by
  obtain ⟨before, spelled⟩ := candidate.spelled
  obtain ⟨noSlash, nonempty, notHere, notUp⟩ := candidate.isName
  obtain ⟨front, segments⟩ := Path.exists_segments_of_slash spelled noSlash nonempty
  refine ⟨front, fun tree content => file?_eq_some_iff.trans ⟨fun found => ?_, ?_⟩⟩
  · obtain ⟨next, reached, there⟩ := follow_of_find found
    rw [segments] at reached
    obtain ⟨place, onTheWay, entries, here, ways⟩ := exists_leads_of_follow_append reached
    rcases ways with ⟨same, _⟩ | ⟨same, _⟩ | ⟨_, _, _, rfl⟩
    · exact absurd same notHere
    · exact absurd same notUp
    · rw [List.reverse_cons, FileNode.descend?_concat here] at there
      exact ⟨place, entries, onTheWay, here, there⟩
  · rintro ⟨place, entries, onTheWay, here, there⟩
    have leads : tree.Leads name place (name :: place) :=
      ⟨entries, here, .inr (.inr ⟨notHere, notUp, by simp [there], rfl⟩)⟩
    have reached := follow_append onTheWay leads
    rw [← segments] at reached
    refine find_of_follow candidate.isEmpty candidate.endsWithSlash reached ?_
    rw [List.reverse_cons, FileNode.descend?_concat here, there]

/-- A settings file is left exactly if it can be loaded. -/
theorem lookup_eq_file_iff (entries : List (String × FileNode)) (content : ByteArray) :
    (FileNode.withoutInvalidIn entries entries).lookup name = some (.file content) ↔
      entries.lookup name = some (.file content) ∧ (Config.ofBytes? content).isSome = true := by
  have listed := candidate.listed
  rw [FileNode.lookup_withoutInvalidIn]
  cases entries.lookup name with
  | none => simp
  | some node =>
    cases node with
    | directory inner => simp [FileNode.isInvalidAs, FileNode.withoutInvalid]
    | file own =>
      cases held : Config.ofBytes? own with
      | none =>
        have deleted : (FileNode.file own).isInvalidAs name = true := by
          simp [FileNode.isInvalidAs, listed, held]
        rw [Option.any_some, deleted, if_pos rfl]
        refine iff_of_false nofun ?_
        rintro ⟨⟨⟩, present⟩
        simp [held] at present
      | some config =>
        have kept : (FileNode.file own).isInvalidAs name = false := by
          simp [FileNode.isInvalidAs, held]
        simp only [Option.any_some, kept, Bool.false_eq_true, if_false, Option.map_some,
          FileNode.withoutInvalid]
        refine ⟨?_, And.left⟩
        rintro ⟨⟩
        exact ⟨rfl, by rw [held, Option.isSome_some]⟩

/-- A candidate still names a file if the file holds a configuration. -/
theorem file?_withoutInvalid (tree : FileTree) :
    tree.withoutInvalid.file? path =
      (tree.file? path).filter fun content => (Config.ofBytes? content).isSome := by
  obtain ⟨front, names⟩ := candidate.exists_file?_iff
  ext content
  rw [names, Option.filter_eq_some_iff, names]
  constructor
  · rintro ⟨place, kept, onTheWay, here, there⟩
    obtain ⟨entries, before, rfl⟩ := FileNode.descend?_withoutInvalid_iff.mp here
    obtain ⟨present, held⟩ := (candidate.lookup_eq_file_iff entries content).mp there
    have sameWay := follow_of_keepsDirectories tree.keepsDirectories_withoutInvalid onTheWay
    exact ⟨⟨place, entries, sameWay, before, present⟩, held⟩
  · rintro ⟨⟨place, entries, onTheWay, here, there⟩, held⟩
    exact ⟨place, _, follow_withoutInvalid onTheWay here,
      FileNode.descend?_withoutInvalid_iff.mpr ⟨entries, here, rfl⟩,
      (candidate.lookup_eq_file_iff entries content).mpr ⟨there, held⟩⟩

end IsCandidate

end FileTree

namespace Config

/-! ### Finding the configuration -/

/-- The configuration that can be loaded from a path. -/
def loaded? (tree : FileTree) (path : String) : Option Config := (load tree path).toOption

/-- A configuration is loaded from the bytes of a file. -/
theorem loaded?_eq_bind (tree : FileTree) (path : String) :
    loaded? tree path = (tree.file? path).bind ofBytes? := by
  unfold loaded? load FileTree.readText FileTree.file? ofBytes?
  cases tree.find path with
  | error error => rfl
  | ok node =>
    cases node with
    | directory entries => rfl
    | file content =>
      cases decoded : String.fromUTF8? content with
      | none => simp [bind, Except.bind, decoded, Except.toOption]
      | some text =>
        cases read : Config.ofText text <;> simp [bind, Except.bind, decoded, read, Except.toOption]

section

variable {path name : String} (candidate : FileTree.IsCandidate path name) (tree : FileTree)

include candidate

/-- The deletion keeps what can be loaded. -/
theorem loaded?_withoutInvalid : loaded? tree.withoutInvalid path = loaded? tree path := by
  rw [loaded?_eq_bind, loaded?_eq_bind, candidate.file?_withoutInvalid]
  cases tree.file? path with
  | none => rfl
  | some content => cases held : ofBytes? content <;> simp [Option.filter, held]

/-- After the deletion a candidate names a file only if a configuration can be loaded from it. -/
theorem isFile_withoutInvalid :
    tree.withoutInvalid.isFile path = (loaded? tree path).isSome := by
  rw [FileTree.isFile_eq, loaded?_eq_bind, candidate.file?_withoutInvalid]
  cases tree.file? path with
  | none => rfl
  | some content => cases held : ofBytes? content <;> simp [Option.filter, held]

end

/-- The paths at which a configuration is looked for in a directory. -/
def pathsIn (directory : List String) : List String :=
  fileNames.map fun name => "/" ++ "/".intercalate (directory ++ [name])

/-- The paths at which a configuration is looked for, the nearest first. The directory is given by
its segments from the last to the first. -/
def candidatePaths : List String → List String
  | [] => pathsIn []
  | segment :: above => pathsIn (segment :: above).reverse ++ candidatePaths above

/-- Going upwards finds the first candidate that is a file. -/
theorem nearestFile?_eq_find? (tree : FileTree) (directory : List String) :
    nearestFile? tree directory = (candidatePaths directory).find? tree.isFile := by
  induction directory with
  | nil => rfl
  | cons segment above ih =>
    have here : fileIn? tree (segment :: above).reverse =
      (pathsIn (segment :: above).reverse).find? tree.isFile := rfl
    rw [nearestFile?, candidatePaths, List.find?_append, ← ih, here]
    cases (pathsIn (segment :: above).reverse).find? tree.isFile <;> rfl

theorem exists_spelled (directory : List String) (name : String) :
    ∃ before, ("/" ++ "/".intercalate (directory ++ [name])).toList =
      before ++ '/' :: name.toList := by
  induction directory with
  | nil => exact ⟨[], by simp⟩
  | cons segment directory ih =>
    obtain ⟨before, spelled⟩ := ih
    refine ⟨'/' :: segment.toList ++ before, ?_⟩
    obtain ⟨first, rest, split⟩ := List.exists_cons_of_ne_nil
      (List.append_ne_nil_of_right_ne_nil directory (List.cons_ne_nil name []))
    rw [split] at spelled
    rw [List.cons_append, split, String.intercalate_cons_cons, List.append_assoc, ← spelled]
    simp

/-- Every path that is looked at ends with the name of a settings file. -/
theorem exists_isCandidate {directory : List String} {path : String}
    (member : path ∈ candidatePaths directory) : ∃ name, FileTree.IsCandidate path name := by
  have inDirectory {segments : List String} (member : path ∈ pathsIn segments) :
      ∃ name, FileTree.IsCandidate path name := by
    obtain ⟨name, listed, rfl⟩ := List.mem_map.mp member
    exact ⟨name, listed, exists_spelled segments name⟩
  induction directory with
  | nil => exact inDirectory member
  | cons segment above ih =>
    exact (List.mem_append.mp member).elim inDirectory ih

/-- The nearest file decides, and if it cannot be loaded nothing is set. -/
theorem discover_eq (tree : FileTree) (directory : List String) :
    discover tree directory =
      ((nearestFile? tree directory.reverse).bind (loaded? tree)).getD .standard := by
  unfold discover
  cases nearestFile? tree directory.reverse with
  | none => rfl
  | some path => cases loaded : load tree path <;> simp [loaded?, loaded, Except.toOption]

/-- The nearest configuration that can be loaded. -/
def nearestConfig? (tree : FileTree) (directory : List String) : Option Config :=
  (candidatePaths directory.reverse).findSome? (loaded? tree)

/-- Without the files that hold no configuration, the nearest one that can be loaded holds. -/
theorem discover_withoutInvalid (tree : FileTree) (directory : List String) :
    discover tree.withoutInvalid directory = (nearestConfig? tree directory).getD .standard := by
  have candidates : ∀ path ∈ candidatePaths directory.reverse,
      ∃ name, FileTree.IsCandidate path name := fun path => exists_isCandidate
  rw [discover_eq, nearestFile?_eq_find?, nearestConfig?]
  congr 1
  generalize candidatePaths directory.reverse = paths at candidates
  induction paths with
  | nil => rfl
  | cons path paths ih =>
    obtain ⟨⟨name, candidate⟩, others⟩ := List.forall_mem_cons.mp candidates
    rw [List.find?_cons, List.findSome?_cons, isFile_withoutInvalid candidate]
    cases found : loaded? tree path with
    | none => exact ih others
    | some config => exact (loaded?_withoutInvalid candidate tree).trans found

/-- The nearest file decides if a configuration can be loaded from it. -/
theorem nearestConfig?_eq_bind {directory : List String}
    (loads : ∀ path, nearestFile? tree directory.reverse = some path → loaded? tree path ≠ none) :
    nearestConfig? tree directory =
      (nearestFile? tree directory.reverse).bind (loaded? tree) := by
  rw [nearestFile?_eq_find?] at loads ⊢
  rw [nearestConfig?]
  generalize candidatePaths directory.reverse = paths at loads
  induction paths with
  | nil => rfl
  | cons path paths ih =>
    rw [List.find?_cons] at loads ⊢
    rw [List.findSome?_cons]
    cases isFile : tree.isFile path with
    | true =>
      obtain ⟨config, found⟩ := Option.ne_none_iff_exists'.mp (loads path (by rw [isFile]))
      simp [found]
    | false =>
      have nothing : loaded? tree path = none := by
        rw [FileTree.isFile_eq, Option.isSome_eq_false_iff, Option.isNone_iff_eq_none] at isFile
        rw [loaded?_eq_bind, isFile, Option.bind_none]
      rw [isFile] at loads
      rw [nothing]
      exact ih loads

/-- Deleting the configuration files that hold no configuration leaves the configuration of a
directory as it is exactly if a configuration can be loaded from the nearest file, or no other than
the standard one is the nearest that can be loaded. -/
theorem discover_unchanged_iff (tree : FileTree) (directory : List String) :
    discover tree.withoutInvalid directory = discover tree directory ↔
      ∀ path, nearestFile? tree directory.reverse = some path → loaded? tree path = none →
        ∀ config, nearestConfig? tree directory = some config → config = .standard := by
  rw [discover_withoutInvalid, discover_eq]
  by_cases fails : ∃ path, nearestFile? tree directory.reverse = some path ∧
      loaded? tree path = none
  · obtain ⟨path, nearest, nothing⟩ := fails
    rw [nearest, Option.bind_some, nothing]
    cases nearestConfig? tree directory with
    | none => simp
    | some config =>
      constructor
      · rintro isStandard _ _ _ _ ⟨⟩
        exact isStandard
      · intro onlyStandard
        exact onlyStandard path rfl nothing config rfl
  · have loads : ∀ path, nearestFile? tree directory.reverse = some path →
        loaded? tree path ≠ none := fun path nearest nothing => fails ⟨path, nearest, nothing⟩
    rw [nearestConfig?_eq_bind loads]
    exact iff_of_true rfl fun path nearest nothing => absurd nothing (loads path nearest)

/-- A configuration at the root of a tree and a file below it that holds none. -/
def sampleTree : FileTree where
  root := .directory [(".typyrc", .file "[errors]\nmax_errors = 7\n".toUTF8),
    ("pkg", .directory [(".typyrc.toml", .file "plugins = 3\n".toUTF8)])]

/-- The file below hides the configuration at the root, which is found once the file is deleted. -/
theorem discover_changed_by_deletion :
    discover sampleTree ["pkg"] = .standard ∧
      discover sampleTree.withoutInvalid ["pkg"] = { errors := { maxErrors := 7 } } ∧
      discover sampleTree.withoutInvalid ["pkg"] ≠ discover sampleTree ["pkg"] := by
  decide +kernel

end Config

end Callwise
