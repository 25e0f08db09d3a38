import Callwise.Proofs.Files.WrittenFiles

/-!
# Spellings of a path

Spellings with the same parts name the same file or directory, if both of them name anything: a dot
or a slash at the end asks for a directory, but it does not lead anywhere else. Of the spellings of
a path one stays when paths are put in order.
-/

namespace Callwise

/-- The segment that a part behind the start of a path is written as. -/
def PathPart.segment? : PathPart → Option String
  | root | here => none
  | up => some ".."
  | name text => some text

namespace Path

/-- The pieces of a path are those before a slash and those behind it. -/
theorem splitOn_slash (before after : List Char) :
    (before ++ '/' :: after).splitOn '/' = before.splitOn '/' ++ after.splitOn '/' :=
  List.splitOnP_append_cons before after (beq_self_eq_true '/')

/-- A name behind the last slash is the last segment. -/
theorem exists_segments_of_slash {path name : String} {before : List Char}
    (spelled : path.toList = before ++ '/' :: name.toList) (noSlash : '/' ∉ name.toList)
    (nonempty : name.isEmpty = false) : ∃ front, segments path = front ++ [name] := by
  rw [segments, pieces, spelled, splitOn_slash, List.splitOn_eq_singleton noSlash, List.map_append,
    List.filter_append]
  simp [nonempty]

/-- A segment that stands for a part is how the part is written. -/
theorem segment_of_part {segment : String} {part : PathPart} (stands : part? segment = some part) :
    segment ≠ "." ∧ part.segment? = some segment ∧ part ≠ .root := by
  unfold part? at stands
  split at stands
  · cases stands
  · rename_i noDot
    have other : segment ≠ "." := by simpa using noDot
    split at stands
    · rename_i dots
      obtain rfl : PathPart.up = part := by simpa using stands
      have written : segment = ".." := by simpa using dots
      exact ⟨other, congrArg some written.symm, by simp⟩
    · obtain rfl : PathPart.name segment = part := by simpa using stands
      exact ⟨other, rfl, by simp⟩

/-- The segments other than dots can be read off the parts they stand for. -/
theorem filterMap_part (items : List String) :
    (items.filterMap part?).filterMap PathPart.segment? = items.filter (· != ".") := by
  induction items with
  | nil => rfl
  | cons segment rest ih =>
    cases stands : part? segment with
    | none =>
      have dot : segment = "." := by
        unfold part? at stands
        by_cases dot : segment = "."
        · exact dot
        · by_cases dots : segment = ".." <;> simp [dot, dots] at stands
      rw [List.filterMap_cons_none stands, ih]
      simp [dot]
    | some part =>
      obtain ⟨noDot, written, _⟩ := segment_of_part stands
      simp [stands, written, noDot, ih]

/-- The segments other than dots can be read off the parts of a path. -/
theorem filterMap_parts (path : String) :
    (parts path).filterMap PathPart.segment? = (segments path).filter (· != ".") := by
  have behind := filterMap_part (segments path)
  unfold parts
  simp only
  split
  · exact behind
  · split
    · exact behind
    · exact behind

/-- Whether a path starts at the root can be read off its parts. -/
theorem head_parts (path : String) : (parts path).head? = some .root ↔ isAbsolute path = true := by
  unfold parts
  simp only
  split
  · rename_i absolute
    simp [absolute]
  · rename_i relative
    split
    · simp [relative]
    · constructor
      · intro starts
        have within := List.mem_of_mem_head? starts
        obtain ⟨segment, _, stands⟩ := List.mem_filterMap.mp within
        exact absurd rfl (segment_of_part stands).2.2
      · intro absolute
        exact absurd absolute relative

/-- A path in front of others, in the place of the first of these if that is another spelling. -/
def prepend (path : String) : List String → List String
  | next :: others => if parts path == parts next then path :: others else path :: next :: others
  | [] => [path]

/-- Paths are put in order by sorting them and passing over further spellings. -/
theorem sorted_eq (paths : List String) :
    sorted paths =
      (paths.mergeSort fun first second => !precedes second first).foldr prepend [] := by
  unfold sorted
  simp only
  congr 1
  funext path rest
  cases rest <;> rfl

/-- Nothing comes in but the path in front. -/
theorem eq_or_mem_of_mem_prepend {path item : String} {rest : List String}
    (within : item ∈ prepend path rest) : item = path ∨ item ∈ rest := by
  cases rest with
  | nil => exact .inl (List.mem_singleton.mp within)
  | cons next others =>
    simp only [prepend] at within
    split at within
    · rcases List.mem_cons.mp within with first | later
      · exact .inl first
      · exact .inr (List.mem_cons_of_mem next later)
    · exact List.mem_cons.mp within

/-- The path that is passed over has another spelling in front. -/
theorem exists_mem_prepend {path item : String} {rest : List String}
    (within : item ∈ path :: rest) :
    ∃ spelling ∈ prepend path rest, parts spelling = parts item := by
  cases rest with
  | nil => exact ⟨item, within, rfl⟩
  | cons next others =>
    simp only [prepend]
    split
    · rename_i same
      rcases List.mem_cons.mp within with rfl | behind
      · exact ⟨item, List.mem_cons_self, rfl⟩
      · rcases List.mem_cons.mp behind with rfl | later
        · exact ⟨path, List.mem_cons_self, by simpa using same⟩
        · exact ⟨item, List.mem_cons_of_mem path later, rfl⟩
    · exact ⟨item, within, rfl⟩

/-- Paths that are put in order are among the given ones. -/
theorem mem_of_mem_sorted {paths : List String} {path : String} (within : path ∈ sorted paths) :
    path ∈ paths := by
  have among : ∀ ordered : List String, path ∈ ordered.foldr prepend [] → path ∈ ordered := by
    intro ordered
    induction ordered with
    | nil => exact id
    | cons first rest ih =>
      intro within
      rcases eq_or_mem_of_mem_prepend within with rfl | later
      · exact List.mem_cons_self
      · exact List.mem_cons_of_mem first (ih later)
  rw [sorted_eq] at within
  exact List.mem_mergeSort.mp (among _ within)

/-- Of each path one spelling stays when paths are put in order. -/
theorem exists_mem_sorted {paths : List String} {path : String} (within : path ∈ paths) :
    ∃ spelling ∈ sorted paths, parts spelling = parts path := by
  have stays : ∀ ordered : List String, path ∈ ordered →
      ∃ spelling ∈ ordered.foldr prepend [], parts spelling = parts path := by
    intro ordered
    induction ordered with
    | nil => simp
    | cons first rest ih =>
      intro within
      rcases List.mem_cons.mp within with rfl | behind
      · exact exists_mem_prepend List.mem_cons_self
      · obtain ⟨between, later, same⟩ := ih behind
        obtain ⟨spelling, kept, alike⟩ := exists_mem_prepend (List.mem_cons_of_mem first later)
        exact ⟨spelling, kept, alike.trans same⟩
  rw [sorted_eq]
  exact stays _ (List.mem_mergeSort.mpr within)

end Path

namespace FileTree

/-- A path may be followed without its dots. -/
theorem follow_filter (tree : FileTree) {items place reached : List String}
    (followed : tree.follow items place = .ok reached) :
    tree.follow (items.filter (· != ".")) place = .ok reached := by
  induction items generalizing place with
  | nil => exact followed
  | cons segment rest ih =>
    obtain ⟨next, leads, following⟩ := follow_cons_iff.mp followed
    have later := ih following
    by_cases dot : segment = "."
    · obtain ⟨entries, _, ways⟩ := leads
      have stays : next = place := by
        rcases ways with ⟨_, same⟩ | ⟨up, _⟩ | ⟨other, _⟩
        · exact same
        · simp [dot] at up
        · exact absurd dot other
      rw [stays] at later
      simpa [dot] using later
    · have kept : (segment :: rest).filter (· != ".") = segment :: rest.filter (· != ".") := by
        simp [dot]
      rw [kept]
      exact follow_cons_iff.mpr ⟨next, leads, later⟩

/-- What a path names is at the place to which its segments lead. -/
theorem follow_of_find {tree : FileTree} {path : String} {node : FileNode}
    (found : tree.find path = .ok node) :
    ∃ place, tree.follow (Path.segments path) (tree.startOf path) = .ok place ∧
      tree.root.descend? place.reverse = some node := by
  cases followed : tree.follow (Path.segments path) (tree.startOf path) with
  | error error =>
    simp only [find, followed] at found
    split at found <;> cases found
  | ok place =>
    refine ⟨place, rfl, ?_⟩
    simp only [find, followed, bind, Except.bind] at found
    split at found
    · cases found
    · cases here : tree.root.descend? place.reverse with
      | none =>
        rw [here] at found
        cases found
      | some other =>
        simp only [here] at found
        split at found
        · cases found
        · exact congrArg some (Except.ok.inj found)

/-- Two spellings of a path name the same, if both name something. -/
theorem find_eq_of_parts_eq {tree : FileTree} {first second : String}
    (same : Path.parts first = Path.parts second) {node other : FileNode}
    (found : tree.find first = .ok node) (otherFound : tree.find second = .ok other) :
    node = other := by
  have segments : (Path.segments first).filter (· != ".") =
      (Path.segments second).filter (· != ".") := by
    rw [← Path.filterMap_parts, ← Path.filterMap_parts, same]
  have start : tree.startOf first = tree.startOf second := by
    have absolute := (Path.head_parts first).symm.trans (same ▸ Path.head_parts second)
    unfold startOf
    simp only [absolute]
  obtain ⟨place, followed, here⟩ := follow_of_find found
  obtain ⟨otherPlace, otherFollowed, there⟩ := follow_of_find otherFound
  have reached := tree.follow_filter followed
  have otherReached := tree.follow_filter otherFollowed
  rw [segments, start, otherReached] at reached
  obtain rfl : otherPlace = place := by simpa using reached
  exact Option.some.inj (here.symm.trans there)

/-- A path that names a file names something. -/
theorem exists_find_of_isFile {tree : FileTree} {path : String}
    (isFile : tree.isFile path = true) : ∃ node, tree.find path = .ok node := by
  unfold FileTree.isFile at isFile
  split at isFile
  · rename_i node found
    exact ⟨node, found⟩
  · cases isFile

/-- Two spellings of a file have the same text. -/
theorem readText_eq_of_parts_eq {tree : FileTree} {first second : String}
    (same : Path.parts first = Path.parts second) (isFile : tree.isFile first = true)
    (otherIsFile : tree.isFile second = true) : tree.readText first = tree.readText second := by
  obtain ⟨node, found⟩ := exists_find_of_isFile isFile
  obtain ⟨other, otherFound⟩ := exists_find_of_isFile otherIsFile
  obtain rfl := find_eq_of_parts_eq same found otherFound
  unfold readText
  rw [found, otherFound]

end FileTree

end Callwise
