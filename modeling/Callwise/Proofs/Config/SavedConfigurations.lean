import Callwise.Config.File
import Callwise.Proofs.Toml.WrittenLines
import Callwise.Proofs.Files.WrittenFiles

/-!
# Saved configurations load unchanged

The text of a configuration consists of lines, and every line is a written line of a settings file,
whatever the strings of the configuration are. So reading the text gives a document with exactly the
fields of the configuration, and the fields give the configuration back. The number of errors is the
only setting that may have no text; then nothing is written.
-/

namespace Callwise

open Toml Toml.Reader

/-! ### Values -/

namespace ConfigText

/-- The lines of an array with one item on each line. -/
theorem toList_join_items (items : List String) :
    (String.join (items.map fun item => "    " ++ text item ++ ",\n")).toList =
      items.flatMap itemLine := by
  have line (item : String) : ("    " ++ text item ++ ",\n").toList = itemLine item := by
    simp [text, itemLine]
  rw [String.toList_join, List.flatMap_map]
  simp only [line]

/-- An array of strings is written as the array. -/
theorem written_texts (items : List String) :
    Written (texts items).toList (.array (items.map .text)) := by
  match items with
  | [] => exact ⟨⟨'[', _, rfl, by decide⟩, fun rest => value_empty 78 ('\n' :: rest)⟩
  | [item] =>
    have spelled : (texts [item]).toList = '[' :: (writeText item.toList ++ [']']) := by
      simp [texts, text]
    rw [spelled]
    refine ⟨⟨'[', _, rfl, by decide⟩, fun rest => ?_⟩
    rw [List.cons_append, List.append_assoc]
    exact value_single 78 item ('\n' :: rest)
  | first :: second :: others =>
    have spelled : (texts (first :: second :: others)).toList =
        '[' :: '\n' :: ((first :: second :: others).flatMap itemLine ++ [']']) := by
      rw [← toList_join_items]
      simp [texts]
    rw [spelled]
    refine ⟨⟨'[', _, rfl, by decide⟩, fun rest => ?_⟩
    rw [List.cons_append, List.cons_append, List.append_assoc]
    exact value_lines 78 (first :: second :: others) ('\n' :: rest)

end ConfigText

/-! ### Lines -/

namespace Config

open ConfigText

/-- The lines of a configuration, with the values that they stand for. -/
def lines (config : Config) : List Line :=
  [.field "plugins" (texts config.plugins).toList (.array (config.plugins.map .text)),
    .blank,
    .header "check",
    .field "enabled" (boolean config.check.enabled).toList (.boolean config.check.enabled),
    .field "show_revealed_types" (boolean config.check.showRevealedTypes).toList
      (.boolean config.check.showRevealedTypes),
    .blank,
    .header "errors",
    .field "max_errors" (Nat.toDigits 10 config.errors.maxErrors)
      (.integer config.errors.maxErrors),
    .field "show_suggestions" (boolean config.errors.showSuggestions).toList
      (.boolean config.errors.showSuggestions),
    .field "color" (boolean config.errors.color).toList (.boolean config.errors.color),
    .field "format" (writeText config.errors.format.name.toList) (.text config.errors.format.name),
    .blank,
    .header "paths",
    .field "include" (texts config.paths.includePatterns).toList
      (.array (config.paths.includePatterns.map .text)),
    .field "exclude" (texts config.paths.excludePatterns).toList
      (.array (config.paths.excludePatterns.map .text))]

/-- The fields that the lines of a configuration stand for. -/
def fields (config : Config) : Fields :=
  [("plugins", .array (config.plugins.map .text)),
    ("check", .table .header
      [("enabled", .boolean config.check.enabled),
        ("show_revealed_types", .boolean config.check.showRevealedTypes)]),
    ("errors", .table .header
      [("max_errors", .integer config.errors.maxErrors),
        ("show_suggestions", .boolean config.errors.showSuggestions),
        ("color", .boolean config.errors.color),
        ("format", .text config.errors.format.name)]),
    ("paths", .table .header
      [("include", .array (config.paths.includePatterns.map .text)),
        ("exclude", .array (config.paths.excludePatterns.map .text))])]

/-- A configuration whose number of errors is in range has a text, which consists of its lines. -/
theorem exists_toText {config : Config} (small : config.errors.maxErrors < Nat.pow 2 63) :
    ∃ text, config.toText = .ok text ∧ text.toList = config.lines.flatMap Line.text := by
  refine ⟨_, if_pos small, ?_⟩
  simp [lines, Line.text, field, text, Nat.repr_eq_ofList_toDigits]

/-- All lines of a configuration are written lines. -/
theorem isWritten_lines {config : Config} (small : config.errors.maxErrors < Nat.pow 2 63) :
    ∀ line ∈ config.lines, line.IsWritten := by
  simp only [lines, List.forall_mem_cons, List.not_mem_nil, false_imp_iff, implies_true, and_true,
    Line.IsWritten, true_and]
  exact ⟨⟨by decide, written_texts _⟩,
    by decide, ⟨by decide, written_boolean _⟩, ⟨by decide, written_boolean _⟩,
    by decide, ⟨by decide, written_number small⟩, ⟨by decide, written_boolean _⟩,
    ⟨by decide, written_boolean _⟩, ⟨by decide, written_text _⟩,
    by decide, ⟨by decide, written_texts _⟩, by decide, written_texts _⟩

/-- The lines make the fields, one after the other. -/
theorem foldlM_lines (config : Config) :
    config.lines.foldlM Line.change {} = some ⟨config.fields, ["paths"]⟩ := rfl

end Config

/-! ### Fields -/

/-- A field that is there has the value that is read from it. -/
theorem Toml.Fields.setting_eq_ok {α : Type} {fields : Fields} {name : String} {node : Node}
    (found : fields.lookup name = some node) {read : Node → Option α} {value : α}
    (reads : read node = some value) (standard : α) :
    fields.setting name read standard = .ok value := by
  simp only [setting, found, reads]

/-- A section that is there has the settings that are read from it. -/
theorem Toml.Fields.part_eq_ok {α : Type} {fields content : Fields} {name : String}
    (found : fields.lookup name = some (.table .header content))
    {read : Fields → Except ConfigFault α} {value : α} (reads : read content = .ok value)
    (names : List String) (standard : α) :
    fields.part name names read standard = .ok value := by
  simp only [part, found, Node.section?, reads]

/-- Strings in an array are read as the strings. -/
theorem Toml.Node.texts?_map_text (items : List String) :
    Node.texts? (.array (items.map .text)) = some items := by
  induction items with
  | nil => rfl
  | cons item items ih =>
    simp only [Node.texts?, List.map_cons, List.mapM_cons] at ih ⊢
    rw [ih]
    rfl

namespace Config

/-- The section about errors. -/
theorem ofFields_errors (settings : ErrorSettings) :
    ErrorSettings.ofFields
      [("max_errors", .integer settings.maxErrors),
        ("show_suggestions", .boolean settings.showSuggestions),
        ("color", .boolean settings.color),
        ("format", .text settings.format.name)] = .ok settings := by
  have natural : Node.natural? (.integer settings.maxErrors) = some settings.maxErrors := by
    simp [Node.natural?]
  rw [ErrorSettings.ofFields, Fields.setting_eq_ok rfl natural]
  -- the other settings are finite choices, and each choice is read as itself
  obtain ⟨maxErrors, showSuggestions, color, format⟩ := settings
  cases format <;> rfl

/-- The section about paths. -/
theorem ofFields_paths (settings : PathSettings) :
    PathSettings.ofFields
      [("include", .array (settings.includePatterns.map .text)),
        ("exclude", .array (settings.excludePatterns.map .text))] = .ok settings := by
  rw [PathSettings.ofFields, Fields.setting_eq_ok rfl (Node.texts?_map_text _),
    Fields.setting_eq_ok rfl (Node.texts?_map_text _)]
  rfl

/-- The fields of a configuration are read as the configuration. -/
theorem ofFields_fields (config : Config) : Config.ofFields config.fields = .ok config := by
  have plugins := Fields.setting_eq_ok (rfl : config.fields.lookup "plugins" = some _)
    (Node.texts?_map_text config.plugins) Config.standard.plugins
  have check := Fields.part_eq_ok (rfl : config.fields.lookup "check" = some _)
    (rfl : CheckSettings.ofFields _ = .ok config.check) ["enabled", "show_revealed_types"] {}
  have errors := Fields.part_eq_ok (rfl : config.fields.lookup "errors" = some _)
    (ofFields_errors config.errors) ["max_errors", "show_suggestions", "color", "format"] {}
  have paths := Fields.part_eq_ok (rfl : config.fields.lookup "paths" = some _)
    (ofFields_paths config.paths) ["include", "exclude"] .standard
  rw [Config.ofFields, plugins, check, errors, paths]
  rfl

/-- The text of a configuration is read as the configuration. -/
theorem ofText_of_toText {config : Config} (small : config.errors.maxErrors < Nat.pow 2 63) :
    ∃ text, config.toText = .ok text ∧ Config.ofText text = .ok config := by
  obtain ⟨text, written, spelled⟩ := exists_toText small
  have read := readFields?_of_lines (isWritten_lines small) (foldlM_lines config) spelled
  refine ⟨text, written, ?_⟩
  rw [Config.ofText, read]
  exact ofFields_fields config

/-! ### Files -/

/-- Saving a configuration that has a text writes the text. -/
theorem run_save_of_write {config : Config} {tree saved : FileTree} {path text : String}
    (hasText : config.toText = .ok text) (written : tree.write path text = .ok saved) :
    (config.save path).run tree = .ok () saved := by
  simp only [EStateM.run, save, hasText, EStateM.adaptExcept, FileTree.overwrite, written]

/-- **Saved configurations load unchanged.** A configuration whose number of errors fits into 63
bits is saved at every path at which a file can be written. The file then holds a text that is read
as the same configuration, whatever characters its strings have. A configuration with a larger
number of errors is refused before anything is written, and the file system that the attempt leaves
behind is the one before it. -/
theorem load_of_save (config : Config) (tree : FileTree) (path : String) :
    (config.errors.maxErrors ≤ Nat.pow 2 63 - 1 → (tree.write path "").isOk = true →
      ∃ saved text, (config.save path).run tree = .ok () saved ∧
        saved.readText path = .ok text ∧ Config.ofText text = .ok config ∧
        Config.load saved path = .ok config) ∧
    (Nat.pow 2 63 - 1 < config.errors.maxErrors →
      (config.save path).run tree = .error (.unwritable ⟨config.errors.maxErrors⟩) tree) := by
  have positive : 0 < Nat.pow 2 63 := by decide
  constructor
  · intro small writable
    have inRange : config.errors.maxErrors < Nat.pow 2 63 := by omega
    obtain ⟨text, hasText, read⟩ := ofText_of_toText inRange
    obtain ⟨saved, written⟩ := FileTree.exists_write_of_isOk writable text
    have holds := FileTree.readText_of_write written
    refine ⟨saved, text, run_save_of_write hasText written, holds, read, ?_⟩
    simp only [load, holds, read]
  · intro large
    have refused : config.toText = .error ⟨config.errors.maxErrors⟩ := if_neg (by omega)
    rw [save, refused]
    rfl

/-- The largest number of errors, strings that need every style of writing, and an array of each
form. -/
def awkward : Config where
  plugins := ["", "a \\ b", "it's \\", "\"\"\" and '''", "one\ntwo\x0d\x01", "\"\"\"\n'''"]
  errors := { maxErrors := Nat.pow 2 63 - 1, format := .compact }
  paths := { includePatterns := [], excludePatterns := ["\t'\"\\é\x7f"] }

theorem load_of_save_awkward :
    (awkward.errors.maxErrors ≤ Nat.pow 2 63 - 1 ∧ (FileTree.write {} "settings" "").isOk = true ∧
      ∃ saved text, (awkward.save "settings").run {} = .ok () saved ∧
        saved.readText "settings" = .ok text ∧ Config.ofText text = .ok awkward ∧
        Config.load saved "settings" = .ok awkward) ∧
    (Nat.pow 2 63 - 1 < ({ errors := { maxErrors := Nat.pow 2 63 } } : Config).errors.maxErrors ∧
      (({ errors := { maxErrors := Nat.pow 2 63 } } : Config).save "settings").run
          { root := .directory [("settings", .file "plugins = []".toUTF8)] } =
        .error (.unwritable ⟨Nat.pow 2 63⟩)
          { root := .directory [("settings", .file "plugins = []".toUTF8)] }) := by
  have small : awkward.errors.maxErrors ≤ Nat.pow 2 63 - 1 := Nat.le_refl _
  have writable : (FileTree.write {} "settings" "").isOk = true := by decide +kernel
  have large : Nat.pow 2 63 - 1 <
      ({ errors := { maxErrors := Nat.pow 2 63 } } : Config).errors.maxErrors := by decide
  exact ⟨⟨small, writable, (load_of_save awkward {} "settings").1 small writable⟩,
    large, (load_of_save _ _ "settings").2 large⟩

end Config

end Callwise
