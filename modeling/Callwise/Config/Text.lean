import Callwise.Config.Basic
import Callwise.Toml.Reader

/-!
# Configurations as text

A configuration is kept in a settings file with the list `plugins` and the sections `check`,
`errors` and `paths`. A field that is missing has its standard value, except that a section `paths`
without a list of patterns has none. Fields with other names are ignored. Whole numbers in a
settings file end at `2 ^ 63 - 1`, so a configuration that allows more errors cannot be written.
-/

namespace Callwise

/-- Why a text is not a configuration. -/
inductive ConfigFault where
  | malformed
  | wrongValue (field : String)
  deriving DecidableEq, Repr, Inhabited

/-- The text of the fault. -/
def ConfigFault.message : ConfigFault → String
  | malformed => "Failed to parse config: not a settings file"
  | wrongValue field => "Failed to parse config: invalid value for `" ++ field ++ "`"

/-- A configuration that cannot be written: the number of errors is out of range. -/
structure UnwritableConfig where
  maxErrors : Nat
  deriving DecidableEq, Repr, Inhabited

/-- The text of the error. -/
def UnwritableConfig.message (_error : UnwritableConfig) : String :=
  "Failed to serialize config: out-of-range value for u64 type"

/-! ### Reading -/

namespace Toml

/-- A truth value. -/
def Node.boolean? : Node → Option Bool
  | .boolean value => some value
  | _ => none

/-- A whole number that is not negative. -/
def Node.natural? : Node → Option Nat
  | .integer value => if 0 ≤ value then some value.toNat else none
  | _ => none

/-- A string. -/
def Node.text? : Node → Option String
  | .text value => some value
  | _ => none

/-- An array of strings. -/
def Node.texts? : Node → Option (List String)
  | .array items => items.mapM Node.text?
  | _ => none

/-- A table or an array that holds nothing. -/
def Node.isHollow : Node → Bool
  | .inline [] | .table _ [] | .array [] => true
  | _ => false

/-- The name of a choice: a string, or a table with one field of this name that holds nothing. -/
def Node.choice? : Node → Option String
  | .text name => some name
  | .inline [(name, content)] | .table _ [(name, content)] =>
    if content.isHollow then some name else none
  | _ => none

/-- The fields of a section: a table, or an array of values in the order of the names. A point in
time counts as a table in which none of the names is a field. -/
def Node.section? (names : List String) : Node → Option Fields
  | .inline fields | .table _ fields => some fields
  | .array items => some (names.zip items)
  | .moment => some []
  | _ => none

/-- The value of a field, or the standard value if the field is missing. -/
def Fields.setting {α : Type} (fields : Fields) (name : String) (read : Node → Option α)
    (standard : α) : Except ConfigFault α :=
  match fields.lookup name with
  | none => .ok standard
  | some node =>
    match read node with
    | some value => .ok value
    | none => .error (.wrongValue name)

/-- The settings of a section, or the standard ones if the section is missing. -/
def Fields.part {α : Type} (fields : Fields) (name : String) (names : List String)
    (read : Fields → Except ConfigFault α) (standard : α) : Except ConfigFault α :=
  match fields.lookup name with
  | none => .ok standard
  | some node =>
    match node.section? names with
    | some content => read content
    | none => .error (.wrongValue name)

end Toml

open Toml

/-- The settings of the section `check`. -/
def CheckSettings.ofFields (fields : Fields) : Except ConfigFault CheckSettings := do
  let enabled ← fields.setting "enabled" Node.boolean? true
  let showRevealedTypes ← fields.setting "show_revealed_types" Node.boolean? true
  return { enabled, showRevealedTypes }

/-- The settings of the section `errors`. -/
def ErrorSettings.ofFields (fields : Fields) : Except ConfigFault ErrorSettings := do
  let formatOf := fun (node : Node) => do (ReportFormat.ofName (← node.choice?)).toOption
  let maxErrors ← fields.setting "max_errors" Node.natural? 100
  let showSuggestions ← fields.setting "show_suggestions" Node.boolean? true
  let color ← fields.setting "color" Node.boolean? true
  let format ← fields.setting "format" formatOf .default
  return { maxErrors, showSuggestions, color, format }

/-- The settings of the section `paths`. -/
def PathSettings.ofFields (fields : Fields) : Except ConfigFault PathSettings := do
  let includePatterns ← fields.setting "include" Node.texts? []
  let excludePatterns ← fields.setting "exclude" Node.texts? []
  return { includePatterns, excludePatterns }

/-- The configuration with these fields. -/
def Config.ofFields (fields : Fields) : Except ConfigFault Config := do
  let plugins ← fields.setting "plugins" Node.texts? Config.standard.plugins
  let check ← fields.part "check" ["enabled", "show_revealed_types"] CheckSettings.ofFields {}
  let errors ← fields.part "errors" ["max_errors", "show_suggestions", "color", "format"]
    ErrorSettings.ofFields {}
  let paths ← fields.part "paths" ["include", "exclude"] PathSettings.ofFields .standard
  return { plugins, check, errors, paths }

/-- The configuration that a text holds. -/
def Config.ofText (text : String) : Except ConfigFault Config :=
  match readFields? text with
  | some fields => Config.ofFields fields
  | none => .error .malformed

/-! ### Writing -/

namespace ConfigText

/-- A line with a field. -/
def field (name value : String) : String := name ++ " = " ++ value ++ "\n"

/-- A truth value. -/
def boolean (value : Bool) : String := if value then "true" else "false"

/-- A string. -/
def text (value : String) : String := String.ofList (writeText value.toList)

/-- An array of strings: up to one item on one line, more with one item on each line. -/
def texts : List String → String
  | [] => "[]"
  | [item] => "[" ++ text item ++ "]"
  | items => "[\n" ++ String.join (items.map fun item => "    " ++ text item ++ ",\n") ++ "]"

end ConfigText

open ConfigText in
/-- The text of a configuration. -/
def Config.toText (config : Config) : Except UnwritableConfig String :=
  if config.errors.maxErrors < Nat.pow 2 63 then
    .ok <| field "plugins" (texts config.plugins)
      ++ "\n[check]\n"
      ++ field "enabled" (boolean config.check.enabled)
      ++ field "show_revealed_types" (boolean config.check.showRevealedTypes)
      ++ "\n[errors]\n"
      ++ field "max_errors" (Nat.repr config.errors.maxErrors)
      ++ field "show_suggestions" (boolean config.errors.showSuggestions)
      ++ field "color" (boolean config.errors.color)
      ++ field "format" (text config.errors.format.name)
      ++ "\n[paths]\n"
      ++ field "include" (texts config.paths.includePatterns)
      ++ field "exclude" (texts config.paths.excludePatterns)
  else .error ⟨config.errors.maxErrors⟩

/-- The text of the standard configuration. -/
def Config.standardText : String :=
  Config.standard.toText.toOption.getD "# Failed to generate config"

end Callwise
