import Callwise.Command.Options
import Mathlib

/-!
# Every command-line argument is accounted for

An argument list falls into items: switches, settings with their values, unknown options and paths.
The first item that asks for help or is faulty ends the reading. If there is none, the options are
given by the items alone: `requested` lists the paths, takes the last value of a setting, and
collects the plugins named since they were last cleared.
-/

namespace Callwise

/-- The spellings of a switch. -/
def Switch.texts : Switch → List String
  | help => ["--help", "-h"]
  | verbose => ["--verbose", "-v"]
  | noColor => ["--no-color"]
  | noParallel => ["--no-parallel"]
  | noReveal => ["--no-reveal"]
  | noPlugins => ["--no-plugins"]
  | init => ["--init"]

/-- The spelling of a setting. -/
def Setting.text : Setting → String
  | config => "--config"
  | plugin => "--plugin"
  | maxErrors => "--max-errors"
  | format => "--format"

/-- The formats by the texts that ask for them. -/
def ReportFormat.byText : List (String × ReportFormat) :=
  [("default", .default), ("json", .json), ("compact", .compact)]

/-- All spellings of options. -/
def optionTexts : List String :=
  [Switch.help, .verbose, .noColor, .noParallel, .noReveal, .noPlugins, .init].flatMap Switch.texts
    ++ [Setting.config, .plugin, .maxErrors, .format].map Setting.text

/-- The text begins with a dash. -/
def IsDashed (text : String) : Prop := text.toList.head? = some '-'

/-- The text writes the number in decimal digits, possibly behind a plus sign, and the number has 64
bits. -/
def IsWord64 (text : String) (number : Nat) : Prop :=
  ∃ digits : List Char, digits ≠ [] ∧ (∀ digit ∈ digits, digit.isDigit = true) ∧
    (text.toList = digits ∨ text.toList = '+' :: digits) ∧
    Nat.ofDigitChars 10 digits 0 = number ∧ number < 2 ^ 64

/-- The number that the digits of a text write. -/
def decimal (text : String) : Nat := Nat.ofDigitChars 10 (text.toList.filter Char.isDigit) 0

namespace Options

/-! ### Items -/

/-- What stands in a list of arguments: options with their values, and paths. -/
inductive Item where
  | switch (switch : Switch)
  | setting (setting : Setting) (value : String)
  /-- A setting that has no value because the arguments end. -/
  | bare (setting : Setting)
  | unknown (text : String)
  | path (text : String)
  deriving DecidableEq

/-- The items of an argument list from left to right. The argument behind a setting is its value,
whatever it looks like. -/
inductive Reads : List String → List Item → Prop where
  | nil : Reads [] []
  | switch {text : String} {switch : Switch} {rest : List String} {items : List Item}
      (named : text ∈ switch.texts) (behind : Reads rest items) :
      Reads (text :: rest) (.switch switch :: items)
  | setting (setting : Setting) (value : String) {rest : List String} {items : List Item}
      (behind : Reads rest items) :
      Reads (setting.text :: value :: rest) (.setting setting value :: items)
  | bare (setting : Setting) : Reads [setting.text] [.bare setting]
  | unknown {text : String} {rest : List String} {items : List Item} (dashed : IsDashed text)
      (unlisted : text ∉ optionTexts) (behind : Reads rest items) :
      Reads (text :: rest) (.unknown text :: items)
  | path {text : String} {rest : List String} {items : List Item} (undashed : ¬ IsDashed text)
      (behind : Reads rest items) : Reads (text :: rest) (.path text :: items)

namespace Item

/-- What is wrong with the item, as it is told. -/
inductive Offends : Item → String → Prop where
  | bare (setting : Setting) : Offends (.bare setting) (setting.text ++ " requires an argument")
  | maxErrors {value : String} (noNumber : ∀ number, ¬ IsWord64 value number) :
      Offends (.setting .maxErrors value) "Invalid value for --max-errors"
  | format {value : String} (noFormat : ReportFormat.byText.lookup value = none) :
      Offends (.setting .format value)
        ("Unknown format: " ++ value ++ " (expected default, json or compact)")
  | unknown (text : String) : Offends (.unknown text) ("Unknown option: " ++ text)

/-- The item ends the reading. -/
def Stops (item : Item) : Prop := item = .switch .help ∨ ∃ message, item.Offends message

/-- The text of a path. -/
def path? : Item → Option String
  | .path text => some text
  | _ => none

/-- The value that the item gives to a setting. -/
def value? (wanted : Setting) : Item → Option String
  | .setting given value => if given = wanted then some value else none
  | _ => none

end Item

/-- No item ends the reading. -/
def Unstopped (items : List Item) : Prop := ∀ item ∈ items, ¬ item.Stops

/-- The item is the first that ends the reading. -/
def StopsAt (items : List Item) (item : Item) : Prop :=
  item.Stops ∧ ∃ before after, items = before ++ item :: after ∧ Unstopped before

/-- There is something to do: a path to check, or a configuration to write. -/
def Useful (items : List Item) : Prop :=
  (∃ text, .path text ∈ items) ∨ .switch .init ∈ items

/-- The values of a setting, in their order. -/
def values (setting : Setting) (items : List Item) : List String :=
  items.filterMap (Item.value? setting)

/-- The options that the items ask for. -/
def requested (items : List Item) : Options where
  paths := items.filterMap Item.path?
  configPath := (values .config items).getLast?
  plugins :=
    if .switch .noPlugins ∈ items ∨ values .plugin items ≠ [] then
      some (values .plugin (items.rtakeWhile (· ≠ .switch .noPlugins)))
    else none
  maxErrors := (values .maxErrors items).getLast?.map decimal
  color := if .switch .noColor ∈ items then some false else none
  format := (values .format items).getLast?.bind fun value => ReportFormat.byText.lookup value
  showRevealedTypes := if .switch .noReveal ∈ items then some false else none
  parallel := .switch .noParallel ∉ items
  verbose := .switch .verbose ∈ items
  init := .switch .init ∈ items
  help := .switch .help ∈ items

end Options

/-! ### Spellings and numbers -/

/-- Options are switches and settings. -/
theorem mem_optionTexts_iff (text : String) :
    text ∈ optionTexts ↔
      (∃ switch : Switch, text ∈ switch.texts) ∨ ∃ setting : Setting, setting.text = text := by
  rw [optionTexts, List.mem_append, List.mem_flatMap, List.mem_map]
  constructor
  · rintro (⟨switch, _, named⟩ | ⟨setting, _, named⟩)
    · exact .inl ⟨switch, named⟩
    · exact .inr ⟨setting, named⟩
  · rintro (⟨switch, named⟩ | ⟨setting, named⟩)
    · exact .inl ⟨switch, by cases switch <;> decide, named⟩
    · exact .inr ⟨setting, by cases setting <;> decide, named⟩

/-- Every option begins with a dash, so a path is never taken for one. -/
theorem isDashed_of_mem_optionTexts {text : String} (listed : text ∈ optionTexts) :
    IsDashed text := by
  have all : (optionTexts.all fun text => text.toList.head? == some '-') = true := by decide
  exact eq_of_beq (List.all_eq_true.mp all text listed)

namespace ArgumentRole

/-- Each spelling of a switch is that switch. -/
theorem ofText_of_mem_texts {text : String} {switch : Switch} (named : text ∈ switch.texts) :
    ofText text = .switch switch := by
  cases switch <;>
    simp only [Switch.texts, List.mem_cons, List.not_mem_nil, or_false] at named
  case help => obtain rfl | rfl := named <;> rfl
  case verbose => obtain rfl | rfl := named <;> rfl
  all_goals exact named ▸ rfl

theorem ofText_text (setting : Setting) : ofText setting.text = .setting setting := by
  cases setting <;> rfl

/-- A text that spells no option is judged by its first character. -/
theorem ofText_of_unlisted {text : String} (unlisted : text ∉ optionTexts) :
    ofText text = if text.toList.head? == some '-' then .unknown else .path := by
  unfold ofText
  split
  case h_14 => rfl
  all_goals exact absurd (by decide) unlisted

end ArgumentRole

/-- A text is read as a number exactly if it writes one of 64 bits. -/
theorem word64?_eq_some_iff (text : String) (number : Nat) :
    word64? text = some number ↔ IsWord64 text number := by
  have read : ∀ digits : List Char,
      (if digits.isEmpty || !digits.all Char.isDigit then none
        else if Nat.ofDigitChars 10 digits 0 < 2 ^ 64 then some (Nat.ofDigitChars 10 digits 0)
        else none) = some number ↔
      digits ≠ [] ∧ (∀ digit ∈ digits, digit.isDigit = true) ∧
        Nat.ofDigitChars 10 digits 0 = number ∧ number < 2 ^ 64 := by
    intro digits
    split_ifs <;> grind
  unfold word64?
  split
  case h_1 digits signed =>
    refine (read digits).trans ⟨?_, ?_⟩
    · rintro ⟨nonempty, decimal, value⟩
      exact ⟨digits, nonempty, decimal, .inr signed, value⟩
    · rintro ⟨others, nonempty, decimal, spelled, value⟩
      rw [signed] at spelled
      obtain rfl | same := spelled
      · exact absurd (decimal '+' List.mem_cons_self) (by decide)
      · cases same
        exact ⟨nonempty, decimal, value⟩
  case h_2 digits unsigned =>
    refine (read _).trans ⟨?_, ?_⟩
    · rintro ⟨nonempty, decimal, value⟩
      exact ⟨_, nonempty, decimal, .inl rfl, value⟩
    · rintro ⟨others, nonempty, decimal, rfl | signed, value⟩
      · exact ⟨nonempty, decimal, value⟩
      · exact absurd signed (unsigned others)

/-- The number that a text writes is that of its digits; a plus sign before them does not count. -/
theorem IsWord64.decimal_eq {text : String} {number : Nat} (written : IsWord64 text number) :
    decimal text = number := by
  obtain ⟨digits, _, decimals, spelled, value, _⟩ := written
  have kept : digits.filter Char.isDigit = digits := List.filter_eq_self.mpr decimals
  obtain spelled | spelled := spelled
  · rw [decimal, spelled, kept, value]
  · rw [decimal, spelled, List.filter_cons_of_neg (by decide), kept, value]

namespace ReportFormat

/-- A text names the format that is listed for it. One that is not listed is told in the error. -/
theorem ofName_eq (text : String) :
    ofName text = (byText.lookup text).elim (.error ⟨text⟩) .ok := by
  by_cases isDefault : text = "default"
  · exact isDefault ▸ rfl
  by_cases isJson : text = "json"
  · exact isJson ▸ rfl
  by_cases isCompact : text = "compact"
  · exact isCompact ▸ rfl
  have listed : byText.lookup text = none := by
    simp [byText, isDefault, isJson, isCompact]
  simp [listed, ofName, name, Ne.symm isDefault, Ne.symm isJson, Ne.symm isCompact]

end ReportFormat

namespace Options

variable {items : List Item}

/-! ### Items one by one -/

/-- Every argument list falls into items. -/
theorem exists_reads (arguments : List String) : ∃ items, Reads arguments items := by
  -- A setting takes two arguments, so the argument before a list is considered along with it.
  suffices both : (∃ items, Reads arguments items) ∧
      ∀ text, ∃ items, Reads (text :: arguments) items from both.1
  have unlisted : ∀ {text : String} {rest : List String}, text ∉ optionTexts →
      (∃ items, Reads rest items) → ∃ items, Reads (text :: rest) items := by
    rintro text rest unlisted ⟨items, behind⟩
    by_cases dashed : IsDashed text
    · exact ⟨_, .unknown dashed unlisted behind⟩
    · exact ⟨_, .path dashed behind⟩
  induction arguments with
  | nil =>
    refine ⟨⟨[], .nil⟩, fun text => ?_⟩
    by_cases listed : text ∈ optionTexts
    · obtain ⟨switch, named⟩ | ⟨setting, rfl⟩ := (mem_optionTexts_iff text).mp listed
      · exact ⟨_, .switch named .nil⟩
      · exact ⟨_, .bare setting⟩
    · exact unlisted listed ⟨[], .nil⟩
  | cons value rest ih =>
    obtain ⟨⟨items, behind⟩, longer⟩ := ih
    refine ⟨longer value, fun text => ?_⟩
    by_cases listed : text ∈ optionTexts
    · obtain ⟨switch, named⟩ | ⟨setting, rfl⟩ := (mem_optionTexts_iff text).mp listed
      · obtain ⟨more, next⟩ := longer value
        exact ⟨_, .switch named next⟩
      · exact ⟨_, .setting setting value behind⟩
    · exact unlisted listed (longer value)

/-- One more item may add one more value. -/
theorem values_concat (setting : Setting) (items : List Item) (item : Item) :
    values setting (items ++ [item]) = values setting items ++ (item.value? setting).toList := by
  rw [values, List.filterMap_append]
  cases given : item.value? setting <;> simp [values, given]

/-- One more switch turns the options. -/
theorem requested_switch (items : List Item) (switch : Switch) :
    requested (items ++ [.switch switch]) = (requested items).turn switch := by
  cases switch <;> simp [requested, turn, values_concat, Item.value?, Item.path?]
  case noPlugins => rfl

/-- One more path comes behind the others. -/
theorem requested_path (items : List Item) (text : String) :
    requested (items ++ [.path text]) =
      { requested items with paths := (requested items).paths ++ [text] } := by
  simp [requested, values_concat, Item.value?, Item.path?]

/-- The plugins so far are those named since the plugins were last cleared. -/
theorem getD_plugins_requested (items : List Item) :
    (requested items).plugins.getD [] =
      values .plugin (items.rtakeWhile (· ≠ .switch .noPlugins)) := by
  rw [requested]
  split
  case isTrue => rfl
  case isFalse neither =>
    obtain ⟨notCleared, noPlugin⟩ := not_or.mp neither
    have whole : items.rtakeWhile (· ≠ .switch .noPlugins) = items := by
      rw [List.rtakeWhile_eq_self_iff]
      intro item member
      exact decide_eq_true (ne_of_mem_of_not_mem member notCleared)
    rw [whole]
    exact (not_not.mp noPlugin).symm

/-- One more setting is assigned its value. -/
theorem requested_setting {setting : Setting} {value : String} {next : Options}
    (assigned : (requested items).assign value setting = .ok next) :
    requested (items ++ [.setting setting value]) = next := by
  cases setting with
  | config =>
    cases assigned
    simp [requested, values_concat, Item.value?, Item.path?]
  | plugin =>
    rw [assign, getD_plugins_requested] at assigned
    cases assigned
    simp [requested, values_concat, Item.value?, Item.path?]
  | maxErrors =>
    rw [assign] at assigned
    split at assigned
    case h_1 limit read =>
      cases assigned
      have written := ((word64?_eq_some_iff value limit).mp read).decimal_eq
      simp [requested, values_concat, Item.value?, Item.path?, written]
    case h_2 => cases assigned
  | format =>
    rw [assign, ReportFormat.ofName_eq] at assigned
    cases listed : ReportFormat.byText.lookup value with
    | some format =>
      rw [listed] at assigned
      cases assigned
      simp [requested, values_concat, Item.value?, Item.path?, listed]
    | none =>
      rw [listed] at assigned
      cases assigned

/-- A value that is assigned is not faulty. -/
theorem not_stops_of_assign {options next : Options} {setting : Setting} {value : String}
    (assigned : options.assign value setting = .ok next) :
    ¬ (Item.setting setting value).Stops := by
  rintro (isHelp | ⟨message, offends⟩)
  · cases isHelp
  · cases offends with
    | maxErrors noNumber =>
      rw [assign] at assigned
      split at assigned
      case h_1 limit read => exact noNumber limit ((word64?_eq_some_iff value limit).mp read)
      case h_2 => cases assigned
    | format noFormat =>
      rw [assign, ReportFormat.ofName_eq, noFormat] at assigned
      cases assigned

/-- A value that is not assigned is faulty, and the error tells how. -/
theorem offends_of_assign {options : Options} {setting : Setting} {value : String}
    {error : UsageError} (refused : options.assign value setting = .error error) :
    (Item.setting setting value).Offends error.message := by
  cases setting with
  | config => cases refused
  | plugin => cases refused
  | maxErrors =>
    rw [assign] at refused
    split at refused
    case h_1 => cases refused
    case h_2 unread =>
      cases refused
      refine .maxErrors fun number written => ?_
      rw [(word64?_eq_some_iff value number).mpr written] at unread
      cases unread
  | format =>
    rw [assign, ReportFormat.ofName_eq] at refused
    cases listed : ReportFormat.byText.lookup value with
    | some format =>
      rw [listed] at refused
      cases refused
    | none =>
      rw [listed] at refused
      cases refused
      exact .format listed

/-! ### The reading as a whole -/

/-- Only one item is the first that ends the reading. -/
theorem stopsAt_unique {item other : Item} (first : StopsAt items item)
    (second : StopsAt items other) : item = other := by
  classical
  have found : ∀ {item}, StopsAt items item →
      items.find? (fun item => decide item.Stops) = some item := by
    rintro item ⟨stops, before, after, split, unstopped⟩
    rw [List.find?_eq_some_iff_append]
    exact ⟨decide_eq_true stops, before, after, split,
      fun other member => by simpa using unstopped other member⟩
  exact Option.some.inj ((found first).symm.trans (found second))

theorem stopsAt_append {done items : List Item} {item : Item} (unstopped : Unstopped done)
    (stops : item.Stops) : StopsAt (done ++ item :: items) item :=
  ⟨stops, done, items, rfl, unstopped⟩

theorem Unstopped.concat {done : List Item} {item : Item} (unstopped : Unstopped done)
    (unstopping : ¬ item.Stops) : Unstopped (done ++ [item]) := by
  intro other member
  obtain member | member := List.mem_append.mp member
  · exact unstopped other member
  · exact List.mem_singleton.mp member ▸ unstopping

theorem not_unstopped_of_stopsAt {item : Item} (stop : StopsAt items item) :
    ¬ Unstopped items := by
  obtain ⟨stops, before, after, rfl, _⟩ := stop
  exact fun unstopped => unstopped item (by simp) stops

/-- What can come of reading the items. -/
inductive Verdict (items : List Item) : Except UsageError Options → Prop where
  | helped {options : Options} (stop : StopsAt items (.switch .help))
      (help : options.help = true) : Verdict items (.ok options)
  | refused {item : Item} {error : UsageError} (stop : StopsAt items item)
      (offends : item.Offends error.message) : Verdict items (.error error)
  | pathless (unstopped : Unstopped items) (useless : ¬ Useful items) :
      Verdict items (.error .noPaths)
  | granted (unstopped : Unstopped items) (useful : Useful items) :
      Verdict items (.ok (requested items))

/-- At the end of the arguments, something has to be there to do. -/
theorem verdict_nil (unstopped : Unstopped items) :
    Verdict items ((requested items).scan []) := by
  have paths : (requested items).paths = [] ↔ ¬ ∃ text, .path text ∈ items := by
    rw [requested, List.filterMap_eq_nil_iff]
    constructor
    · rintro none ⟨text, member⟩
      cases none _ member
    · intro none item member
      cases item with
      | path text => exact absurd ⟨text, member⟩ none
      | _ => rfl
  have idle : ((requested items).paths.isEmpty && !(requested items).init) = true ↔
      ¬ Useful items := by
    rw [Useful, not_or, ← paths, Bool.and_eq_true, List.isEmpty_iff]
    simp [requested]
  rw [scan]
  split
  case isTrue useless => exact .pathless unstopped (idle.mp useless)
  case isFalse useful => exact .granted unstopped (not_not.mp (mt idle.mpr useful))

/-- Reading on from what the items so far ask for. -/
theorem scan_verdict {rest : List String} (reads : Reads rest items) (done : List Item)
    (unstopped : Unstopped done) :
    Verdict (done ++ items) ((requested done).scan rest) := by
  induction reads generalizing done with
  | nil => rw [List.append_nil]; exact verdict_nil unstopped
  | @switch text switch rest items named behind ih =>
    by_cases isHelp : switch = .help
    · subst isHelp
      rw [scan, ArgumentRole.ofText_of_mem_texts named]
      exact .helped (stopsAt_append unstopped (.inl rfl)) rfl
    · have turned : (requested done).scan (text :: rest) =
          ((requested done).turn switch).scan rest := by
        rw [scan, ArgumentRole.ofText_of_mem_texts named]
        cases switch
        case help => exact absurd rfl isHelp
        all_goals rfl
      have unstopping : ¬ (Item.switch switch).Stops := by
        rintro (same | ⟨message, ⟨⟩⟩)
        exact isHelp (Item.switch.inj same)
      rw [turned, ← requested_switch, List.append_cons]
      exact ih _ (unstopped.concat unstopping)
  | @setting setting value rest items behind ih =>
    rw [scan, ArgumentRole.ofText_text]
    cases assigned : (requested done).assign value setting with
    | ok next =>
      have taken := ih _ (unstopped.concat (not_stops_of_assign assigned))
      rw [requested_setting assigned, ← List.append_cons] at taken
      simpa only [assigned] using taken
    | error error =>
      have offends := offends_of_assign assigned
      simpa only [assigned] using .refused (stopsAt_append unstopped (.inr ⟨_, offends⟩)) offends
  | bare setting =>
    rw [scan, ArgumentRole.ofText_text]
    exact .refused (stopsAt_append unstopped (.inr ⟨_, .bare setting⟩)) (.bare setting)
  | @unknown text rest items dashed unlisted behind ih =>
    rw [scan, ArgumentRole.ofText_of_unlisted unlisted, if_pos (beq_iff_eq.mpr dashed)]
    exact .refused (stopsAt_append unstopped (.inr ⟨_, .unknown text⟩)) (.unknown text)
  | @path text rest items undashed behind ih =>
    have unlisted : text ∉ optionTexts := mt isDashed_of_mem_optionTexts undashed
    have unstopping : ¬ (Item.path text).Stops := by
      rintro (same | ⟨message, ⟨⟩⟩)
      cases same
    rw [scan, ArgumentRole.ofText_of_unlisted unlisted, if_neg (mt beq_iff_eq.mp undashed)]
    have taken := ih _ (unstopped.concat unstopping)
    rw [requested_path, ← List.append_cons] at taken
    exact taken

/-- A faulty item is faulty in one way. -/
theorem offends_unique {item : Item} {message other : String} (first : item.Offends message)
    (second : item.Offends other) : message = other := by
  cases first <;> cases second <;> rfl

namespace Verdict

variable {items : List Item} {result : Except UsageError Options}

/-- Help is shown exactly if the first item that ends the reading asks for it. -/
theorem help_iff (verdict : Verdict items result) :
    (∃ options, result = .ok options ∧ options.help = true) ↔
      StopsAt items (.switch .help) := by
  constructor
  · rintro ⟨options, rfl, help⟩
    cases verdict with
    | helped stop => exact stop
    | granted unstopped => exact absurd (.inl rfl) (unstopped _ (of_decide_eq_true help))
  · intro stop
    cases verdict with
    | helped _ help => exact ⟨_, rfl, help⟩
    | refused other offends =>
      cases stopsAt_unique stop other
      cases offends
    | pathless unstopped => exact absurd unstopped (not_unstopped_of_stopsAt stop)
    | granted unstopped => exact absurd unstopped (not_unstopped_of_stopsAt stop)

/-- The error tells what is wrong with the first item that ends the reading, or that there is
nothing to do. -/
theorem error_iff (verdict : Verdict items result) (message : String) :
    (∃ error, result = .error error ∧ error.message = message) ↔
      (∃ item, StopsAt items item ∧ item.Offends message) ∨
      Unstopped items ∧ ¬ Useful items ∧ message = "No paths specified" := by
  constructor
  · rintro ⟨error, rfl, rfl⟩
    cases verdict with
    | refused stop offends => exact .inl ⟨_, stop, offends⟩
    | pathless unstopped useless => exact .inr ⟨unstopped, useless, rfl⟩
  · rintro (⟨item, stop, offends⟩ | ⟨unstopped, useless, rfl⟩)
    · cases verdict with
      | helped other =>
        cases stopsAt_unique stop other
        cases offends
      | refused other told =>
        cases stopsAt_unique stop other
        exact ⟨_, rfl, offends_unique told offends⟩
      | pathless unstopped => exact absurd unstopped (not_unstopped_of_stopsAt stop)
      | granted unstopped => exact absurd unstopped (not_unstopped_of_stopsAt stop)
    · cases verdict with
      | helped stop => exact absurd unstopped (not_unstopped_of_stopsAt stop)
      | refused stop => exact absurd unstopped (not_unstopped_of_stopsAt stop)
      | pathless => exact ⟨_, rfl, rfl⟩
      | granted _ useful => exact absurd useful useless

theorem eq_requested (verdict : Verdict items result) (unstopped : Unstopped items)
    (useful : Useful items) : result = .ok (requested items) := by
  cases verdict with
  | helped stop => exact absurd unstopped (not_unstopped_of_stopsAt stop)
  | refused stop => exact absurd unstopped (not_unstopped_of_stopsAt stop)
  | pathless _ useless => exact absurd useful useless
  | granted => rfl

end Verdict

/-- Every argument list falls into items. Help is shown exactly if the first item that ends the
reading asks for it. The arguments are refused exactly if that item is faulty, with what is wrong
with it, or if no item ends the reading and there is nothing to do. Otherwise the options are those
that the items ask for. -/
theorem arguments_accounted (arguments : List String) :
    (∃ items, Reads arguments items) ∧ ∀ items, Reads arguments items →
      ((∃ options, ofArguments arguments = .ok options ∧ options.help = true) ↔
        StopsAt items (.switch .help)) ∧
      (∀ message, (∃ error, ofArguments arguments = .error error ∧ error.message = message) ↔
        (∃ item, StopsAt items item ∧ item.Offends message) ∨
        Unstopped items ∧ ¬ Useful items ∧ message = "No paths specified") ∧
      (Unstopped items → Useful items → ofArguments arguments = .ok (requested items)) := by
  refine ⟨exists_reads arguments, fun items reads => ?_⟩
  have verdict : Verdict items (ofArguments arguments) :=
    scan_verdict reads [] fun item member => by cases member
  exact ⟨verdict.help_iff, verdict.error_iff, verdict.eq_requested⟩

/-- A value may look like an option, plugins may be cleared, and of numbers and formats the last
counts. -/
theorem arguments_accounted_of_cleared :
    let arguments := ["--plugin", "--help", "--max-errors", "5", "--format", "json", "--no-plugins",
      "a.py", "--plugin", "returns", "-v", "--max-errors", "+7", "--format", "compact"]
    let items : List Item := [.setting .plugin "--help", .setting .maxErrors "5",
      .setting .format "json", .switch .noPlugins, .path "a.py", .setting .plugin "returns",
      .switch .verbose, .setting .maxErrors "+7", .setting .format "compact"]
    Reads arguments items ∧ Unstopped items ∧ Useful items ∧
      ofArguments arguments = .ok
        { paths := ["a.py"], plugins := some ["returns"], maxErrors := some 7,
          format := some .compact, verbose := true } := by
  intro arguments items
  have reads : Reads arguments items :=
    .setting .plugin "--help" <| .setting .maxErrors "5" <| .setting .format "json" <|
      .switch (by decide) <| .path (by unfold IsDashed; decide) <| .setting .plugin "returns" <|
        .switch (by decide) <| .setting .maxErrors "+7" <| .setting .format "compact" .nil
  have unstopped : Unstopped items := by
    rintro item member (rfl | ⟨message, offends⟩)
    · exact absurd member (by decide)
    · cases offends with
      | maxErrors noNumber =>
        obtain rfl | rfl : _ = "5" ∨ _ = "+7" := by simpa [items] using member
        · exact noNumber 5 ⟨['5'], by simp, List.forall_mem_singleton.mpr rfl, .inl rfl, by decide⟩
        · exact noNumber 7 ⟨['7'], by simp, List.forall_mem_singleton.mpr rfl, .inr rfl, by decide⟩
      | format noFormat =>
        obtain rfl | rfl : _ = "json" ∨ _ = "compact" := by simpa [items] using member
        all_goals cases noFormat
      | _ => simp [items] at member
  have useful : Useful items := .inl ⟨"a.py", by decide⟩
  have given := ((arguments_accounted arguments).2 items reads).2.2 unstopped useful
  exact ⟨reads, unstopped, useful, given.trans (by decide)⟩

end Options

end Callwise
