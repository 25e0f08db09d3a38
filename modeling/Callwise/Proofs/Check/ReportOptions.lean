import Callwise.Check.Report
import Callwise.Proofs.Check.StatementWalk

/-!
# Options of reports are filters

A configuration can hide notes, limit the number of errors and hide suggestions. None of this has an
influence on how a file is checked: what is reported is what a run with all options open reports,
filtered.

The two runs go through the same states except for what has been collected. Along the way the
collected diagnostics of one run are a selection from those of the other, and a step adds to both or
to neither as the selection demands.
-/

namespace Callwise

variable {diagnostic : Diagnostic}

/-! ### Selected diagnostics -/

/-- The diagnostics that are left if notes are kept only on demand and errors only up to a limit. -/
def Diagnostic.select (notes : Bool) : (limit : Nat) → List Diagnostic → List Diagnostic
  | _, [] => []
  | limit, first :: rest =>
    if first.isError then
      match limit with
      | 0 => select notes 0 rest
      | limit + 1 => first :: select notes limit rest
    else if notes then first :: select notes limit rest
    else select notes limit rest

/-- The diagnostics that the options leave: selected ones, with their suggestions only on demand. -/
def Diagnostic.shown (limit : Nat) (notes suggestions : Bool) (diagnostics : List Diagnostic) :
    List Diagnostic :=
  let selected := Diagnostic.select notes limit diagnostics
  if suggestions then selected
  else selected.map fun diagnostic => { diagnostic with suggestions := [] }

/-- The configuration with other options for reports. -/
def Config.withOptions (config : Config) (limit : Nat) (notes suggestions : Bool) : Config :=
  { config with
    check := { config.check with showRevealedTypes := notes }
    errors := { config.errors with maxErrors := limit, showSuggestions := suggestions } }

namespace Diagnostic

/-- A note at the front is selected on demand. -/
theorem select_cons_note (notes : Bool) (limit : Nat) {first : Diagnostic}
    (isNote : first.isError = false) (rest : List Diagnostic) :
    select notes limit (first :: rest) =
      (if notes then [first] else []) ++ select notes limit rest := by
  cases notes <;> simp [select, isNote]

/-- One more error is selected if fewer errors than the limit came before it. -/
theorem select_append_error (notes : Bool) (limit : Nat) (diagnostics : List Diagnostic)
    (isError : diagnostic.isError = true) :
    select notes limit (diagnostics ++ [diagnostic]) =
      select notes limit diagnostics ++
        if diagnostics.countP Diagnostic.isError < limit then [diagnostic] else [] := by
  induction diagnostics generalizing limit with
  | nil => cases limit <;> simp [select, isError]
  | cons first rest ih =>
    cases fault : first.isError with
    | true => cases limit <;> simp [select, fault, ih]
    | false =>
      have unchanged : (first :: rest).countP Diagnostic.isError =
          rest.countP Diagnostic.isError := List.countP_cons_of_neg (by simp [fault])
      rw [List.cons_append, select_cons_note notes limit fault, select_cons_note notes limit fault,
        ih, unchanged, List.append_assoc]

/-- One more note is selected on demand. -/
theorem select_append_note (notes : Bool) (limit : Nat) (diagnostics : List Diagnostic)
    (isNote : diagnostic.isError = false) :
    select notes limit (diagnostics ++ [diagnostic]) =
      select notes limit diagnostics ++ if notes then [diagnostic] else [] := by
  induction diagnostics generalizing limit with
  | nil => simp [select_cons_note notes limit isNote, select]
  | cons first rest ih =>
    cases fault : first.isError with
    | true => cases limit <;> simp [select, fault, ih]
    | false =>
      rw [List.cons_append, select_cons_note notes limit fault, select_cons_note notes limit fault,
        ih, List.append_assoc]

/-- The number of selected errors. -/
theorem countP_select (notes : Bool) (limit : Nat) (diagnostics : List Diagnostic) :
    (select notes limit diagnostics).countP Diagnostic.isError =
      min limit (diagnostics.countP Diagnostic.isError) := by
  induction diagnostics generalizing limit with
  | nil => simp [select]
  | cons first rest ih =>
    cases fault : first.isError with
    | true =>
      cases limit with
      | zero => simp [select, fault, ih]
      | succ limit => simp [select, fault, ih, Nat.add_min_add_right]
    | false => cases notes <;> simp [select, fault, ih]

end Diagnostic

/-- The collector of a run with options, given that of the run without. -/
def Collector.select (collector : Collector) (notes : Bool) (limit : Nat) : Collector where
  kept := Diagnostic.select notes limit collector.kept
  limit := limit

namespace Collector

/-- Keeping an error and selecting. If the collector is full, so is the selection. -/
theorem select_add_error {collector : Collector} {limit : Nat} (room : limit ≤ collector.limit)
    (notes : Bool) (isError : diagnostic.isError = true) :
    (collector.add diagnostic).select notes limit =
      (collector.select notes limit).add diagnostic := by
  have count := Diagnostic.countP_select notes limit collector.kept
  unfold add select errorCount
  simp only [isError, Bool.not_true, Bool.false_or, decide_eq_true_eq, count]
  by_cases few : collector.kept.countP Diagnostic.isError < limit
  · have fits : collector.kept.countP Diagnostic.isError < collector.limit := by omega
    have below : min limit (collector.kept.countP Diagnostic.isError) < limit := by omega
    simp [fits, below, few, Diagnostic.select_append_error notes limit _ isError]
  · have full : ¬ min limit (collector.kept.countP Diagnostic.isError) < limit := by omega
    rw [if_neg full]
    split
    · simp [few, Diagnostic.select_append_error notes limit _ isError]
    · rfl

/-- The limit stays as it is. -/
theorem limit_add (collector : Collector) (diagnostic : Diagnostic) :
    (collector.add diagnostic).limit = collector.limit := by
  unfold add
  split <;> rfl

/-- Keeping a note and selecting. -/
theorem select_add_note (collector : Collector) (notes : Bool) (limit : Nat)
    (isNote : diagnostic.isError = false) :
    (collector.add diagnostic).select notes limit =
      if notes then (collector.select notes limit).add diagnostic
      else collector.select notes limit := by
  cases notes <;>
    simp [add, select, isNote, Diagnostic.select_append_note _ limit _ isNote]

end Collector

/-! ### The two runs -/

/-- The state with another collector and another wish for notes. -/
def Checker.reporting (checker : Checker) (collector : Collector) (showRevealed : Bool) : Checker :=
  { checker with collector, showRevealed }

/-- The state of a run with options, given that of the run without. -/
def Checker.select (checker : Checker) (notes : Bool) (limit : Nat) : Checker :=
  checker.reporting (checker.collector.select notes limit) notes

/-- The second state is that of a run with options, and the first that of a run which keeps all
notes and at least as many errors. -/
structure Checker.Mirrors (notes : Bool) (limit : Nat) (full other : Checker) : Prop where
  selected : other = full.select notes limit
  shown : full.showRevealed = true
  room : limit ≤ full.collector.limit

/-- A diagnostic as it is kept, with the checked file if it names none. -/
def Checker.place (checker : Checker) (diagnostic : Diagnostic) : Diagnostic :=
  if diagnostic.file.isEmpty then { diagnostic with file := checker.file } else diagnostic

/-- Where a diagnostic is placed does not change its severity. -/
theorem Checker.isError_place (checker : Checker) (diagnostic : Diagnostic) :
    (checker.place diagnostic).isError = diagnostic.isError := by
  unfold Checker.place
  split <;> rfl

namespace Checker.Mirrors

variable {notes : Bool} {limit : Nat} {full other : Checker}

/-- Reporting an error on both sides. -/
theorem report (mirrors : Mirrors notes limit full other) (isError : diagnostic.isError = true) :
    Mirrors notes limit (full.report diagnostic) (other.report diagnostic) := by
  obtain ⟨rfl, shown, room⟩ := mirrors
  have placed : (full.place diagnostic).isError = true := by rw [isError_place, isError]
  refine ⟨?_, shown, ?_⟩
  · have collected := Collector.select_add_error room notes placed
    show full.reporting ((full.collector.select notes limit).add (full.place diagnostic)) notes = _
    rw [← collected]
    rfl
  · show limit ≤ (full.collector.add (full.place diagnostic)).limit
    rw [Collector.limit_add]
    exact room

/-- A note is kept on one side, and on the other side on demand. -/
theorem note (mirrors : Mirrors notes limit full other) (isNote : diagnostic.isError = false) :
    Mirrors notes limit (full.note diagnostic) (other.note diagnostic) := by
  obtain ⟨rfl, shown, room⟩ := mirrors
  have placed : (full.place diagnostic).isError = false := by rw [isError_place, isNote]
  have noted : full.note diagnostic = full.report diagnostic := by simp [Checker.note, shown]
  have collected := full.collector.select_add_note notes limit placed
  rw [noted]
  refine ⟨?_, shown, ?_⟩
  · show (if notes then (full.select notes limit).report diagnostic else full.select notes limit) =
      full.reporting ((full.collector.add (full.place diagnostic)).select notes limit) notes
    rw [collected]
    split <;> rfl
  · show limit ≤ (full.collector.add (full.place diagnostic)).limit
    rw [Collector.limit_add]
    exact room

/-- A change that neither reads nor touches what is collected and whether notes are wanted. -/
theorem change (mirrors : Mirrors notes limit full other) (change : Checker → Checker)
    (blind : ∀ checker collector showRevealed,
      change (checker.reporting collector showRevealed) =
        (change checker).reporting collector showRevealed) :
    Mirrors notes limit (change full) (change other) := by
  obtain ⟨rfl, shown, room⟩ := mirrors
  have untouched : change full = (change full).reporting full.collector full.showRevealed :=
    blind full full.collector full.showRevealed
  have collector : (change full).collector = full.collector := by rw [untouched]; rfl
  have showRevealed : (change full).showRevealed = full.showRevealed := by rw [untouched]; rfl
  refine ⟨?_, ?_, ?_⟩
  · unfold Checker.select
    rw [collector]
    exact blind full (full.collector.select notes limit) notes
  · rw [showRevealed, shown]
  · rw [collector]
    exact room

end Checker.Mirrors

/-- A run with options goes along with the run without. Nothing is asked of types here. -/
theorem Check.walk_mirrors (env : Environment) (notes : Bool) (limit : Nat) :
    Check.Walk env (fun _ => True) (Checker.Mirrors notes limit) where
  hereditary := .trivial
  variableKept _ := True.intro
  index _ _ _ := True.intro
  alike := by
    rintro full _ ⟨rfl, _, _⟩
    exact ⟨rfl, rfl, rfl, rfl⟩
  scope _ _ _ _ _ _ := True.intro
  report _ _ mirrors _ isError := mirrors.report isError
  note _ _ mirrors _ isNote := mirrors.note isNote
  define _ _ mirrors name ty _ := mirrors.change (·.define name ty) fun _ _ _ => rfl
  bindAll _ _ mirrors bindings _ := mirrors.change (·.bindAll bindings) fun _ _ _ => rfl
  addImport _ _ mirrors name fullName := by
    apply mirrors.change (·.addImport name fullName)
    intro checker collector showRevealed
    show Checker.addImport (checker.reporting collector showRevealed) name fullName = _
    unfold Checker.addImport
    cases outermost : checker.depth == 0 <;> simp [Checker.reporting, outermost]
  declareTypeVar _ _ mirrors name := by
    apply mirrors.change (·.declareTypeVar name)
    intro checker collector showRevealed
    unfold Checker.declareTypeVar
    by_cases known : name ∈ checker.typeVars <;> simp [Checker.reporting, known]
  takePlaceholder _ _ mirrors := mirrors.change (·.takePlaceholder) fun _ _ _ => rfl
  enter _ _ mirrors := mirrors.change (·.enter) fun _ _ _ => rfl
  leave := by
    rintro full _ ⟨rfl, _, _⟩ inner _ ⟨rfl, shown, room⟩
    exact ⟨rfl, shown, room⟩

/-! ### Reports -/

/-- The checker at the start of a run with options. -/
def Checker.start (file : String) (limit : Nat) (notes : Bool) : Checker :=
  { file, collector := { limit }, showRevealed := notes }

/-- What a run with options collects from a module is selected from what a run without collects. -/
theorem Checker.diagnostics_select (env : Environment) (body : List Stmt) (text file : String)
    {limit bound : Nat} (room : limit ≤ bound) (notes : Bool) :
    ((start file limit notes).checkModule env body text).diagnostics =
      Diagnostic.select notes limit
        ((start file bound true).checkModule env body text).diagnostics := by
  have prepared : Mirrors notes limit
      { start file bound true with
        collector := (start file bound true).collector.clear, lines := .ofText text }
      { start file limit notes with
        collector := (start file limit notes).collector.clear, lines := .ofText text } :=
    ⟨rfl, rfl, room⟩
  obtain ⟨_, _, reached⟩ := (Check.walk_mirrors env notes limit).checkBody body _ _ prepared
  exact congrArg Checker.diagnostics reached.selected

/-- A file that parses, with plugins that load, is reported with any options exactly as the filtered
report of a run that shows everything. Limits are the numbers of 64 bits. -/
theorem checkSource_shown (file text : String) (config : Config)
    (enabled : config.check.enabled = true)
    (loads : ∃ plugins, Plugin.loadAll config.plugins = .ok plugins)
    (parses : ∃ body, parseProgram text = .ok body) :
    ∃ all : List Diagnostic,
      checkSource file text (config.withOptions (UInt64.size - 1) true true) = .ok ⟨file, all⟩ ∧
        ∀ limit notes suggestions, limit < UInt64.size →
          checkSource file text (config.withOptions limit notes suggestions) =
            .ok ⟨file, Diagnostic.shown limit notes suggestions all⟩ := by
  obtain ⟨plugins, loaded⟩ := loads
  obtain ⟨body, parsed⟩ := parses
  let env : Environment := { plugins, index := Bundled.index }
  have checked : ∀ limit notes suggestions,
      checkSource file text (config.withOptions limit notes suggestions) =
        .ok (if suggestions then
            ⟨file, ((Checker.start file limit notes).checkModule env body text).diagnostics⟩
          else Report.withoutSuggestions
            ⟨file, ((Checker.start file limit notes).checkModule env body text).diagnostics⟩) := by
    intro limit notes suggestions
    unfold checkSource checkSourceWith
    simp only [Config.withOptions, loaded, enabled, parsed]
    rfl
  refine ⟨_, checked (UInt64.size - 1) true true, ?_⟩
  intro limit notes suggestions small
  have room : limit ≤ UInt64.size - 1 := Nat.le_sub_one_of_lt small
  rw [checked, Checker.diagnostics_select env body text file room notes]
  cases suggestions <;> rfl

/-- A program that gives a note and two errors. -/
def noteAndTwoErrors : String := "reveal_type(1)\nx: int = ''\ny: int = ''\n"

/-- With one error wanted and no notes, the note and the second error are left out. -/
theorem checkSource_shown_one_error :
    ∃ all : List Diagnostic,
      checkSource "m.py" noteAndTwoErrors
        (Config.standard.withOptions (UInt64.size - 1) true true) = .ok ⟨"m.py", all⟩ ∧
      all.map Diagnostic.isError = [false, true, true] ∧
      checkSource "m.py" noteAndTwoErrors (Config.standard.withOptions 1 false true) =
        .ok ⟨"m.py", Diagnostic.shown 1 false true all⟩ := by
  have loads : ∃ plugins, Plugin.loadAll Config.standard.plugins = .ok plugins := ⟨_, rfl⟩
  have parses : ∃ body, parseProgram noteAndTwoErrors = .ok body := by
    have succeeds : (parseProgram noteAndTwoErrors).isOk = true := by decide +kernel
    cases parsed : parseProgram noteAndTwoErrors with
    | error fault => simp [parsed, Except.isOk, Except.toBool] at succeeds
    | ok body => exact ⟨body, rfl⟩
  have severities : (checkSource "m.py" noteAndTwoErrors
      (Config.standard.withOptions (UInt64.size - 1) true true)).toOption.map
        (fun report => report.diagnostics.map Diagnostic.isError) = some [false, true, true] := by
    decide +kernel
  obtain ⟨all, everything, shown⟩ :=
    checkSource_shown "m.py" noteAndTwoErrors Config.standard rfl loads parses
  refine ⟨all, everything, ?_, shown 1 false true (by decide)⟩
  rw [everything] at severities
  exact Option.some.inj severities

end Callwise
