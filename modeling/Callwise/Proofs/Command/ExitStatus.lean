import Callwise.Command.Run
import Callwise.Proofs.Call.PlainCall
import Callwise.Proofs.Check.FoundErrors
import Callwise.Proofs.Files.Spellings

/-!
# What the exit status says

A run that checks files ends with status one if one of the files is faulty and with status zero
otherwise. A file is faulty if it cannot be read, if it does not parse, or if there is an error in
its report when nothing is held back. How much of the reports is shown, and in which form, has no
influence on the status.

Nor have the order of the paths and their repetition. Another order may leave another spelling of a
path in the list of files. The spelling is the name under which the file is checked, but spellings
of a path name the same text, and whether there are errors in a text does not depend on its name.
-/

namespace Callwise

variable {tree : FileTree}

/-! ### Faulty files -/

/-- The configuration under which reports hold nothing back. -/
def Config.showingAll : Config := Config.standard.withOptions (UInt64.size - 1) true true

theorem Config.showingAll_findsErrors : Config.showingAll.FindsErrors where
  enabled := rfl
  room := by decide

/-- The file cannot be read, or does not parse, or has an error in its report when nothing is held
back. -/
inductive FileTree.IsFaulty (tree : FileTree) (plugins : List Plugin) (path : String) : Prop where
  | unreadable {error : FileError} (unread : tree.readText path = .error error)
  | unparsed {text : String} {fault : SyntaxFault} (read : tree.readText path = .ok text)
      (refused : parseProgram text = .error fault)
  | reported {text : String} {report : Report} (read : tree.readText path = .ok text)
      (checked : checkSourceWith plugins path text .showingAll = .ok report)
      (found : report.hasErrors = true)

/-- The result of checking a file is a report without errors. -/
def IsClean (result : Except FileFailure Report) : Prop :=
  ∃ report, result = .ok report ∧ report.hasErrors = false

/-- Checking a file gives a report if its text has one. -/
theorem checkFile_eq_ok_iff {plugins : List Plugin} {config : Config} {path : String}
    {report : Report} :
    checkFile tree plugins config path = .ok report ↔
      ∃ text, tree.readText path = .ok text ∧
        checkSourceWith plugins path text config = .ok report := by
  unfold checkFile
  cases tree.readText path with
  | error error => simp
  | ok text => cases checked : checkSourceWith plugins path text config <;> simp [checked]

/-- A text that parses has a report. -/
theorem exists_checkSourceWith {text : String} {body : List Stmt}
    (parsed : parseProgram text = .ok body) (plugins : List Plugin) (file : String)
    (config : Config) : ∃ report, checkSourceWith plugins file text config = .ok report := by
  unfold checkSourceWith
  split
  · exact ⟨_, rfl⟩
  · rw [parsed]
    exact ⟨_, rfl⟩

/-- Files with the same text are clean together, wherever they are, whatever their names, and under
all configurations that find errors. -/
theorem IsClean.of_readText_eq {tree other : FileTree} {plugins : List Plugin}
    {first second : String} (text : tree.readText first = other.readText second)
    {config otherConfig : Config} (finds : config.FindsErrors)
    (otherFinds : otherConfig.FindsErrors)
    (clean : IsClean (checkFile tree plugins config first)) :
    IsClean (checkFile other plugins otherConfig second) := by
  obtain ⟨report, given, none⟩ := clean
  obtain ⟨content, read, checked⟩ := checkFile_eq_ok_iff.mp given
  have alike := checkSourceWith_hasErrors plugins first second content finds otherFinds
  rw [checked] at alike
  cases again : checkSourceWith plugins second content otherConfig with
  | error failure =>
    rw [again] at alike
    cases alike
  | ok report =>
    rw [again] at alike
    have same := Except.ok.inj alike
    exact ⟨report, checkFile_eq_ok_iff.mpr ⟨content, text ▸ read, again⟩, same.symm.trans none⟩

namespace FileTree

variable {tree : FileTree} {plugins : List Plugin} {path : String}

/-- A faulty file is one that is not clean when nothing is held back. -/
theorem isFaulty_iff_showingAll :
    tree.IsFaulty plugins path ↔ ¬ IsClean (checkFile tree plugins .showingAll path) := by
  constructor
  · rintro faulty ⟨report, given, none⟩
    obtain ⟨text, read, checked⟩ := checkFile_eq_ok_iff.mp given
    cases faulty with
    | unreadable unread => cases read.symm.trans unread
    | unparsed again refused =>
      obtain rfl := Except.ok.inj (read.symm.trans again)
      simp [checkSourceWith, Config.showingAll_findsErrors.enabled, refused] at checked
    | reported again all found =>
      obtain rfl := Except.ok.inj (read.symm.trans again)
      obtain rfl := Except.ok.inj (checked.symm.trans all)
      rw [none] at found
      cases found
  · intro unclean
    cases read : tree.readText path with
    | error error => exact .unreadable read
    | ok text =>
      cases parsed : parseProgram text with
      | error fault => exact .unparsed read parsed
      | ok body =>
        obtain ⟨report, checked⟩ := exists_checkSourceWith parsed plugins path .showingAll
        apply IsFaulty.reported read checked
        cases found : report.hasErrors with
        | true => rfl
        | false =>
          have given := checkFile_eq_ok_iff.mpr ⟨text, read, checked⟩
          exact absurd ⟨report, given, found⟩ unclean

/-- A faulty file is one that is not clean, whatever the configuration, if it finds errors. -/
theorem isFaulty_iff {config : Config} (finds : config.FindsErrors) :
    tree.IsFaulty plugins path ↔ ¬ IsClean (checkFile tree plugins config path) := by
  rw [isFaulty_iff_showingAll, not_congr]
  constructor
  · exact fun clean => clean.of_readText_eq rfl Config.showingAll_findsErrors finds
  · exact fun clean => clean.of_readText_eq rfl finds Config.showingAll_findsErrors

/-- Files with the same text are faulty together, wherever they are and whatever their names. -/
theorem IsFaulty.of_readText_eq {other : FileTree} {second : String}
    (text : tree.readText path = other.readText second) (faulty : tree.IsFaulty plugins path) :
    other.IsFaulty plugins second := by
  have finds := Config.showingAll_findsErrors
  rw [isFaulty_iff finds] at faulty ⊢
  intro clean
  exact faulty (clean.of_readText_eq text.symm finds finds)

end FileTree

/-! ### Counting errors -/

/-- There are no errors in a report whose number of errors is zero. -/
theorem Report.errorCount_eq_zero_iff (report : Report) :
    report.errorCount = 0 ↔ report.hasErrors = false := by
  unfold errorCount hasErrors
  rw [List.countP_eq_zero, List.any_eq_false]

/-- Sharing the items out by halves keeps their order. -/
theorem mapHalves_eq_map {α β : Type} (apply : α → β) (items : List α) :
    mapHalves apply items = items.map apply := by
  fun_induction mapHalves apply items with
  | case1 items few => rfl
  | case2 items many firstHalf secondHalf =>
    rw [firstHalf, secondHalf, ← List.map_append, List.take_append_drop]

namespace CheckResults

/-- Adding up errors gives zero if there is nothing to add. -/
theorem foldl_errorCount_eq_zero_iff (reports : List Report) (count : Nat) :
    reports.foldl (fun count report => count + report.errorCount) count = 0 ↔
      count = 0 ∧ ∀ report ∈ reports, report.hasErrors = false := by
  induction reports generalizing count with
  | nil => simp
  | cons first rest ih =>
    rw [List.foldl_cons, ih, List.forall_mem_cons, Nat.add_eq_zero_iff,
      Report.errorCount_eq_zero_iff, and_assoc]

/-- There are no errors if every file has a report without errors. -/
theorem errorCount_ofFiles_eq_zero_iff (results : List (Except FileFailure Report)) :
    (ofFiles results).errorCount = 0 ↔ ∀ result ∈ results, IsClean result := by
  unfold errorCount
  rw [foldl_errorCount_eq_zero_iff, List.length_eq_zero_iff]
  constructor
  · rintro ⟨noFailures, clean⟩ result within
    cases result with
    | error failure =>
      have failed : failure ∈ (ofFiles results).failures :=
        List.mem_filterMap.mpr ⟨.error failure, within, rfl⟩
      rw [noFailures] at failed
      cases failed
    | ok report =>
      have reported : report ∈ (ofFiles results).reports :=
        List.mem_filterMap.mpr ⟨.ok report, within, rfl⟩
      exact ⟨report, rfl, clean report reported⟩
  · intro each
    constructor
    · apply List.filterMap_eq_nil_iff.mpr
      intro result within
      obtain ⟨report, rfl, _⟩ := each result within
      rfl
    · intro report reported
      obtain ⟨result, within, given⟩ := List.mem_filterMap.mp reported
      obtain ⟨other, rfl, clean⟩ := each result within
      obtain rfl : other = report := Option.some.inj given
      exact clean

end CheckResults

/-! ### Printing -/

namespace Outcome

variable (settings : ErrorSettings) (outcome : Outcome)

/-- Printing a diagnostic leaves the status alone. -/
theorem status_printDiagnostic (diagnostic : Diagnostic) :
    (outcome.printDiagnostic settings diagnostic).status = outcome.status := by
  unfold printDiagnostic
  simp only
  split <;> rfl

/-- Printing reports leaves the status alone. -/
theorem status_printReports (reports : List Report) :
    (outcome.printReports settings reports).status = outcome.status := by
  have each : ∀ diagnostics : List Diagnostic,
      (diagnostics.foldl (printDiagnostic settings) outcome).status = outcome.status := by
    intro diagnostics
    induction diagnostics generalizing outcome with
    | nil => rfl
    | cons first rest ih =>
      rw [List.foldl_cons, ih, status_printDiagnostic]
  unfold printReports
  split
  · rfl
  · exact each _

/-- Printing failures leaves the status alone. -/
theorem status_printFailures (failures : List FileFailure) :
    (outcome.printFailures settings failures).status = outcome.status := by
  unfold printFailures
  induction failures generalizing outcome with
  | nil => rfl
  | cons first rest ih =>
    rw [List.foldl_cons, ih]
    rfl

/-- Printing the summary leaves the status alone. -/
theorem status_printSummary (files errors : Nat) :
    (outcome.printSummary settings files errors).status = outcome.status := by
  unfold printSummary
  split
  · rfl
  · split <;> rfl

end Outcome

/-- The outcome of checking a number of files with these results. -/
def CheckResults.outcome (results : CheckResults) (settings : ErrorSettings) (files : Nat) :
    Outcome :=
  let outcome : Outcome := { status := if results.errorCount == 0 then 0 else 1 }
  ((outcome.printReports settings results.reports).printFailures settings
    results.failures).printSummary settings files results.errorCount

/-- The status says whether there are errors, in whatever form the results are printed. -/
theorem CheckResults.status_outcome (results : CheckResults) (settings : ErrorSettings)
    (files : Nat) :
    (results.outcome settings files).status = if results.errorCount = 0 then 0 else 1 := by
  unfold outcome
  rw [Outcome.status_printSummary, Outcome.status_printFailures, Outcome.status_printReports]
  by_cases none : results.errorCount = 0 <;> simp [none]

/-! ### Collecting files -/

/-- If every item has an answer, so have all of them together, and what the answers hold is what the
answer for some item holds. -/
theorem exists_mapM_of_forall {α β ε : Type} {answer : α → Except ε (List β)} {items : List α}
    (each : ∀ item ∈ items, ∃ part, answer item = .ok part) :
    ∃ parts, items.mapM answer = .ok parts ∧
      ∀ x, x ∈ parts.flatten ↔ ∃ item ∈ items, ∃ part, answer item = .ok part ∧ x ∈ part := by
  induction items with
  | nil => exact ⟨[], rfl, by simp⟩
  | cons first rest ih =>
    rw [List.forall_mem_cons] at each
    obtain ⟨⟨part, here⟩, later⟩ := each
    obtain ⟨parts, there, holds⟩ := ih later
    refine ⟨part :: parts, ?_, ?_⟩
    · rw [List.mapM_cons, here, there]
      rfl
    · intro x
      rw [List.flatten_cons, List.mem_append, holds]
      constructor
      · rintro (inFirst | ⟨item, within, found⟩)
        · exact ⟨first, List.mem_cons_self, part, here, inFirst⟩
        · exact ⟨item, List.mem_cons_of_mem first within, found⟩
      · rintro ⟨item, within, other, given, found⟩
        rcases List.mem_cons.mp within with rfl | behind
        · obtain rfl := Except.ok.inj (here.symm.trans given)
          exact .inl found
        · exact .inr ⟨item, behind, other, given, found⟩

/-- What is there and is no file is a directory. -/
theorem FileTree.isDirectory_of_exists {path : String} (there : tree.exists? path = true)
    (noFile : ¬ tree.isFile path = true) :
    tree.isDirectory path = true := by
  unfold FileTree.exists? at there
  unfold FileTree.isFile at noFile
  unfold FileTree.isDirectory
  cases found : tree.find path with
  | error error =>
    rw [found] at there
    cases there
  | ok node =>
    simp only [found] at noFile
    cases node with
    | file content => exact absurd rfl noFile
    | directory entries => rfl

namespace Options

/-- What a path on the command line stands for are files. -/
theorem isFile_of_mem_filesAt {settings : PathSettings} {named path : String} {files : List String}
    (found : filesAt tree settings named = .ok files) (within : path ∈ files) :
    tree.isFile path = true := by
  unfold filesAt at found
  split at found
  · rename_i isFile
    obtain rfl := Except.ok.inj found
    obtain rfl := List.mem_singleton.mp within
    exact isFile
  · split at found
    · unfold filesIn at found
      split at found
      · cases found
      · obtain rfl := Except.ok.inj found
        have selected := (List.mem_filter.mp within).2
        exact (Bool.and_eq_true_iff.mp selected).1
    · cases found

/-- A path that is there stands for files, if it can be expanded in case it is a directory. -/
theorem exists_filesAt (settings : PathSettings) {named : String}
    (there : tree.exists? named = true)
    (expands : tree.isDirectory named = true → (tree.glob (named ++ "/**/*.py")).isOk = true) :
    ∃ files, filesAt tree settings named = .ok files := by
  unfold filesAt
  split
  · exact ⟨[named], rfl⟩
  · rename_i noFile
    have isDirectory := FileTree.isDirectory_of_exists there noFile
    rw [if_pos isDirectory]
    unfold filesIn
    cases globbed : tree.glob (named ++ "/**/*.py") with
    | ok paths => exact ⟨_, rfl⟩
    | error fault =>
      have expanded := expands isDirectory
      rw [globbed] at expanded
      cases expanded

/-- One of the paths stands for a faulty file, possibly among others. -/
def NamesFaulty (tree : FileTree) (settings : PathSettings) (plugins : List Plugin)
    (paths : List String) : Prop :=
  ∃ named ∈ paths, ∃ files, filesAt tree settings named = .ok files ∧
    ∃ path ∈ files, tree.IsFaulty plugins path

/-- The paths stand for the same files in both trees, and these have the same texts. -/
structure SameFiles (settings : PathSettings) (paths : List String) (tree other : FileTree) :
    Prop where
  files : ∀ named ∈ paths, filesAt other settings named = filesAt tree settings named
  texts : ∀ named ∈ paths, ∀ files, filesAt tree settings named = .ok files →
    ∀ path ∈ files, other.readText path = tree.readText path

/-- Where the files are the same, a faulty file in one tree is a faulty file in the other. -/
theorem SameFiles.namesFaulty_iff {settings : PathSettings} {paths : List String}
    {tree other : FileTree} (same : SameFiles settings paths tree other) (plugins : List Plugin) :
    NamesFaulty other settings plugins paths ↔ NamesFaulty tree settings plugins paths := by
  constructor
  · rintro ⟨named, within, files, given, path, member, faulty⟩
    rw [same.files named within] at given
    have text := same.texts named within files given path member
    exact ⟨named, within, files, given, path, member, faulty.of_readText_eq text⟩
  · rintro ⟨named, within, files, given, path, member, faulty⟩
    have text := same.texts named within files given path member
    rw [← same.files named within] at given
    exact ⟨named, within, files, given, path, member, faulty.of_readText_eq text.symm⟩

/-- Files are collected if every path stands for files, and one of the collected files is faulty if
one of the paths stands for a faulty file. -/
theorem exists_collectFiles {options : Options} {settings : PathSettings}
    (each : ∀ named ∈ options.paths, ∃ files, filesAt tree settings named = .ok files)
    (plugins : List Plugin) :
    ∃ files, options.collectFiles tree settings = .ok files ∧
      ((∃ path ∈ files, tree.IsFaulty plugins path) ↔
        NamesFaulty tree settings plugins options.paths) := by
  obtain ⟨found, collected, holds⟩ := exists_mapM_of_forall each
  have areFiles : ∀ path ∈ found.flatten, tree.isFile path = true := by
    intro path within
    obtain ⟨named, _, files, given, member⟩ := (holds path).mp within
    exact isFile_of_mem_filesAt given member
  refine ⟨Path.sorted found.flatten, ?_, ?_⟩
  · unfold collectFiles
    rw [collected]
    rfl
  · constructor
    · rintro ⟨path, kept, faulty⟩
      have listed := Path.mem_of_mem_sorted kept
      obtain ⟨named, within, files, given, member⟩ := (holds path).mp listed
      exact ⟨named, within, files, given, path, member, faulty⟩
    · rintro ⟨named, within, files, given, path, member, faulty⟩
      have listed : path ∈ found.flatten := (holds path).mpr ⟨named, within, files, given, member⟩
      obtain ⟨spelling, kept, same⟩ := Path.exists_mem_sorted listed
      have spelled := areFiles spelling (Path.mem_of_mem_sorted kept)
      have text := FileTree.readText_eq_of_parts_eq same.symm (areFiles path listed) spelled
      exact ⟨spelling, kept, faulty.of_readText_eq text⟩

/-! ### The status -/

/-- The run checks files: paths are given and lead somewhere, directories among them can be
expanded, a configuration is found that asks for checks and leaves room for an error, and its
plugins are known. -/
structure Checks (options : Options) (tree : FileTree) (config : Config) (plugins : List Plugin) :
    Prop where
  isCheck : options.init = false
  nonempty : options.paths ≠ []
  there : ∀ path ∈ options.paths, tree.exists? path = true
  expands : ∀ path ∈ options.paths, tree.isDirectory path = true →
    (tree.glob (path ++ "/**/*.py")).isOk = true
  resolved : options.resolveConfig tree = .ok config
  enabled : config.check.enabled = true
  loaded : Plugin.loadAll config.plugins = .ok plugins
  room : 1 ≤ config.errors.maxErrors

/-- Parallel workers find the same results in the same order as one worker. -/
theorem resultsOf_eq_map (options : Options) (tree : FileTree) (plugins : List Plugin)
    (config : Config) (files : List String) :
    options.resultsOf tree plugins config files = files.map (checkFile tree plugins config) := by
  rw [resultsOf, mapHalves_eq_map, ite_self]

namespace Checks

variable {options : Options} {tree : FileTree} {config : Config} {plugins : List Plugin}
  (checks : options.Checks tree config plugins)

include checks

/-- The paths stand for files. -/
theorem exists_files :
    ∀ named ∈ options.paths, ∃ files, filesAt tree config.paths named = .ok files := by
  intro named within
  exact exists_filesAt config.paths (checks.there named within) (checks.expands named within)

/-- The run gives the outcome of checking the files that are collected. -/
theorem run_eq {files : List String}
    (collected : options.collectFiles tree config.paths = .ok files) :
    options.run tree = .ok ((CheckResults.ofFiles
      (files.map (checkFile tree plugins config))).outcome config.errors files.length) := by
  have nonempty : options.paths.isEmpty = false := by simp [checks.nonempty]
  have resolved : (options.resolveConfig tree).mapError CommandError.config = .ok config := by
    rw [checks.resolved]
    rfl
  have loaded : (Plugin.loadAll config.plugins).mapError CommandError.plugin = .ok plugins := by
    rw [checks.loaded]
    rfl
  unfold run checkFiles
  rw [checks.isCheck, nonempty, resolved]
  simp only [bind, Except.bind, loaded, collected, resultsOf_eq_map]
  rfl

/-- The outcome of the run ends with one if a collected file is faulty, and with zero otherwise. -/
theorem exists_run {files : List String}
    (collected : options.collectFiles tree config.paths = .ok files) :
    ∃ outcome, options.run tree = .ok outcome ∧
      ((∃ path ∈ files, tree.IsFaulty plugins path) → outcome.status = 1) ∧
      ((¬ ∃ path ∈ files, tree.IsFaulty plugins path) → outcome.status = 0) := by
  have clean : (CheckResults.ofFiles (files.map (checkFile tree plugins config))).errorCount = 0 ↔
      ∀ path ∈ files, IsClean (checkFile tree plugins config path) := by
    rw [CheckResults.errorCount_ofFiles_eq_zero_iff, List.forall_mem_map]
  have finds : config.FindsErrors := ⟨checks.enabled, checks.room⟩
  refine ⟨_, checks.run_eq collected, ?_, ?_⟩
  · rintro ⟨path, within, faulty⟩
    rw [CheckResults.status_outcome, if_neg]
    intro none
    exact (FileTree.isFaulty_iff finds).mp faulty (clean.mp none path within)
  · intro faultless
    rw [CheckResults.status_outcome, if_pos]
    apply clean.mpr
    intro path within
    apply Classical.byContradiction
    intro unclean
    exact faultless ⟨path, within, (FileTree.isFaulty_iff finds).mpr unclean⟩

end Checks

/-- A run that checks files ends with status one if some collected file is faulty, and with status
zero otherwise. The status is the same for every run that checks the same files with the same
plugins and patterns: neither the order and the repetition of the paths nor anything else that the
options and the configuration say has an influence. The other run may be in a tree with another
configuration file. -/
theorem status_decided_by_files {options : Options} {tree : FileTree} {config : Config}
    {plugins : List Plugin} (checks : options.Checks tree config plugins) :
    ∃ files outcome, options.collectFiles tree config.paths = .ok files ∧
      options.run tree = .ok outcome ∧
      ((∃ path ∈ files, tree.IsFaulty plugins path) → outcome.status = 1) ∧
      ((¬ ∃ path ∈ files, tree.IsFaulty plugins path) → outcome.status = 0) ∧
      ∀ (other : Options) (otherTree : FileTree) (otherConfig : Config),
        other.Checks otherTree otherConfig plugins → otherConfig.paths = config.paths →
        (∀ path, path ∈ other.paths ↔ path ∈ options.paths) →
        SameFiles config.paths options.paths tree otherTree →
        ∃ again, other.run otherTree = .ok again ∧ again.status = outcome.status := by
  obtain ⟨files, collected, named⟩ := exists_collectFiles checks.exists_files plugins
  obtain ⟨outcome, ran, one, zero⟩ := checks.exists_run collected
  refine ⟨files, outcome, collected, ran, one, zero, ?_⟩
  intro other otherTree otherConfig otherChecks patterns samePaths sameFiles
  obtain ⟨others, otherCollected, otherNamed⟩ :=
    exists_collectFiles otherChecks.exists_files plugins
  obtain ⟨again, ranAgain, oneAgain, zeroAgain⟩ := otherChecks.exists_run otherCollected
  have sameFaults : (∃ path ∈ others, otherTree.IsFaulty plugins path) ↔
      ∃ path ∈ files, tree.IsFaulty plugins path := by
    rw [named, otherNamed, patterns, ← sameFiles.namesFaulty_iff plugins]
    unfold NamesFaulty
    simp only [samePaths]
  refine ⟨again, ranAgain, ?_⟩
  by_cases faulty : ∃ path ∈ files, tree.IsFaulty plugins path
  · rw [one faulty, oneAgain (sameFaults.mpr faulty)]
  · rw [zero faulty, zeroAgain (faulty ∘ sameFaults.mp)]

/-- A tree with other files beside a directory that holds a file with an error and one without. -/
def pairTree (others : List (String × FileNode)) : FileTree where
  root := .directory (others ++
    [("pkg", .directory
      [("bad.py", .file "x: int = ''\n".toUTF8), ("good.py", .file "y = 1\n".toUTF8)])])

/-- The tree without other files. -/
def plainTree : FileTree := pairTree []

/-- The tree with a configuration file. -/
def configuredTree : FileTree :=
  pairTree [(".typyrc", .file "[errors]\nshow_suggestions = false\n".toUTF8)]

/-- The directory and one of its files, in another spelling. -/
def directoryFirst : Options := { paths := ["pkg", "pkg/./bad.py"] }

/-- The same paths in another order and with a repetition, and all that can be said on the command
line about how to check and print. -/
def fileFirst : Options where
  paths := ["pkg/./bad.py", "pkg", "pkg/./bad.py"]
  maxErrors := some 1
  color := some false
  format := some .json
  showRevealedTypes := some false
  parallel := false

/-- The configuration that results from the configuration file and these options. -/
def quietConfig : Config where
  check := { showRevealedTypes := false }
  errors := { maxErrors := 1, showSuggestions := false, color := false, format := .json }

/-- A run in the plain tree checks files. -/
theorem directoryFirst_checks : directoryFirst.Checks plainTree .standard [Plugin.returns] where
  isCheck := rfl
  nonempty := by decide
  there := by decide +kernel
  expands := by decide +kernel
  resolved := rfl
  enabled := rfl
  loaded := rfl
  room := by decide

/-- A run in the tree with a configuration file checks files. -/
theorem fileFirst_checks : fileFirst.Checks configuredTree quietConfig [Plugin.returns] where
  isCheck := rfl
  nonempty := by decide
  there := by decide +kernel
  expands := by decide +kernel
  resolved := by
    have found : (fileFirst.resolveConfig configuredTree).toOption = some quietConfig := by
      decide +kernel
    exact toOption_eq_some_iff.mp found
  enabled := rfl
  loaded := rfl
  room := by decide

/-- The configuration file makes no difference to the files that are checked. -/
theorem sameFiles_configured :
    SameFiles .standard directoryFirst.paths plainTree configuredTree := by
  -- In either tree the directory stands for its two files and the path of the file for itself.
  have plain : filesAt plainTree .standard "pkg" = .ok ["pkg/bad.py", "pkg/good.py"] :=
    toOption_eq_some_iff.mp (by decide +kernel)
  have configured : filesAt configuredTree .standard "pkg" = .ok ["pkg/bad.py", "pkg/good.py"] :=
    toOption_eq_some_iff.mp (by decide +kernel)
  have single : filesAt plainTree .standard "pkg/./bad.py" = .ok ["pkg/./bad.py"] :=
    toOption_eq_some_iff.mp (by decide +kernel)
  have alone : filesAt configuredTree .standard "pkg/./bad.py" = .ok ["pkg/./bad.py"] :=
    toOption_eq_some_iff.mp (by decide +kernel)
  have texts : ∀ path ∈ ["pkg/bad.py", "pkg/good.py", "pkg/./bad.py"],
      configuredTree.readText path = plainTree.readText path := by
    rw [List.forall_mem_cons, List.forall_mem_cons, List.forall_mem_singleton]
    exact ⟨rfl, rfl, rfl⟩
  constructor
  · show ∀ named ∈ ["pkg", "pkg/./bad.py"], _
    rw [List.forall_mem_cons, List.forall_mem_singleton]
    exact ⟨configured.trans plain.symm, alone.trans single.symm⟩
  · show ∀ named ∈ ["pkg", "pkg/./bad.py"], _
    rw [List.forall_mem_cons, List.forall_mem_singleton]
    constructor
    · intro files given path member
      obtain rfl := Except.ok.inj (plain.symm.trans given)
      exact texts path (List.mem_of_mem_take (i := 2) member)
    · intro files given path member
      obtain rfl := Except.ok.inj (single.symm.trans given)
      exact texts path (List.mem_of_mem_drop (i := 2) member)

/-- The file with the error is faulty. -/
theorem isFaulty_bad : plainTree.IsFaulty [Plugin.returns] "pkg/./bad.py" := by
  have read : plainTree.readText "pkg/./bad.py" = .ok "x: int = ''\n" := by rfl
  have errors : (checkSourceWith [Plugin.returns] "pkg/./bad.py" "x: int = ''\n"
      .showingAll).toOption.map Report.hasErrors = some true := by decide +kernel
  cases checked : checkSourceWith [Plugin.returns] "pkg/./bad.py" "x: int = ''\n" .showingAll with
  | error failure => simp [checked, Except.toOption] at errors
  | ok report =>
    rw [checked] at errors
    exact .reported read checked (Option.some.inj errors)

/-- Both runs end with one, since the file with the error is among the collected files under one
spelling or the other. -/
theorem status_of_bad_file :
    directoryFirst.Checks plainTree .standard [Plugin.returns] ∧
      fileFirst.Checks configuredTree quietConfig [Plugin.returns] ∧
      ∃ outcome again, directoryFirst.run plainTree = .ok outcome ∧
        fileFirst.run configuredTree = .ok again ∧ outcome.status = 1 ∧ again.status = 1 := by
  refine ⟨directoryFirst_checks, fileFirst_checks, ?_⟩
  have named : NamesFaulty plainTree .standard [Plugin.returns] directoryFirst.paths :=
    ⟨"pkg/./bad.py", by decide, ["pkg/./bad.py"], rfl, "pkg/./bad.py", by decide, isFaulty_bad⟩
  obtain ⟨files, outcome, collected, ran, one, _, same⟩ :=
    status_decided_by_files directoryFirst_checks
  obtain ⟨listed, again, faulty⟩ :=
    exists_collectFiles directoryFirst_checks.exists_files [Plugin.returns]
  obtain rfl := Except.ok.inj (collected.symm.trans again)
  have status := one (faulty.mpr named)
  have samePaths : ∀ path, path ∈ fileFirst.paths ↔ path ∈ directoryFirst.paths := by
    simp [fileFirst, directoryFirst, or_comm]
  obtain ⟨second, ranSecond, sameStatus⟩ :=
    same fileFirst configuredTree quietConfig fileFirst_checks rfl samePaths sameFiles_configured
  exact ⟨outcome, second, ran, ranSecond, status, sameStatus.trans status⟩

/-- A directory whose name starts a set of characters that does not end. -/
def bracketTree : FileTree where
  root := .directory [("a[", .directory [])]

/-- Paths that are there do not always get a status from the files. A directory whose name is no
pattern and an empty list of paths are refused, although files are to be checked, the plugins are
known and there is room for errors. A run that writes a configuration file looks at no other
file. -/
theorem existing_paths_unchecked :
    bracketTree.exists? "a[" = true ∧
      ({ paths := ["a["] } : Options).resolveConfig bracketTree = .ok .standard ∧
      Config.standard.check.enabled = true ∧
      Plugin.loadAll Config.standard.plugins = .ok [Plugin.returns] ∧
      1 ≤ Config.standard.errors.maxErrors ∧
      ({ paths := ["a["] } : Options).run bracketTree = .error (.pattern (.openBracket 1)) ∧
      ({ paths := [] } : Options).run bracketTree = .error (.usage .noPaths) ∧
      plainTree.IsFaulty [Plugin.returns] "pkg/./bad.py" ∧
      (({ paths := ["pkg/./bad.py"], init := true } : Options).run plainTree).map Outcome.status =
        .ok 0 :=
  ⟨by decide +kernel, rfl, rfl, rfl, by decide, rfl, rfl, isFaulty_bad, rfl⟩

end Options

end Callwise
