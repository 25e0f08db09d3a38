import Callwise.Proofs.Check.Events
import Callwise.Proofs.Check.ReportOptions

/-!
# Whether a file has errors

Whether any error is found in a text depends on the text and on the plugins. It depends neither on
the name of the file nor on the options of reports, as long as these leave room for one error.

Two runs with different names and options go through states that agree on all that is read to find
types. An error is reported in both runs or in neither, and from then on both have an error: if one
of them has no room left, it has kept errors before.
-/

namespace Callwise

variable {diagnostic : Diagnostic}

namespace Collector

/-- If there is room for one error, an error is kept whenever one is reported. -/
theorem hasErrors_add_error {collector : Collector} (room : 0 < collector.limit)
    (isError : diagnostic.isError = true) :
    (collector.add diagnostic).hasErrors = true := by
  by_cases few : collector.errorCount < collector.limit
  · simp [add, hasErrors, isError, few]
  · have full : collector.add diagnostic = collector := by simp [add, isError, few]
    have kept : 0 < collector.kept.countP Diagnostic.isError := by
      unfold errorCount at few
      omega
    obtain ⟨earlier, within, fault⟩ := List.countP_pos_iff.mp kept
    rw [full]
    exact List.any_eq_true.mpr ⟨earlier, within, fault⟩

/-- A note is no error. -/
theorem hasErrors_add_note (collector : Collector) (isNote : diagnostic.isError = false) :
    (collector.add diagnostic).hasErrors = collector.hasErrors := by
  simp [add, hasErrors, isNote]

end Collector

namespace Checker

/-! ### Changes of states that agree -/

namespace Alike

variable {left right : Checker}

theorem define (alike : left.Alike right) (name : String) (ty : Ty) :
    (left.define name ty).Alike (right.define name ty) :=
  { alike with scope := congrArg (·.set name ty) alike.scope }

theorem bindAll (alike : left.Alike right) (bindings : List (String × Ty)) :
    (left.bindAll bindings).Alike (right.bindAll bindings) :=
  { alike with scope := by simp only [Checker.bindAll, alike.scope] }

theorem addImport (alike : left.Alike right) (name fullName : String) :
    (left.addImport name fullName).Alike (right.addImport name fullName) where
  scope := by simp [alike.scope]
  imports := by simp [alike.imports]
  typeVars := by simp [alike.typeVars]
  lines := by simp [alike.lines]

theorem declareTypeVar (alike : left.Alike right) (name : String) :
    (left.declareTypeVar name).Alike (right.declareTypeVar name) := by
  unfold Checker.declareTypeVar
  rw [alike.typeVars]
  split
  · exact alike
  · exact { alike with typeVars := rfl }

theorem takePlaceholder (alike : left.Alike right) :
    left.takePlaceholder.Alike right.takePlaceholder :=
  { alike with scope := congrArg (·.fresh.2) alike.scope }

theorem enter (alike : left.Alike right) : left.enter.Alike right.enter := { alike with }

/-- Whether notes are kept is not read to find types. -/
theorem note (alike : left.Alike right) (diagnostic : Diagnostic) :
    (left.note diagnostic).Alike (right.note diagnostic) := by
  unfold Checker.note
  split
  · split <;> exact { alike with }
  · split <;> exact { alike with }

/-- Leaving a scope, if the states inside and those outside agree. -/
theorem leave (alike : left.Alike right) {innerLeft innerRight : Checker}
    (inner : innerLeft.Alike innerRight) :
    (innerLeft.leave left).Alike (innerRight.leave right) where
  scope := by simp only [Checker.leave, inner.scope, alike.scope]
  imports := alike.imports
  typeVars := inner.typeVars
  lines := inner.lines

end Alike

/-! ### Runs that find errors alike -/

/-- The checkers find the same types, both have room for an error, and if one has found an error so
has the other. -/
structure FindAlike (left right : Checker) : Prop where
  alike : left.Alike right
  leftRoom : 0 < left.collector.limit
  rightRoom : 0 < right.collector.limit
  found : left.collector.hasErrors = right.collector.hasErrors

/-- The limit stays as it is when something is noted. -/
theorem limit_note (checker : Checker) (diagnostic : Diagnostic) :
    (checker.note diagnostic).collector.limit = checker.collector.limit := by
  unfold Checker.note
  split
  · exact Collector.limit_add _ _
  · rfl

/-- No error is found when something is noted. -/
theorem hasErrors_note (checker : Checker) (isNote : diagnostic.isError = false) :
    (checker.note diagnostic).collector.hasErrors = checker.collector.hasErrors := by
  have placed : (checker.place diagnostic).isError = false := by rw [isError_place, isNote]
  unfold Checker.note
  split
  · exact checker.collector.hasErrors_add_note placed
  · rfl

namespace FindAlike

variable {left right : Checker}

/-- Reporting an error on both sides: afterwards both have found one. -/
theorem report (both : FindAlike left right) (isError : diagnostic.isError = true) :
    FindAlike (left.report diagnostic) (right.report diagnostic) where
  alike := { both.alike with }
  leftRoom := by
    show 0 < (left.collector.add (left.place diagnostic)).limit
    rw [Collector.limit_add]
    exact both.leftRoom
  rightRoom := by
    show 0 < (right.collector.add (right.place diagnostic)).limit
    rw [Collector.limit_add]
    exact both.rightRoom
  found := by
    have leftError : (left.place diagnostic).isError = true := by rw [isError_place, isError]
    have rightError : (right.place diagnostic).isError = true := by rw [isError_place, isError]
    have leftFound := Collector.hasErrors_add_error both.leftRoom leftError
    have rightFound := Collector.hasErrors_add_error both.rightRoom rightError
    exact leftFound.trans rightFound.symm

/-- A note on both sides, where one may keep it and the other not. -/
theorem note (both : FindAlike left right) (isNote : diagnostic.isError = false) :
    FindAlike (left.note diagnostic) (right.note diagnostic) where
  alike := both.alike.note diagnostic
  leftRoom := by
    rw [limit_note]
    exact both.leftRoom
  rightRoom := by
    rw [limit_note]
    exact both.rightRoom
  found := by rw [hasErrors_note left isNote, hasErrors_note right isNote, both.found]

/-- A change that does not touch what is collected. -/
theorem change (both : FindAlike left right) (change : Checker → Checker)
    (alike : (change left).Alike (change right))
    (untouched : ∀ checker, (change checker).collector = checker.collector) :
    FindAlike (change left) (change right) where
  alike
  leftRoom := by
    rw [untouched]
    exact both.leftRoom
  rightRoom := by
    rw [untouched]
    exact both.rightRoom
  found := by rw [untouched, untouched, both.found]

end FindAlike

end Checker

/-- Two runs with different names and options find errors alike. Nothing is asked of types here. -/
theorem Check.walk_findAlike (env : Environment) :
    Check.Walk env (fun _ => True) Checker.FindAlike where
  hereditary := .trivial
  variableKept _ := True.intro
  index _ _ _ := True.intro
  alike _ _ both := both.alike
  scope _ _ _ _ _ _ := True.intro
  report _ _ both _ isError := both.report isError
  note _ _ both _ isNote := both.note isNote
  define _ _ both name ty _ :=
    both.change (·.define name ty) (both.alike.define name ty) fun _ => rfl
  bindAll _ _ both bindings _ :=
    both.change (·.bindAll bindings) (both.alike.bindAll bindings) fun _ => rfl
  addImport _ _ both name fullName :=
    both.change (·.addImport name fullName) (both.alike.addImport name fullName) fun checker =>
      checker.addImport_collector name fullName
  declareTypeVar _ _ both name := by
    apply both.change (·.declareTypeVar name) (both.alike.declareTypeVar name)
    intro checker
    show (checker.declareTypeVar name).collector = checker.collector
    unfold Checker.declareTypeVar
    split <;> rfl
  takePlaceholder _ _ both :=
    both.change (·.takePlaceholder) both.alike.takePlaceholder fun _ => rfl
  enter _ _ both := both.change (·.enter) both.alike.enter fun _ => rfl
  leave _ _ both _ _ inner :=
    ⟨both.alike.leave inner.alike, inner.leftRoom, inner.rightRoom, inner.found⟩

/-! ### Reports -/

/-- Whether errors are found in a module does not depend on the name of its file, on the limit, or
on whether notes are kept. -/
theorem Checker.hasErrors_checkModule (env : Environment) (body : List Stmt) (text : String)
    (file path : String) {limit bound : Nat} (limitRoom : 0 < limit) (boundRoom : 0 < bound)
    (notes wanted : Bool) :
    ((start file limit notes).checkModule env body text).collector.hasErrors =
      ((start path bound wanted).checkModule env body text).collector.hasErrors := by
  have prepared : FindAlike
      { start file limit notes with
        collector := (start file limit notes).collector.clear, lines := .ofText text }
      { start path bound wanted with
        collector := (start path bound wanted).collector.clear, lines := .ofText text } :=
    ⟨⟨rfl, rfl, rfl, rfl⟩, limitRoom, boundRoom, rfl⟩
  obtain ⟨_, _, reached⟩ := (Check.walk_findAlike env).checkBody body _ _ prepared
  exact reached.found

/-- Whether suggestions are shown makes no difference to errors. -/
theorem Report.hasErrors_shown (report : Report) (suggestions : Bool) :
    (if suggestions then report else report.withoutSuggestions).hasErrors = report.hasErrors := by
  cases suggestions with
  | true => rfl
  | false =>
    show (report.diagnostics.map _).any Diagnostic.isError = _
    rw [List.any_map]
    rfl

/-- The configuration asks for checks and leaves room for an error. -/
structure Config.FindsErrors (config : Config) : Prop where
  enabled : config.check.enabled = true
  room : 0 < config.errors.maxErrors

/-- With the same plugins a text fails to be checked, has errors or has none under every name and
under all configurations that find errors. -/
theorem checkSourceWith_hasErrors (plugins : List Plugin) (file path text : String)
    {config other : Config} (finds : config.FindsErrors) (otherFinds : other.FindsErrors) :
    (checkSourceWith plugins file text config).map Report.hasErrors =
      (checkSourceWith plugins path text other).map Report.hasErrors := by
  unfold checkSourceWith
  rw [finds.enabled, otherFinds.enabled]
  cases parseProgram text with
  | error fault => rfl
  | ok body =>
    have same := Checker.hasErrors_checkModule { plugins, index := Bundled.index } body text file
      path finds.room otherFinds.room config.check.showRevealedTypes other.check.showRevealedTypes
    show Except.ok (Report.hasErrors (if config.errors.showSuggestions then _ else _)) =
      Except.ok (Report.hasErrors (if other.errors.showSuggestions then _ else _))
    rw [Report.hasErrors_shown, Report.hasErrors_shown]
    exact congrArg Except.ok same

end Callwise
