import Callwise.Proofs.Check.History

/-!
# All types are canonical

Whatever stubs the index is made from, whatever plugins refine calls and whatever modules are
checked: every type that the checker holds at any time has only simplified unions inside.

The invariant is that the types in scope and the types an activity works with have the property. It
passes from an activity to its parts, which is the step, and so to everything that occurs, which is
the run. Nothing here is special to canonical types; a property only has to be hereditary and to
hold of type variables.
-/

namespace Callwise

variable {kept : Ty → Prop} {env : Environment} {checker : Checker}

/-- A step that keeps a property of all types in scope, from one state. -/
theorem Check.Tracks.single {α : Type} {value : α → Prop} {step : Check α}
    (tracks : Check.Tracks (Checker.Same kept) value step) (holds : checker.scope.Holds kept) :
    value (step.run checker).1 ∧ (step.run checker).2.scope.Holds kept := by
  obtain ⟨_, result, reached⟩ := tracks checker checker ⟨rfl, holds⟩
  exact ⟨result, reached.2⟩

/-! ### The step -/

namespace Activity

/-- The types that the activity works with have the property. -/
def Keeps (kept : Ty → Prop) : Activity → Prop
  | call target arguments _ => kept target.ty ∧ Argument.All kept arguments
  | bind _ ty | decorate _ ty => kept ty
  | infer _ | check _ | handle _ => True

/-- An activity begins where all types that it can meet have the property. -/
def Sound (kept : Ty → Prop) (point : Activity × Checker) : Prop :=
  point.1.Keeps kept ∧ point.2.scope.Holds kept

section Steps

variable (walk : Check.Walk env kept (Checker.Same kept))

include walk

/-- The types in scope have the property when the activity ends. -/
theorem after_holds {activity : Activity} (sound : Sound kept (activity, checker)) :
    (activity.after env checker).scope.Holds kept := by
  obtain ⟨keeps, holds⟩ := sound
  cases activity with
  | infer expr => exact (walk.looks expr).single holds |>.2
  | call target arguments location =>
    have called := walk.call keeps.1 keeps.2 location
    exact (called.single holds).2
  | bind target ty => exact ((walk.bindTarget target ty keeps).single holds).2
  | decorate decorators ty => exact ((walk.decorate decorators ty keeps).single holds).2
  | check stmt => exact ((walk.checkStmt stmt).single holds).2
  | handle handler => exact ((walk.checkHandler handler).single holds).2

/-- Activities one after another. -/
theorem inOrder_sound {activities : List Activity}
    (each : ∀ activity ∈ activities, activity.Keeps kept) (holds : checker.scope.Holds kept) :
    ∀ point ∈ inOrder env activities checker, Sound kept point := by
  induction activities generalizing checker with
  | nil => simp [inOrder]
  | cons first rest ih =>
    rw [List.forall_mem_cons] at each
    simp only [inOrder, List.forall_mem_cons]
    have here : Sound kept (first, checker) := ⟨each.1, holds⟩
    exact ⟨here, ih each.2 (after_holds walk here)⟩

/-- Expressions one after another. -/
theorem inOrder_infer_sound (exprs : List Expr) (holds : checker.scope.Holds kept) :
    ∀ point ∈ inOrder env (exprs.map infer) checker, Sound kept point := by
  apply inOrder_sound walk _ holds
  rw [List.forall_mem_map]
  exact fun _ _ => True.intro

/-- Statements one after another. -/
theorem inOrder_check_sound (body : List Stmt) (holds : checker.scope.Holds kept) :
    ∀ point ∈ inOrder env (body.map check) checker, Sound kept point := by
  apply inOrder_sound walk _ holds
  rw [List.forall_mem_map]
  exact fun _ _ => True.intro

/-- The preparation of a call. -/
theorem prepareCall_tracks (span : Span) (callee : Expr) (args : List Expr)
    (keywords : List Keyword) :
    Check.Tracks (Checker.Same kept)
      (fun prepared => kept prepared.1.ty ∧ Argument.All kept prepared.2.1)
      (Check.prepareCall env span callee args keywords) := by
  refine (walk.target callee).bind fun target targetInside => ?_
  refine (walk.inferArguments args).bind fun positional positionalInside => ?_
  refine (walk.inferKeywords keywords).bind fun named namedInside => ?_
  refine (walk.locate span).map fun location _ => ⟨targetInside, ?_⟩
  exact positionalInside.append namedInside

/-- The parts of finding a type. -/
theorem partsOfExpr_sound (expr : Expr) (holds : checker.scope.Holds kept) :
    ∀ point ∈ partsOfExpr env checker expr, Sound kept point := by
  have operands := inOrder_infer_sound walk expr.operands holds
  cases expr
  case access span value attr =>
    simp only [partsOfExpr]
    split
    · simp
    · simpa [Sound, Keeps] using holds
  case call span callee args keywords =>
    simp only [partsOfExpr]
    split
    · exact inOrder_infer_sound walk (args.take 1) holds
    · have tracked := (prepareCall_tracks walk span callee args keywords).single holds
      simp only [List.forall_mem_append, List.forall_mem_singleton]
      exact ⟨inOrder_infer_sound walk _ holds, tracked⟩
  case lambda span params body =>
    simp only [partsOfExpr, List.forall_mem_singleton]
    refine ⟨True.intro, ?_⟩
    apply Scope.Holds.setAll holds
    rw [List.forall_mem_map]
    exact fun _ _ => walk.any
  all_goals exact operands

/-- The parts of binding a target. -/
theorem partsOfTarget_sound (target : Expr) {ty : Ty} (inside : kept ty)
    (holds : checker.scope.Holds kept) :
    ∀ point ∈ partsOfTarget env checker ty target, Sound kept point := by
  have items : ∀ items : List Expr, ∀ point ∈ inOrder env
      ((items.zip (Check.elementTypes ty items.length)).map fun entry => bind entry.1 entry.2)
      checker, Sound kept point := by
    intro items
    apply inOrder_sound walk _ holds
    rw [List.forall_mem_map]
    intro entry within
    have member : entry.2 ∈ Check.elementTypes ty items.length := (List.of_mem_zip within).2
    exact walk.hereditary.elementTypes inside items.length entry.2 member
  cases target
  case name => simp [partsOfTarget]
  case tuple _ parts | list _ parts => exact items parts
  case starred _ value =>
    simp only [partsOfTarget, List.forall_mem_singleton]
    exact ⟨(walk.hereditary.list_iff _).mpr walk.any, holds⟩
  all_goals
    simp only [partsOfTarget, List.forall_mem_singleton]
    exact ⟨True.intro, holds⟩

/-- The parts of applying decorators. -/
theorem partsOfDecorators_sound (decorators : List Expr) {ty : Ty} (inside : kept ty)
    (holds : checker.scope.Holds kept) :
    ∀ point ∈ partsOfDecorators env checker ty decorators, Sound kept point := by
  cases decorators with
  | nil => simp [partsOfDecorators]
  | cons decorator rest =>
    have argument : Argument.All kept [⟨.positional, none, ty⟩] := by
      simpa [Argument.All] using inside
    obtain ⟨targetInside, found⟩ := (walk.target decorator).single holds
    obtain ⟨decorated, called⟩ := (walk.call targetInside argument
      (checker.lines.locate decorator.span)).single found
    simp only [partsOfDecorators, List.forall_mem_cons]
    exact ⟨⟨True.intro, holds⟩, ⟨⟨targetInside, argument⟩, found⟩, ⟨decorated, called⟩, by simp⟩

/-- The types in scope after the value of an annotated target. -/
theorem afterValue_holds (declared : Ty) (value : Option Expr) (holds : checker.scope.Holds kept) :
    (afterValue env checker declared value).scope.Holds kept := by
  cases value with
  | none => exact holds
  | some value =>
    have valued := ((walk.infer value).single holds).2
    simp only [afterValue]
    split
    · exact valued
    · exact valued

/-- The parts of checking a statement. -/
theorem partsOfStmt_sound (stmt : Stmt) (holds : checker.scope.Holds kept) :
    ∀ point ∈ partsOfStmt env checker stmt, Sound kept point := by
  have looked : ∀ value : Option Expr,
      ∀ point ∈ value.toList.map fun value => (infer value, checker), Sound kept point := by
    intro value
    rw [List.forall_mem_map]
    exact fun _ _ => ⟨True.intro, holds⟩
  cases stmt with
  | importModules | importFrom | inert => simp [partsOfStmt]
  | function header body =>
    have whole := walk.hereditary.signatureOf walk.variableKept checker header.params header.returns
      header.isAsync
    have inside : (checker.enter.bindAll ((checker.signatureOf header.params header.returns
        header.isAsync).params.filterMap fun param =>
          param.name.map fun name => (name, Checker.boundType param))).scope.Holds kept := by
      apply Scope.Holds.setAll holds
      intro binding within
      obtain ⟨param, member, named⟩ := List.mem_filterMap.mp within
      obtain ⟨name, _, rfl⟩ := Option.map_eq_some_iff.mp named
      exact walk.hereditary.boundType (whole.2 param member)
    simp only [partsOfStmt, List.forall_mem_append, List.forall_mem_singleton]
    refine ⟨inOrder_check_sound walk body inside, ?_, holds⟩
    exact (walk.hereditary.callable_iff _).mpr whole
  | classDef name decorators body =>
    have decorated := ((walk.inferAll decorators).single holds).2
    have defined := decorated.set name (walk.hereditary.classType name)
    simp only [partsOfStmt, List.forall_mem_append]
    exact ⟨inOrder_infer_sound walk decorators holds, inOrder_check_sound walk body defined⟩
  | assign targets value =>
    obtain ⟨inside, valued⟩ := (walk.infer value).single holds
    simp only [partsOfStmt]
    split
    · simp
    · rw [List.forall_mem_cons]
      refine ⟨⟨True.intro, holds⟩, inOrder_sound walk ?_ valued⟩
      rw [List.forall_mem_map]
      exact fun _ _ => inside
  | annotated target hint value =>
    have valued := afterValue_holds walk (TypeHint.read checker.typeVars hint) value holds
    simp only [partsOfStmt, List.forall_mem_append]
    refine ⟨looked value, ?_⟩
    split
    · simp
    · rw [List.forall_mem_singleton]
      exact ⟨True.intro, valued⟩
  | augmented target value => exact inOrder_infer_sound walk [target, value] holds
  | expr value | assert value =>
    simp only [partsOfStmt, List.forall_mem_singleton]
    exact ⟨True.intro, holds⟩
  | ret value | raise value => exact looked value
  | ifThen test body orElse | whileLoop test body orElse =>
    apply inOrder_sound walk _ holds
    simp only [List.forall_mem_append, List.forall_mem_cons, List.forall_mem_map]
    exact ⟨⟨True.intro, fun _ _ => True.intro⟩, fun _ _ => True.intro⟩
  | forLoop target iterable body orElse =>
    obtain ⟨inside, iterated⟩ := (walk.infer iterable).single holds
    simp only [partsOfStmt, List.forall_mem_cons]
    refine ⟨⟨True.intro, holds⟩, inOrder_sound walk ?_ iterated⟩
    simp only [List.forall_mem_append, List.forall_mem_cons, List.forall_mem_map]
    exact ⟨⟨walk.hereditary.element inside, fun _ _ => True.intro⟩, fun _ _ => True.intro⟩
  | withBlock items body =>
    apply inOrder_sound walk _ holds
    simp only [List.forall_mem_append, List.forall_mem_map, List.forall_mem_flatMap,
      List.forall_mem_cons]
    exact ⟨fun _ _ => ⟨True.intro, fun _ _ => walk.any⟩, fun _ _ => True.intro⟩
  | tryBlock body handlers orElse cleanup =>
    apply inOrder_sound walk _ holds
    simp only [List.forall_mem_append, List.forall_mem_map]
    exact ⟨⟨⟨fun _ _ => True.intro, fun _ _ => True.intro⟩, fun _ _ => True.intro⟩,
      fun _ _ => True.intro⟩

/-- The parts of checking an `except` clause. -/
theorem partsOfHandler_sound (handler : Handler) (holds : checker.scope.Holds kept) :
    ∀ point ∈ partsOfHandler env checker handler, Sound kept point := by
  apply inOrder_check_sound walk
  split
  · exact holds.set _ (walk.hereditary.caughtType walk.variableKept _ _)
  · exact holds

/-- The step: from an activity to its parts. -/
theorem parts_sound {activity : Activity} (sound : Sound kept (activity, checker)) :
    ∀ point ∈ activity.parts env checker, Sound kept point := by
  obtain ⟨keeps, holds⟩ := sound
  cases activity with
  | infer expr => exact partsOfExpr_sound walk expr holds
  | call => simp [parts]
  | bind target ty => exact partsOfTarget_sound walk target keeps holds
  | decorate decorators ty => exact partsOfDecorators_sound walk decorators keeps holds
  | check stmt => exact partsOfStmt_sound walk stmt holds
  | handle handler => exact partsOfHandler_sound walk handler holds

end Steps

end Activity

/-! ### The run -/

namespace Checker

section Runs

variable (walk : Check.Walk env kept (Checker.Same kept))

include walk

/-- The types in scope have the property after a module. -/
theorem checkModule_holds (holds : checker.scope.Holds kept) (body : List Stmt) (text : String) :
    (checker.checkModule env body text).scope.Holds kept := by
  have prepared : (checker.prepare text).scope.Holds kept := holds
  exact ((walk.checkBody body).single prepared).2

/-- The types in scope have the property after modules. -/
theorem checkModules_holds (holds : checker.scope.Holds kept) (modules : List CheckedModule) :
    (checker.checkModules env modules).scope.Holds kept := by
  induction modules generalizing checker with
  | nil => exact holds
  | cons module rest ih =>
    exact ih (checkModule_holds walk holds module.body module.text)

/-- The statements of the modules begin soundly. -/
theorem topLevel_sound (holds : checker.scope.Holds kept) (modules : List CheckedModule) :
    ∀ point ∈ checker.topLevel env modules, Activity.Sound kept point := by
  induction modules generalizing checker with
  | nil => simp [topLevel]
  | cons module rest ih =>
    have prepared : (checker.prepare module.text).scope.Holds kept := holds
    simp only [topLevel, List.forall_mem_append]
    exact ⟨Activity.inOrder_check_sound walk module.body prepared,
      ih (checkModule_holds walk holds module.body module.text)⟩

/-- The run: everything that occurs begins soundly. -/
theorem sound_of_occurs {start : Checker} (holds : start.scope.Holds kept)
    {modules : List CheckedModule} {activity : Activity}
    (occurs : start.Occurs env modules activity checker) :
    Activity.Sound kept (activity, checker) := by
  induction occurs with
  | statement within => exact topLevel_sound walk holds modules _ within
  | part occurs within ih =>
    exact Activity.parts_sound walk ih _ within

/-- The context in which a strategy refines a call that occurs. -/
theorem context_of_occurs {start : Checker} (holds : start.scope.Holds kept)
    {modules : List CheckedModule} {target : Check.Target} {arguments : List Argument}
    {location : Location}
    (occurs : start.Occurs env modules (.call target arguments location) checker)
    {accepted : AcceptedCall}
    (accepts : target.ty.acceptCall target.name arguments location = .ok (some accepted))
    (fullName : String) :
    (Check.contextOf fullName accepted arguments checker.file location).All kept := by
  obtain ⟨⟨targetInside, all⟩, _⟩ := sound_of_occurs walk holds occurs
  have answer := walk.hereditary.acceptCall targetInside all target.name location
  rw [accepts] at answer
  exact walk.hereditary.contextOf (answer accepted rfl) all fullName checker.file location

/-- Every type that is held has the property. -/
theorem kept_of_holds {start : Checker} (holds : start.scope.Holds kept)
    {modules : List CheckedModule} {ty : Ty} (held : Checker.Holds env start modules ty) :
    kept ty := by
  cases held with
  | defined found => exact walk.index _ ty found
  | scope occurs found => exact (sound_of_occurs walk holds occurs).2 _ ty found
  | scopeAfter occurs found =>
    exact Activity.after_holds walk (sound_of_occurs walk holds occurs) _ ty found
  | final found => exact checkModules_holds walk holds modules _ ty found
  | inferred occurs =>
    exact ((walk.infer _).single (sound_of_occurs walk holds occurs).2).1
  | @given _ _ _ _ _ fullName _ _ occurs accepts _ _ within =>
    have all := context_of_occurs walk holds occurs accepts fullName
    simp only [CallContext.types, List.mem_append, List.mem_flatten, List.mem_cons,
      List.not_mem_nil, or_false] at within
    rcases within with ⟨group, member, inside⟩ | rfl | rfl
    · exact all.arguments group member ty inside
    · exact all.callee
    · exact all.defaultType
  | @refined _ _ _ _ _ fullName strategy _ occurs accepts _ _ answer =>
    have all := context_of_occurs walk holds occurs accepts fullName
    have refined := walk.hereditary.analyze strategy all
    rw [answer] at refined
    exact refined

end Runs

end Checker

/-! ### The index -/

namespace ModuleIndex

/-- Adding a module that exports types with the property. -/
theorem Holds.add {index : ModuleIndex} (holds : index.Holds kept) (module : String)
    {exports : Exports} (each : ∀ definition ∈ exports.definitions, kept definition.2) :
    (index.add module exports).Holds kept := by
  have stored : ∀ (definitions : List (String × Ty)) (known : NameMap Ty),
      (∀ definition ∈ definitions, kept definition.2) →
      (∀ fullName ty, known.find? fullName = some ty → kept ty) →
      ∀ fullName ty, (definitions.foldl (fun known definition =>
        known.insert (qualified module definition.1) definition.2) known).find? fullName = some ty →
          kept ty := by
    intro definitions
    induction definitions with
    | nil => exact fun _ _ known => known
    | cons first rest ih =>
      intro known each before
      rw [List.forall_mem_cons] at each
      apply ih _ each.2
      intro fullName ty found
      rw [NameMap.find?_insert] at found
      split at found
      · cases found
        exact each.1
      · exact before fullName ty found
  exact stored exports.definitions index.definitions each holds

/-- Adding a stub. -/
theorem Holds.addStub (hereditary : Ty.Hereditary kept)
    (variableKept : ∀ name, kept (.typeVar name)) {index : ModuleIndex}
    (holds : index.Holds kept) (stub : String × String) :
    (index.addStub stub).Holds kept := by
  obtain ⟨module, text⟩ := stub
  simp only [ModuleIndex.addStub]
  split
  · exact holds
  · rename_i body _
    apply holds.add
    intro definition within
    obtain ⟨name, _, found⟩ := List.mem_filterMap.mp within
    obtain ⟨ty, bound, rfl⟩ := Option.map_eq_some_iff.mp found
    have walk : Check.Walk { index } kept (Checker.Same kept) :=
      Check.walk_same hereditary variableKept holds
    have fresh : ({ file := "<stub " ++ module ++ ">" } : Checker).scope.Holds kept := by
      intro name ty found
      cases found
    exact Checker.checkModule_holds walk fresh body text name ty bound

/-- The index of stubs, whatever they are. -/
theorem holds_ofStubs (hereditary : Ty.Hereditary kept)
    (variableKept : ∀ name, kept (.typeVar name)) (stubs : List (String × String)) :
    (ofStubs stubs).Holds kept := by
  have added : ∀ (stubs : List (String × String)) (index : ModuleIndex), index.Holds kept →
      (stubs.foldl addStub index).Holds kept := by
    intro stubs
    induction stubs with
    | nil => exact fun _ holds => holds
    | cons first rest ih =>
      intro index holds
      exact ih _ (holds.addStub hereditary variableKept first)
  apply added stubs
  intro fullName ty found
  cases found

end ModuleIndex

/-! ### Canonical types -/

/-- Every type that a checker holds while it checks modules one after another, with any plugins and
against the index of any stubs, is canonical. -/
theorem Checker.isCanonical_of_holds (stubs : List (String × String)) (plugins : List Plugin)
    (file : String) (collector : Collector) (showRevealed : Bool) (modules : List CheckedModule)
    {ty : Ty}
    (held : Checker.Holds { plugins, index := .ofStubs stubs } { file, collector, showRevealed }
      modules ty) :
    ty.isCanonical = true := by
  have hereditary := Ty.Hereditary.isCanonical
  have variableKept : ∀ name, (Ty.typeVar name).isCanonical = true := fun _ => rfl
  have index := ModuleIndex.holds_ofStubs hereditary variableKept stubs
  have fresh : ({ file, collector, showRevealed } : Checker).scope.Holds
      (fun ty => ty.isCanonical = true) := by
    intro name ty found
    cases found
  exact kept_of_holds (Check.walk_same hereditary variableKept index) fresh held

/-- `1 if True else ""`, somewhere in a text. -/
def integerOrText : Expr :=
  .conditional default (.literal default .bool) (.literal default (.int 1))
    (.literal default (.str ""))

/-- The expression is looked at while `x = 1 if True else ""` is checked; its type is a union. -/
theorem Checker.isCanonical_of_integerOrText :
    Checker.Holds { index := .ofStubs [] } {} [⟨[.assign [.name default "x"] integerOrText], ""⟩]
        (.union [.int, .str]) ∧
      (Ty.union [.int, .str]).isCanonical = true := by
  let env : Environment := { index := .ofStubs [] }
  let module : CheckedModule := ⟨[.assign [.name default "x"] integerOrText], ""⟩
  have assigned : Occurs env {} [module] (.check (.assign [.name default "x"] integerOrText))
      (({} : Checker).prepare "") := .statement List.mem_cons_self
  have occurs : Occurs env {} [module] (.infer integerOrText) (({} : Checker).prepare "") :=
    .part assigned List.mem_cons_self
  have found : ((Check.infer env integerOrText).run (({} : Checker).prepare "")).1 =
      .union [.int, .str] := by decide +kernel
  have held : Checker.Holds env {} [module] (.union [.int, .str]) := found ▸ .inferred occurs
  exact ⟨held, Checker.isCanonical_of_holds [] [] _ _ _ _ held⟩

end Callwise
