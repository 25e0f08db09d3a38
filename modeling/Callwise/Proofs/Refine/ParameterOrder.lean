import Callwise.Proofs.Call.CallOutcome
import Callwise.Proofs.Refine.PartialAgreement

/-!
# The order of parameters after partial application

The parameters of a function stand in a fixed order: required positional ones, optional ones, at
most one star, those that only a name reaches, and at most one double star. `partial` drops the
parameters that are filled and lets only a name reach the positional ones behind one that is filled
by name. Those now belong behind the star parameter, but they are left where they were. So the order
is kept exactly if the function has no star parameter, or if no positional parameter stays open
behind one that is given by name.
-/

namespace Callwise

/-! ### Order -/

namespace ParamKind

/-- The section of a parameter list in which parameters of this kind stand. -/
def rank : ParamKind → Nat
  | positional => 0
  | optional => 1
  | star => 2
  | named | namedOptional => 3
  | doubleStar => 4

/-- A parameter of the one kind may stand in front of one of the other kind. The two sections for
collecting parameters have room for one. -/
def mayPrecede (earlier later : ParamKind) : Bool :=
  earlier.rank < later.rank || (earlier.rank == later.rank && !earlier.isVariadic)

/-- What may stand behind a parameter may do so when only a name reaches it. -/
theorem mayPrecede_toNamed {earlier later : ParamKind} (before : earlier.mayPrecede later = true) :
    earlier.mayPrecede later.toNamed = true := by
  revert before
  cases earlier <;> cases later <;> decide

/-- Only a star parameter is in the way when names alone reach both parameters. -/
theorem toNamed_mayPrecede_toNamed {earlier later : ParamKind}
    (before : earlier.mayPrecede later = true) (single : later ≠ .star) :
    earlier.toNamed.mayPrecede later.toNamed = true := by
  revert before single
  cases earlier <;> cases later <;> decide

/-- Where only names can be used, nothing stands in front of a star parameter. -/
theorem toNamed_mayPrecede_star (kind : ParamKind) : kind.toNamed.mayPrecede .star = false := by
  cases kind <;> rfl

/-- No positional parameter and no second star parameter stands behind a star parameter. -/
theorem of_star_mayPrecede {later : ParamKind} (before : mayPrecede .star later = true) :
    later.isPositional = false ∧ later ≠ .star := by
  revert before
  cases later <;> decide

/-- Names already had to be used for the parameters that are not positional. -/
theorem toNamed_of_isPositional_eq_false {kind : ParamKind} (other : kind.isPositional = false) :
    kind.toNamed = kind := by
  revert other
  cases kind <;> decide

end ParamKind

namespace Param

/-- The parameters stand in the order in which they can be declared. -/
def InOrder (params : List Param) : Prop :=
  params.Pairwise fun earlier later => earlier.kind.mayPrecede later.kind = true

instance (params : List Param) : Decidable (InOrder params) :=
  inferInstanceAs (Decidable (List.Pairwise _ _))

/-- Of ordered parameters none that is positional stands behind a star parameter. -/
theorem InOrder.positional_first {params : List Param} (ordered : InOrder params) :
    params.Pairwise fun earlier later =>
      earlier.kind = .star → later.kind.isPositional = false := by
  refine List.Pairwise.imp ?_ ordered
  intro earlier later before star
  rw [star] at before
  exact (ParamKind.of_star_mayPrecede before).1

end Param

namespace PartialCall

variable {context : CallContext} {entries : List (Param × Filling)}

/-! ### What is left in order -/

/-- A positional parameter that has received nothing. -/
def IsOpenPosition (entry : Param × Filling) : Prop :=
  entry.1.kind.isPositional = true ∧ entry.2 = .free

/-- A positional parameter that is filled by name. -/
def IsNamedPosition (entry : Param × Filling) : Prop :=
  entry.1.kind.isPositional = true ∧ entry.2 = .byName

/-- Where a parameter that is left comes from. -/
theorem exists_of_mem_remaining {subst : Substitution} {namesOnly : Bool} {left : Param}
    (member : left ∈ remaining subst entries namesOnly) :
    ∃ entry ∈ entries, left.kind = entry.1.kind.toNamed ∨
      (namesOnly = false ∧ left.kind = entry.1.kind) := by
  induction entries generalizing namesOnly with
  | nil => cases member
  | cons entry entries ih =>
    obtain ⟨param, filling⟩ := entry
    cases filling with
    | byPosition =>
      obtain ⟨entry, within, kind⟩ := ih member
      exact ⟨entry, List.mem_cons_of_mem _ within, kind⟩
    | byName =>
      obtain ⟨entry, within, kind⟩ := ih member
      refine ⟨entry, List.mem_cons_of_mem _ within, kind.imp_right ?_⟩
      rintro ⟨unset, same⟩
      exact ⟨(Bool.or_eq_false_iff.mp unset).1, same⟩
    | free =>
      rcases List.mem_cons.mp member with rfl | later
      · refine ⟨(param, .free), List.mem_cons_self, ?_⟩
        cases namesOnly with
        | true => exact .inl rfl
        | false => exact .inr ⟨rfl, rfl⟩
      · obtain ⟨entry, within, kind⟩ := ih later
        exact ⟨entry, List.mem_cons_of_mem _ within, kind⟩

/-- A star parameter is left as one. -/
theorem exists_star_remaining (subst : Substitution)
    (collects : ∀ entry ∈ entries, entry.1.kind.isVariadic = true → entry.2 = .free)
    (starred : Param.isStarred (entries.map Prod.fst) = true) (namesOnly : Bool) :
    ∃ left ∈ remaining subst entries namesOnly, left.kind = .star := by
  induction entries generalizing namesOnly with
  | nil => cases starred
  | cons entry entries ih =>
    obtain ⟨param, filling⟩ := entry
    rw [List.forall_mem_cons] at collects
    cases star : param.kind == .star with
    | true =>
      have isStar : param.kind = .star := beq_iff_eq.mp star
      obtain rfl : filling = .free := collects.1 (by rw [isStar]; rfl)
      refine ⟨_, List.mem_cons_self, ?_⟩
      cases namesOnly <;> simp [isStar, ParamKind.toNamed]
    | false =>
      rw [List.map_cons, Param.isStarred_cons star] at starred
      cases filling with
      | byPosition => exact ih collects.2 starred namesOnly
      | byName => exact ih collects.2 starred _
      | free =>
        obtain ⟨left, member, kind⟩ := ih collects.2 starred namesOnly
        exact ⟨left, List.mem_cons_of_mem _ member, kind⟩

/-- A parameter that keeps its kind stays in front of what is left. -/
theorem inOrder_remaining_cons_iff (subst : Substitution) {param : Param}
    (front : ∀ entry ∈ entries, param.kind.mayPrecede entry.1.kind = true) {namesOnly : Bool}
    (kept : (namesOnly && param.kind.isPositional) = false) :
    Param.InOrder (remaining subst ((param, .free) :: entries) namesOnly) ↔
      Param.InOrder (remaining subst entries namesOnly) := by
  have same : (if namesOnly then param.kind.toNamed else param.kind) = param.kind := by
    cases namesOnly with
    | true => exact ParamKind.toNamed_of_isPositional_eq_false kept
    | false => rfl
  simp only [remaining, Param.InOrder, List.pairwise_cons, same, and_iff_right_iff_imp]
  intro _ left member
  obtain ⟨entry, within, kind | ⟨_, kind⟩⟩ := exists_of_mem_remaining member
  · rw [kind]
    exact ParamKind.mayPrecede_toNamed (front entry within)
  · rw [kind]
    exact front entry within

/-- A former positional parameter may stand in front of what is left behind it exactly if there is
no star parameter. -/
theorem forall_mayPrecede_remaining_iff (subst : Substitution) {kind : ParamKind}
    (front : ∀ entry ∈ entries, kind.mayPrecede entry.1.kind = true)
    (collects : ∀ entry ∈ entries, entry.1.kind.isVariadic = true → entry.2 = .free) :
    (∀ left ∈ remaining subst entries true, kind.toNamed.mayPrecede left.kind = true) ↔
      Param.isStarred (entries.map Prod.fst) = false := by
  constructor
  · intro ordered
    rw [Bool.eq_false_iff]
    intro starred
    obtain ⟨left, member, star⟩ := exists_star_remaining subst collects starred true
    have before := ordered left member
    rw [star, ParamKind.toNamed_mayPrecede_star] at before
    cases before
  · intro unstarred left member
    obtain ⟨entry, within, same | ⟨unset, _⟩⟩ := exists_of_mem_remaining member
    · have single : entry.1.kind ≠ .star :=
        Param.isStarred_eq_false_iff.mp unstarred entry.1 (List.mem_map_of_mem within)
      rw [same]
      exact ParamKind.toNamed_mayPrecede_toNamed (front entry within) single
    · cases unset

/-- What is left of ordered parameters is in order exactly if there is no star parameter, or if no
positional parameter is open where only names can be used. -/
theorem inOrder_remaining_iff (subst : Substitution)
    (ordered : Param.InOrder (entries.map Prod.fst))
    (collects : ∀ entry ∈ entries, entry.1.kind.isVariadic = true → entry.2 = .free)
    (namesOnly : Bool) :
    Param.InOrder (remaining subst entries namesOnly) ↔
      (Param.isStarred (entries.map Prod.fst) = true →
        (namesOnly = true → ∀ entry ∈ entries, ¬ IsOpenPosition entry) ∧
        entries.Pairwise fun earlier later =>
          IsNamedPosition earlier → ¬ IsOpenPosition later) := by
  induction entries generalizing namesOnly with
  | nil => simp [remaining, Param.InOrder, Param.isStarred]
  | cons entry entries ih =>
    obtain ⟨param, filling⟩ := entry
    obtain ⟨front, laterOrdered⟩ := List.pairwise_cons.mp ordered
    rw [List.forall_mem_cons] at collects
    rw [List.forall_mem_map] at front
    have later := ih laterOrdered collects.2
    cases star : param.kind == .star with
    | true =>
      -- Behind a star parameter there is neither another one nor a positional one.
      have isStar : param.kind = .star := beq_iff_eq.mp star
      obtain rfl : filling = .free := collects.1 (by rw [isStar]; rfl)
      have behind : ∀ entry ∈ entries,
          entry.1.kind.isPositional = false ∧ entry.1.kind ≠ .star := by
        intro entry member
        exact ParamKind.of_star_mayPrecede (isStar ▸ front entry member)
      have single : Param.isStarred (entries.map Prod.fst) = false := by
        rw [Param.isStarred_eq_false_iff, List.forall_mem_map]
        exact fun entry member => (behind entry member).2
      have closed : ∀ entry ∈ (param, .free) :: entries, ¬ IsOpenPosition entry := by
        rw [List.forall_mem_cons]
        refine ⟨fun isOpen => ?_, fun entry member isOpen => ?_⟩
        · rw [IsOpenPosition, isStar] at isOpen
          cases isOpen.1
        · rw [IsOpenPosition, (behind entry member).1] at isOpen
          cases isOpen.1
      have kept : (namesOnly && param.kind.isPositional) = false := by
        rw [isStar]
        exact Bool.and_false _
      rw [inOrder_remaining_cons_iff subst front kept, later namesOnly, single]
      refine iff_of_true (fun starred => by cases starred) fun _ => ⟨fun _ => closed, ?_⟩
      exact List.pairwise_of_forall_mem_list fun _ _ entry member _ => closed entry member
    | false =>
      rw [List.map_cons, Param.isStarred_cons star]
      cases filling with
      | byPosition =>
        have rest := later namesOnly
        simp only [remaining, rest, List.forall_mem_cons, List.pairwise_cons, IsOpenPosition,
          IsNamedPosition]
        simp
      | byName =>
        have rest := later (namesOnly || param.kind.isPositional)
        simp only [remaining, rest, List.forall_mem_cons, List.pairwise_cons, IsOpenPosition,
          IsNamedPosition]
        cases namesOnly <;> cases param.kind.isPositional <;> simp
      | free =>
        cases converted : namesOnly && param.kind.isPositional with
        | true =>
          obtain ⟨rfl, positional⟩ := Bool.and_eq_true_iff.mp converted
          have isOpen : IsOpenPosition (param, .free) := ⟨positional, rfl⟩
          have before := forall_mayPrecede_remaining_iff subst front collects.2
          have rest := later true
          rw [Param.InOrder] at rest
          simp only [remaining, if_true, Param.InOrder, List.pairwise_cons, List.forall_mem_cons,
            before, rest, isOpen]
          cases Param.isStarred (entries.map Prod.fst) <;> simp
        | false =>
          rw [inOrder_remaining_cons_iff subst front converted, later namesOnly]
          simp only [List.forall_mem_cons, List.pairwise_cons, IsOpenPosition, IsNamedPosition]
          cases namesOnly <;> simp_all

/-! ### Parameters filled by name -/

/-- A run that has succeeded has followed places that were taken. -/
theorem Follows.exists_of_ok {α β : Type} {results : α → β → Prop} {result : α}
    {places : Except ArgumentError β} (follows : Follows context results (.ok result) places) :
    ∃ taken, places = .ok taken ∧ results result taken := by
  rcases follows with ⟨_, _, _, _, _, _, failed⟩ | alike
  · cases failed
  · cases alike with
    | ok related => exact ⟨_, rfl, related⟩

/-- Positions fill no parameter by name. -/
theorem byName_not_mem_of_fillPositions {params : List Param} {types : List Ty} {index : Nat}
    {subst extended : Substitution} {fillings : List Filling}
    (filled : fillPositions context params types index subst = .ok (fillings, extended)) :
    Filling.byName ∉ fillings := by
  induction params generalizing types index subst fillings with
  | nil =>
    cases types with
    | nil =>
      cases filled
      exact List.not_mem_nil
    | cons found types => cases filled
  | cons param params ih =>
    cases types with
    | nil =>
      cases filled
      simp
    | cons found types =>
      cases positional : param.kind.isPositional with
      | true =>
        rw [fillPositions_cons_of_isPositional context positional] at filled
        obtain ⟨reached, _, walked⟩ := exists_ok_of_bind filled
        obtain ⟨⟨rest, _⟩, later, same⟩ := exists_ok_of_map walked
        cases same
        simpa using ih later
      | false =>
        cases star : param.kind == .star with
        | true =>
          rw [fillPositions_cons_of_star context (beq_iff_eq.mp star)] at filled
          obtain ⟨reached, _, walked⟩ := exists_ok_of_bind filled
          cases walked
          simp
        | false =>
          rw [fillPositions_cons_of_unreached context positional star] at filled
          obtain ⟨⟨rest, _⟩, later, same⟩ := exists_ok_of_map filled
          cases same
          simpa using ih later

/-- A name that is accepted fills its target by name. -/
theorem byName_iff_of_fillName {function : Signature} {name : String} {found : Ty} {index : Nat}
    {fillings after : List Filling} {subst extended : Substitution}
    (length : fillings.length = function.params.length)
    (filled : fillName context function name found index fillings subst = .ok (after, extended)) :
    after.length = function.params.length ∧
      ∀ place : Nat, after[place]? = some .byName ↔
        fillings[place]? = some .byName ∨ Param.IsTarget function.params name place := by
  by_cases answered : ∃ own, Param.IsTarget function.params name own
  · obtain ⟨own, target⟩ := answered
    obtain ⟨param, here, _⟩ := target.1
    have inside := (List.getElem?_eq_some_iff.mp here).1
    have leads : ∀ place, Param.IsTarget function.params name place ↔ own = place :=
      fun place => ⟨target.unique, fun same => same ▸ target⟩
    rw [fillName_of_reached context (Param.indexOfName?_eq_some_iff.mpr target) here] at filled
    split at filled
    · cases filled
    · obtain ⟨reached, _, same⟩ := exists_ok_of_map filled
      cases same
      refine ⟨by rw [List.length_set, length], fun place => ?_⟩
      by_cases same : own = place
      · subst same
        simp [leads, length, inside]
      · simp [leads, same]
  · have unanswered := not_exists.mp answered
    have unreached := Param.indexOfName?_eq_none_iff.mpr unanswered
    cases collects : function.doubleStar? with
    | some param =>
      rw [fillName_of_collected context unreached collects] at filled
      obtain ⟨reached, _, same⟩ := exists_ok_of_map filled
      cases same
      exact ⟨length, fun place => by simp [unanswered place]⟩
    | none =>
      rw [fillName_of_unknown context unreached collects] at filled
      cases filled

/-- Names that are accepted fill their targets by name. -/
theorem byName_iff_of_fillNames {function : Signature} {names : List (String × Ty)} {index : Nat}
    {fillings after : List Filling} {subst extended : Substitution}
    (length : fillings.length = function.params.length)
    (filled : fillNames context function names index fillings subst = .ok (after, extended))
    (place : Nat) :
    after[place]? = some .byName ↔ fillings[place]? = some .byName ∨
      ∃ name ∈ names.map Prod.fst, Param.IsTarget function.params name place := by
  induction names generalizing index fillings subst with
  | nil =>
    cases filled
    simp
  | cons entry names ih =>
    obtain ⟨name, found⟩ := entry
    rw [fillNames_cons] at filled
    obtain ⟨⟨middle, reached⟩, first, later⟩ := exists_ok_of_bind filled
    obtain ⟨middleLength, named⟩ := byName_iff_of_fillName length first
    rw [ih middleLength later, named, List.map_cons, List.exists_mem_cons_iff,
      or_assoc]

/-! ### The order after partial application -/

/-- What is remembered about each parameter after so many positions and these names. -/
structure Records (params : List Param) (count : Nat) (names : List String)
    (fillings : List Filling) : Prop where
  length : fillings.length = params.length
  free_iff : ∀ place < params.length, fillings[place]? = some .free ↔
    ¬ Param.IsPositioned params count place ∧ ∀ name ∈ names, ¬ Param.IsTarget params name place
  byName_iff : ∀ place : Nat, fillings[place]? = some .byName ↔
    ∃ name ∈ names, Param.IsTarget params name place

/-- The names of the arguments that are given by name. -/
def Given.names (given : Given) : List String := given.keywords.map Prod.fst

/-- After `partial` has succeeded, the parameters that are left are those without an argument. -/
theorem Given.exists_records (given : Given) (context : CallContext) {function left : Signature}
    (explicit : function.isEllipsis = false)
    (ordered : function.params.Pairwise fun earlier later =>
      earlier.kind = .star → later.kind.isPositional = false)
    (applied : given.apply context function = .ok left) :
    ∃ fillings subst, Records function.params given.positional.length given.names fillings ∧
      left.params = remaining subst (function.params.zip fillings) false := by
  simp only [Given.apply, explicit, Bool.false_eq_true, if_false] at applied
  obtain ⟨⟨positions, reached⟩, walked, rest⟩ := exists_ok_of_bind applied
  obtain ⟨⟨fillings, subst⟩, named, built⟩ := exists_ok_of_bind rest
  cases built
  have overPositions := fillPositions_follows context ordered given.positional 2 .empty
  rw [walked] at overPositions
  obtain ⟨places, accepted, marked⟩ := overPositions.exists_of_ok
  have overNames := fillNames_follows context marked given.keywords
    (given.positional.length + 2) reached
  rw [named] at overNames
  obtain ⟨taken, run, marks⟩ := overNames.exists_of_ok
  have takes : Param.Takes function.params given.positional.length given.names taken := by
    rcases Param.takePositions_eq function.params given.positional.length with
      ⟨_, refused⟩ | ⟨_, _, alsoAccepted, takes⟩
    · rw [accepted] at refused
      cases refused
    · rw [accepted, Except.ok.injEq] at alsoAccepted
      subst alsoAccepted
      exact takes.foldlM run
  refine ⟨fillings, subst, ⟨marks.length, fun place inside => ?_, fun place => ?_⟩, rfl⟩
  · rw [marks.free_iff place inside, takes place, not_or]
    simp
  · have unnamed : ¬ positions[place]? = some .byName := fun found =>
      byName_not_mem_of_fillPositions walked (List.mem_of_getElem? found)
    rw [byName_iff_of_fillNames marked.length named place]
    simp [unnamed, Given.names]

/-- No argument goes to a place where arguments are collected. -/
theorem Records.free_of_isVariadic {params : List Param} {count : Nat} {names : List String}
    {fillings : List Filling} (records : Records params count names fillings) :
    ∀ entry ∈ params.zip fillings, entry.1.kind.isVariadic = true → entry.2 = .free := by
  rintro ⟨param, filling⟩ member variadic
  obtain ⟨place, found⟩ := List.mem_iff_getElem?.mp member
  obtain ⟨here, filled⟩ := List.getElem?_zip_eq_some.mp found
  have inside := (List.getElem?_eq_some_iff.mp here).1
  have unpositioned : ¬ Param.IsPositioned params count place := by
    rintro ⟨other, alsoHere, positional, _⟩
    obtain rfl : param = other := Option.some.inj (here.symm.trans alsoHere)
    rw [ParamKind.isVariadic_of_isPositional positional] at variadic
    cases variadic
  have untargeted : ∀ name ∈ names, ¬ Param.IsTarget params name place := by
    rintro name _ ⟨⟨other, alsoHere, answers⟩, _⟩
    obtain rfl : param = other := Option.some.inj (here.symm.trans alsoHere)
    rw [Param.answersTo, variadic] at answers
    cases answers
  have free := (records.free_iff place inside).mpr ⟨unpositioned, untargeted⟩
  exact Option.some.inj (filled.symm.trans free)

/-- The positional parameter at this place is given by name. -/
def Given.NamesPosition (given : Given) (params : List Param) (place : Nat) : Prop :=
  ∃ param, params[place]? = some param ∧ param.kind.isPositional = true ∧
    ∃ name ∈ given.names, Param.IsTarget params name place

/-- The positional parameter at this place receives nothing. -/
def Given.LeavesPosition (given : Given) (params : List Param) (place : Nat) : Prop :=
  ∃ param, params[place]? = some param ∧ param.kind.isPositional = true ∧
    ¬ Param.IsPositioned params given.positional.length place ∧
    ∀ name ∈ given.names, ¬ Param.IsTarget params name place

/-- Behind a positional parameter that is given by name, another one receives nothing. -/
def Given.Strands (given : Given) (params : List Param) : Prop :=
  ∃ place later, place < later ∧ given.NamesPosition params place ∧
    given.LeavesPosition params later

/-- What is remembered tells whether a parameter is stranded. -/
theorem Given.pairwise_iff_not_strands {given : Given} {params : List Param}
    {fillings : List Filling}
    (records : Records params given.positional.length given.names fillings) :
    ((params.zip fillings).Pairwise fun earlier later =>
      IsNamedPosition earlier → ¬ IsOpenPosition later) ↔ ¬ given.Strands params := by
  have byName : ∀ place (inside : place < (params.zip fillings).length),
      IsNamedPosition (params.zip fillings)[place] ↔ given.NamesPosition params place := by
    intro place inside
    obtain ⟨here, filled⟩ := List.getElem?_zip_eq_some.mp (List.getElem?_eq_getElem inside)
    have named := records.byName_iff place
    rw [filled, Option.some.injEq] at named
    simp only [IsNamedPosition, NamesPosition, here, named, Option.some.injEq, exists_eq_left']
  have isOpen : ∀ place (inside : place < (params.zip fillings).length),
      IsOpenPosition (params.zip fillings)[place] ↔ given.LeavesPosition params place := by
    intro place inside
    obtain ⟨here, filled⟩ := List.getElem?_zip_eq_some.mp (List.getElem?_eq_getElem inside)
    have free := records.free_iff place (List.getElem?_eq_some_iff.mp here).1
    rw [filled, Option.some.injEq] at free
    simp only [IsOpenPosition, LeavesPosition, here, free, Option.some.injEq, exists_eq_left']
  have inside : ∀ {place param}, params[place]? = some param →
      place < (params.zip fillings).length := by
    intro place param here
    have known := (List.getElem?_eq_some_iff.mp here).1
    rw [List.length_zip, records.length, Nat.min_self]
    exact known
  rw [List.pairwise_iff_getElem]
  constructor
  · rintro apart ⟨place, later, before, named, unfilled⟩
    have here := inside named.choose_spec.1
    have there := inside unfilled.choose_spec.1
    exact apart place later here there before ((byName place here).mpr named)
      ((isOpen later there).mpr unfilled)
  · intro apart place later here there before named unfilled
    exact apart ⟨place, later, before, (byName place here).mp named,
      (isOpen later there).mp unfilled⟩

/-- The parameters that `partial` leaves of an ordered signature are in order exactly if the
signature has no star parameter, or if no positional parameter stays open behind one that is given
by name. -/
theorem Given.left_inOrder_iff (given : Given) (context : CallContext) {function left : Signature}
    (explicit : function.isEllipsis = false) (ordered : Param.InOrder function.params)
    (applied : given.apply context function = .ok left) :
    Param.InOrder left.params ↔
      (Param.isStarred function.params = true → ¬ given.Strands function.params) := by
  obtain ⟨fillings, subst, records, leftParams⟩ :=
    given.exists_records context explicit ordered.positional_first applied
  have listed : (function.params.zip fillings).map Prod.fst = function.params :=
    List.map_fst_zip (Nat.le_of_eq records.length.symm)
  rw [leftParams, inOrder_remaining_iff subst (by rwa [listed]) records.free_of_isVariadic false,
    listed, Given.pairwise_iff_not_strands records]
  simp

/-- `f(a: int, b: str, *rest: int, key: bool) -> str`. -/
def spreading : Signature where
  params := [⟨some "a", .positional, .int⟩, ⟨some "b", .positional, .str⟩,
    ⟨some "rest", .star, .int⟩, ⟨some "key", .named, .bool⟩]
  ret := .str

/-- With `partial(f, b="")` no positional parameter is left behind `b`, and the order is kept. -/
theorem left_inOrder_of_last_named :
    let given : Given := ⟨[], [("b", .str)]⟩
    let left : Signature := ⟨[⟨some "a", .positional, .int⟩, ⟨some "rest", .star, .int⟩,
      ⟨some "key", .named, .bool⟩], .str⟩
    spreading.isEllipsis = false ∧ Param.InOrder spreading.params ∧
      given.apply default spreading = .ok left ∧ ¬ given.Strands spreading.params ∧
      Param.InOrder left.params := by
  intro given left
  have explicit : spreading.isEllipsis = false := by decide +kernel
  have ordered : Param.InOrder spreading.params := by decide +kernel
  have applied : given.apply default spreading = .ok left :=
    toOption_eq_some_iff.mp (by decide +kernel)
  have unstranded : ¬ given.Strands spreading.params := by
    rintro ⟨place, later, before, ⟨_, _, _, name, member, target⟩, ⟨param, there, positional, _⟩⟩
    obtain rfl : name = "b" := List.mem_singleton.mp member
    obtain rfl : place = 1 := target.unique (by decide +kernel)
    have last : ∀ param ∈ spreading.params.drop 2, param.kind.isPositional = false := by
      decide +kernel
    have within : param ∈ spreading.params.drop 2 := by
      have found : (spreading.params.drop 2)[later - 2]? = some param := by
        rw [List.getElem?_drop, Nat.add_sub_cancel' before]
        exact there
      exact List.mem_of_getElem? found
    rw [last param within] at positional
    cases positional
  exact ⟨explicit, ordered, applied, unstranded,
    (given.left_inOrder_iff default explicit ordered applied).mpr fun _ => unstranded⟩

/-- With `partial(f, a=1)` only a name reaches `b`, which is left in front of `*rest`. -/
theorem left_unordered_of_first_named :
    let left : Signature := ⟨[⟨some "b", .named, .str⟩, ⟨some "rest", .star, .int⟩,
      ⟨some "key", .named, .bool⟩], .str⟩
    spreading.isEllipsis = false ∧ Param.InOrder spreading.params ∧
      (Given.mk [] [("a", .int)]).apply default spreading = .ok left ∧
      ¬ Param.InOrder left.params :=
  ⟨by decide +kernel, by decide +kernel, toOption_eq_some_iff.mp (by decide +kernel),
    by decide +kernel⟩

end PartialCall

end Callwise
