import Callwise.Proofs.Call.OwnVariables
import Callwise.Proofs.Substitution.Instances

/-!
# What a call makes of a declared type

A call replaces the variables of a declared type twice: first those that have a value by it, then
those that the signature declares and that have none by `Never`. The second replacement goes over
the result of the first, so it also sees the variables that came in with the values.

`Ty.replaceVars` replaces all variables at once and looks at nothing that it has put in. On a type
without unions and without containers passed as types, two substitutions in a row are one such
replacement. So instantiating is the replacement that keeps the values as they are exactly if no
value mentions a declared variable that has no value itself. Only names are compared: a variable of
the caller that happens to be named like an unsolved variable of the callee is erased with it.
-/

namespace Callwise

/-! ### Replacing all variables at once -/

mutual

/-- The type with another type in place of each variable. Nothing else is changed, and what has been
put in is not looked at again. -/
def Ty.replaceVars (value : String → Ty) : Ty → Ty
  | .typeVar name => value name
  | .list item => .list (item.replaceVars value)
  | .tuple items => .tuple (Ty.replaceVarsIn value items)
  | .dict key item => .dict (key.replaceVars value) (item.replaceVars value)
  | .union members => .union (Ty.replaceVarsIn value members)
  | .generic name args => .generic name (Ty.replaceVarsIn value args)
  | .callable signature => .callable (signature.replaceVars value)
  | .overloaded signatures => .overloaded (Signature.replaceVarsIn value signatures)
  | other => other

/-- Replace the variables of several types. -/
def Ty.replaceVarsIn (value : String → Ty) : List Ty → List Ty
  | [] => []
  | first :: rest => first.replaceVars value :: Ty.replaceVarsIn value rest

/-- Replace the variables of a signature. -/
def Signature.replaceVars (value : String → Ty) : Signature → Signature
  | ⟨params, ret⟩ => ⟨Param.replaceVarsIn value params, ret.replaceVars value⟩

/-- Replace the variables of several signatures. -/
def Signature.replaceVarsIn (value : String → Ty) : List Signature → List Signature
  | [] => []
  | first :: rest => first.replaceVars value :: Signature.replaceVarsIn value rest

/-- Replace the variables of a parameter's type. -/
def Param.replaceVars (value : String → Ty) : Param → Param
  | ⟨name, kind, ty⟩ => ⟨name, kind, ty.replaceVars value⟩

/-- Replace the variables of several parameters. -/
def Param.replaceVarsIn (value : String → Ty) : List Param → List Param
  | [] => []
  | first :: rest => first.replaceVars value :: Param.replaceVarsIn value rest

end

section

variable (value other : String → Ty)

/-- Replacing in several types replaces in each. -/
theorem Ty.replaceVarsIn_eq_map (types : List Ty) :
    Ty.replaceVarsIn value types = types.map (Ty.replaceVars value) := by
  induction types with
  | nil => rfl
  | cons first rest ih => simp [Ty.replaceVarsIn, ih]

/-- Replacing in several parameters replaces in each. -/
theorem Param.replaceVarsIn_eq_map (params : List Param) :
    Param.replaceVarsIn value params = params.map (Param.replaceVars value) := by
  induction params with
  | nil => rfl
  | cons first rest ih => simp [Param.replaceVarsIn, ih]

/-- Replacing in several signatures replaces in each. -/
theorem Signature.replaceVarsIn_eq_map (signatures : List Signature) :
    Signature.replaceVarsIn value signatures = signatures.map (Signature.replaceVars value) := by
  induction signatures with
  | nil => rfl
  | cons first rest ih => simp [Signature.replaceVarsIn, ih]

/-- Two replacements in a parameter have the same result if they have it in its type. -/
theorem Param.replaceVars_eq_iff (param : Param) :
    param.replaceVars value = param.replaceVars other ↔
      param.ty.replaceVars value = param.ty.replaceVars other := by
  cases param
  simp [Param.replaceVars]

/-- Two replacements in a signature have the same result if they have it directly inside. -/
theorem Signature.replaceVars_eq_iff_components (signature : Signature) :
    signature.replaceVars value = signature.replaceVars other ↔
      ∀ part ∈ signature.components, part.replaceVars value = part.replaceVars other := by
  obtain ⟨params, ret⟩ := signature
  simp only [Signature.replaceVars, Signature.mk.injEq, Param.replaceVarsIn_eq_map,
    List.map_inj_left, Param.replaceVars_eq_iff, Signature.components, List.forall_mem_cons,
    List.forall_mem_map]
  exact and_comm

/-- Two replacements in a type that is no variable have the same result if they have it directly
inside. -/
theorem Ty.replaceVars_eq_iff_components {ty : Ty} (solid : ∀ name, ty ≠ .typeVar name) :
    ty.replaceVars value = ty.replaceVars other ↔
      ∀ part ∈ ty.components, part.replaceVars value = part.replaceVars other := by
  cases ty
  case typeVar name => exact absurd rfl (solid name)
  case overloaded signatures =>
    simp only [Ty.replaceVars, Ty.overloaded.injEq, Signature.replaceVarsIn_eq_map,
      List.map_inj_left, Signature.replaceVars_eq_iff_components, Ty.components, List.mem_flatMap]
    constructor
    · rintro each part ⟨signature, within, inside⟩
      exact each signature within part inside
    · intro each signature within part inside
      exact each part ⟨signature, within, inside⟩
  all_goals
    simp [Ty.replaceVars, Ty.components, Ty.replaceVarsIn_eq_map,
      Signature.replaceVars_eq_iff_components]

/-- Two replacements in a type have the same result exactly if they agree on its variables. -/
theorem Ty.replaceVars_eq_iff (ty : Ty) :
    ty.replaceVars value = ty.replaceVars other ↔
      ∀ name ∈ ty.typeVarOccurrences, value name = other name := by
  by_cases bare : ∃ name, ty = .typeVar name
  · obtain ⟨name, rfl⟩ := bare
    simp [Ty.replaceVars, Ty.typeVarOccurrences]
  · have solid : ∀ name, ty ≠ .typeVar name := fun name same => bare ⟨name, same⟩
    have parts : ∀ part ∈ ty.components,
        (part.replaceVars value = part.replaceVars other ↔
          ∀ name ∈ part.typeVarOccurrences, value name = other name) := by
      intro part member
      have smaller := Ty.sizeOf_component_lt member
      exact Ty.replaceVars_eq_iff part
    rw [Ty.replaceVars_eq_iff_components value other solid]
    constructor
    · intro same name occurs
      rcases (Ty.mem_typeVarOccurrences ty name).mp occurs with root | ⟨part, member, inside⟩
      · exact absurd root (solid name)
      · exact (parts part member).mp (same part member) name inside
    · intro agree part member
      apply (parts part member).mpr
      intro name inside
      exact agree name ((Ty.mem_typeVarOccurrences ty name).mpr (.inr ⟨part, member, inside⟩))
termination_by sizeOf ty

end

/-! ### Two substitutions in a row -/

/-- The type is one of several types. -/
def Ty.isUnion : Ty → Bool
  | .union _ => true
  | _ => false

/-- No union stands anywhere inside. -/
def Ty.isUnionFree (ty : Ty) : Bool := ty.everywhere fun part => !part.isUnion

namespace Substitution

/-- Applying to several signatures applies to each. -/
theorem applySignatures_eq_map (subst : Substitution) (signatures : List Signature) :
    subst.applySignatures signatures = signatures.map subst.applySignature := by
  induction signatures with
  | nil => rfl
  | cons first rest ih => simp [applySignatures, ih]

/-- Two substitutions in a row are one replacement on a signature if they are on the types directly
inside. -/
theorem applySignature_applySignature {first second : Substitution} {value : String → Ty}
    {signature : Signature} (parts : ∀ part ∈ signature.components,
      second.apply (first.apply part) = part.replaceVars value) :
    second.applySignature (first.applySignature signature) = signature.replaceVars value := by
  obtain ⟨params, ret⟩ := signature
  have result := parts ret List.mem_cons_self
  have each : ∀ param ∈ params,
      second.applyParam (first.applyParam param) = param.replaceVars value := by
    intro param member
    have type := parts param.ty (List.mem_cons_of_mem _ (List.mem_map_of_mem member))
    cases param
    simpa [applyParam, Param.replaceVars] using type
  simpa [applySignature, Signature.replaceVars, applyParams_eq_map, Param.replaceVarsIn_eq_map,
    result] using each

/-- Two substitutions in a row, on a type without unions and without containers passed as types,
replace each variable by what the second makes of the value that the first gives it. -/
theorem apply_apply (first second : Substitution) (ty : Ty) (unionFree : ty.isUnionFree = true)
    (kindFree : ty.isKindFree = true) :
    second.apply (first.apply ty) =
      ty.replaceVars fun name => second.apply (first.apply (.typeVar name)) := by
  obtain ⟨single, unionFreeInside⟩ := (Ty.everywhere_iff_components ty).mp unionFree
  obtain ⟨ordinary, kindFreeInside⟩ := (Ty.everywhere_iff_components ty).mp kindFree
  have parts : ∀ part ∈ ty.components, second.apply (first.apply part) =
      part.replaceVars fun name => second.apply (first.apply (.typeVar name)) := by
    intro part member
    have smaller := Ty.sizeOf_component_lt member
    exact apply_apply first second part (unionFreeInside part member) (kindFreeInside part member)
  cases ty
  case union members => cases single
  case list item =>
    have inner := parts item List.mem_cons_self
    simp only [apply, Ty.replaceVars] at inner ⊢
    rw [inner]
  case dict key item =>
    have keys := parts key List.mem_cons_self
    have items := parts item (List.mem_cons_of_mem _ List.mem_cons_self)
    simp only [apply, Ty.replaceVars] at keys items ⊢
    rw [keys, items]
  case tuple items =>
    have each : ∀ item ∈ items, _ := parts
    simpa [apply, Ty.replaceVars, applyList_eq_map, Ty.replaceVarsIn_eq_map] using each
  case generic name args =>
    have notKind : (name == kindName) = false := by simpa [Ty.isKind] using ordinary
    have each : ∀ arg ∈ args, _ := parts
    simpa [apply, notKind, Ty.replaceVars, applyList_eq_map, Ty.replaceVarsIn_eq_map] using each
  case callable signature =>
    simp only [apply, Ty.replaceVars, applySignature_applySignature parts]
  case overloaded signatures =>
    have each : ∀ signature ∈ signatures, second.applySignature (first.applySignature signature) =
        signature.replaceVars fun name => second.apply (first.apply (.typeVar name)) := by
      intro signature within
      apply applySignature_applySignature
      intro part inside
      exact parts part (List.mem_flatMap.mpr ⟨signature, within, inside⟩)
    simpa [apply, Ty.replaceVars, applySignatures_eq_map, Signature.replaceVarsIn_eq_map] using each
  all_goals simp only [apply, Ty.replaceVars]
termination_by sizeOf ty

/-! ### Values and unsolved variables -/

/-- Erasing leaves a canonical type without containers passed as types as it is exactly if it
mentions none of the erased variables. -/
theorem erasing_apply_eq_self_iff (vars : List String) {ty : Ty} (canonical : ty.isCanonical = true)
    (kindFree : ty.isKindFree = true) :
    (erasing vars).apply ty = ty ↔ ∀ name ∈ ty.typeVarOccurrences, name ∉ vars := by
  constructor
  · intro same name occurs
    rw [← same] at occurs
    exact (not_mem_of_mem_erasing occurs).2
  · intro foreign
    apply apply_eq_self _ ty canonical kindFree
    intro name occurs
    rw [find?_erasing, if_neg (foreign name occurs)]

/-- Erasing makes `Never` of an erased variable. -/
theorem erasing_apply_typeVar {vars : List String} {name : String} (listed : name ∈ vars) :
    (erasing vars).apply (.typeVar name) = .never := by
  rw [apply, find?_erasing, if_pos listed]
  rfl

/-- Let the values be canonical and without containers passed as types, and let the variables of a
type without unions and such containers be declared. Then instantiating the type replaces each
variable that has a value by exactly that value and each other one by `Never`, if and only if no
value of a variable in the type mentions a declared variable that has no value. -/
theorem instantiate_eq_replaceVars_iff {subst : Substitution}
    (values : subst.Holds fun value => value.isCanonical = true ∧ value.isKindFree = true)
    {declared : Signature} {ty : Ty} (unionFree : ty.isUnionFree = true)
    (kindFree : ty.isKindFree = true)
    (own : ∀ name ∈ ty.freeTypeVars, name ∈ declared.freeTypeVars) :
    subst.instantiate declared ty =
        ty.replaceVars (fun name => (subst.find? name).getD .never) ↔
      ∀ name ∈ ty.freeTypeVars, ∀ value, subst.find? name = some value →
        ∀ inner ∈ value.freeTypeVars, inner ∈ declared.freeTypeVars →
          subst.contains inner = true := by
  have listed : ∀ name, name ∈ declared.freeTypeVars.filter (fun var => !subst.contains var) ↔
      name ∈ declared.freeTypeVars ∧ subst.contains name = false := by
    simp [List.mem_filter]
  simp only [instantiate, apply_apply subst _ ty unionFree kindFree, Ty.replaceVars_eq_iff]
  simp only [Ty.freeTypeVars, List.mem_eraseDups] at own ⊢
  refine forall_congr' fun name => forall_congr' fun occurs => ?_
  cases found : subst.find? name with
  | none =>
    -- a variable without a value is erased, and nothing is asked of it
    have unsolved := (listed name).mpr ⟨own name occurs, by simp [NameMap.contains, found]⟩
    have kept : subst.apply (.typeVar name) = .typeVar name := by simp [apply, found]
    simp [kept, erasing_apply_typeVar unsolved]
  | some value =>
    have solved : subst.apply (.typeVar name) = value := by simp [apply, found]
    obtain ⟨canonical, valueKindFree⟩ := values name value found
    rw [solved, Option.getD_some, erasing_apply_eq_self_iff _ canonical valueKindFree]
    simp only [listed, not_and, Bool.not_eq_false, Option.some.injEq, forall_eq']

/-- A function that may raise is wrapped: its declared result has the variable `V` of the wrapped
function and the unsolved variable `E`. The wrapped function returns an optional `T`, a variable of
its own, which stays in the result; `E` is erased. -/
theorem instantiate_keeps_optional_of_wrapped :
    Holds (fun value => value.isCanonical = true ∧ value.isKindFree = true)
        (empty.insert "V" (.union [.typeVar "T", .none])) ∧
      instantiate (empty.insert "V" (.union [.typeVar "T", .none]))
        (.ofTypes [.callable (.ellipsis (.typeVar "V"))]
          (.callable (.ellipsis (.generic "Result" [.typeVar "V", .typeVar "E"]))))
        (.callable (.ellipsis (.generic "Result" [.typeVar "V", .typeVar "E"]))) =
      .callable (.ellipsis (.generic "Result" [.union [.typeVar "T", .none], .never])) := by
  have values : Holds (fun value => value.isCanonical = true ∧ value.isKindFree = true)
      (empty.insert "V" (.union [.typeVar "T", .none])) :=
    holds_empty.insert "V" (by decide +kernel)
  refine ⟨values, ?_⟩
  refine ((instantiate_eq_replaceVars_iff values (by decide) (by decide) (by decide)).mpr ?_).trans
    (by decide)
  intro name _ value found inner occurs own
  rw [NameMap.find?_insert] at found
  split at found
  · cases found
    have isT : inner ∈ ["T"] := occurs
    obtain rfl := List.mem_singleton.mp isT
    exact absurd own (by decide)
  · cases found

/-- The wrapped function returns a variable that is named like the unsolved variable of the
wrapper. It is a value and not unsolved, but erased all the same. -/
theorem instantiate_erases_namesake :
    instantiate (empty.insert "V" (.typeVar "E"))
        (.ofTypes [.callable (.ellipsis (.typeVar "V"))]
          (.generic "Result" [.typeVar "V", .typeVar "E"]))
        (.generic "Result" [.typeVar "V", .typeVar "E"]) = .generic "Result" [.never, .never] ∧
      (Ty.generic "Result" [.typeVar "V", .typeVar "E"]).replaceVars
        (fun name => ((empty.insert "V" (.typeVar "E")).find? name).getD .never) =
          .generic "Result" [.typeVar "E", .never] := by
  decide +kernel

end Substitution

end Callwise
