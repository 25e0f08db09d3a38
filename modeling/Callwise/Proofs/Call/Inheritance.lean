import Callwise.Call.Binding
import Callwise.Proofs.Substitution.Inheritance

/-!
# Calls keep hereditary properties

If the callee and all arguments have a hereditary property, then so do the signature that accepts
the call and the type of the call. Nothing is asked of the types that the arguments are matched
with. A call that is refused gives an error, never a note.
-/

namespace Callwise

/-! ### Results and errors -/

/-- The result has the property, or a diagnostic that is an error stands in its place. -/
def Answers {α : Type} (value : α → Prop) : Except Diagnostic α → Prop
  | .ok result => value result
  | .error diagnostic => diagnostic.isError = true

namespace Answers

variable {α β : Type} {value : α → Prop} {other : β → Prop}

/-- Changing a result into another. -/
theorem map {answer : Except Diagnostic α} (answers : Answers value answer) {change : α → β}
    (changed : ∀ result, value result → other (change result)) :
    Answers other (answer.map change) := by
  cases answer with
  | error diagnostic => exact answers
  | ok result => exact changed result answers

/-- Going on with a result. -/
theorem bind {answer : Except Diagnostic α} (answers : Answers value answer)
    {next : α → Except Diagnostic β}
    (continued : ∀ result, value result → Answers other (next result)) :
    Answers other (answer >>= next) := by
  cases answer with
  | error diagnostic => exact answers
  | ok result => exact continued result answers

/-- A result that there is. -/
theorem ofToOption {answer : Except Diagnostic α} (answers : Answers value answer) {result : α}
    (found : answer.toOption = some result) : value result := by
  cases answer with
  | error diagnostic => cases found
  | ok reached =>
    obtain rfl : reached = result := by simpa [Except.toOption] using found
    exact answers

end Answers

/-- Arguments that do not fit are an error. -/
theorem ArgumentError.isError_toDiagnostic (error : ArgumentError) (callee : String)
    (formals : List Param) (location : Location) :
    (error.toDiagnostic callee formals location).isError = true := by
  cases error <;> rfl

/-! ### The types of calls -/

variable {kept : Ty → Prop}

/-- All arguments have types with the property. -/
def Argument.All (kept : Ty → Prop) (arguments : List Argument) : Prop :=
  ∀ argument ∈ arguments, kept argument.ty

/-- Arguments behind other arguments. -/
theorem Argument.All.append {first second : List Argument} (firstAll : Argument.All kept first)
    (secondAll : Argument.All kept second) : Argument.All kept (first ++ second) := by
  intro argument within
  rcases List.mem_append.mp within with early | late
  · exact firstAll argument early
  · exact secondAll argument late

/-- The signature that accepts a call and the type of the call have the property. -/
structure AcceptedCall.All (kept : Ty → Prop) (call : AcceptedCall) : Prop where
  signature : call.signature.All kept
  ret : kept call.ret

namespace Ty.Hereditary

variable {arguments : List Argument}

variable (hereditary : Hereditary kept)

include hereditary

/-- What an argument contributes stands in its type or joins what stands in it. -/
theorem valueType {argument : Argument} (inside : kept argument.ty) :
    kept argument.valueType := by
  unfold Argument.valueType
  split
  · rename_i item _ shape
    rw [shape] at inside
    exact (hereditary.list_iff item).mp inside
  · rename_i items _ shape
    rw [shape] at inside
    exact hereditary.unionOf ((hereditary.tuple_iff items).mp inside)
  · rename_i name item _ shape
    rw [shape] at inside
    exact (hereditary.generic_iff name [item]).mp inside item (List.mem_singleton_self item)
  · rename_i key value _ shape
    rw [shape] at inside
    exact ((hereditary.dict_iff key value).mp inside).2
  · exact hereditary.atom rfl
  · exact hereditary.atom rfl
  · exact inside

/-- Matching the arguments of one parameter. -/
theorem bindGroup (given : ∀ argument ∈ arguments, kept argument.valueType) (callee : String)
    (location : Location) (expected : Ty) :
    (group : List Nat) → (subst : Substitution) → subst.Holds kept →
      Answers (Substitution.Holds kept)
        (subst.bindGroup callee arguments location expected group)
  | [], subst, holds => holds
  | index :: rest, subst, holds => by
    have found : kept ((arguments[index]?.map Argument.valueType).getD .any) := by
      cases here : arguments[index]? with
      | none => exact hereditary.atom rfl
      | some argument => exact given argument (List.mem_of_getElem? here)
    have extended := holds.bind hereditary expected found
    simp only [Substitution.bindGroup]
    split
    · rename_i next matched
      rw [matched] at extended
      exact bindGroup given callee location expected rest next extended
    · rfl

/-- Matching the arguments of all parameters. -/
theorem bindGroups (given : ∀ argument ∈ arguments, kept argument.valueType) (callee : String)
    (location : Location) :
    (entries : List (Param × List Nat)) → (subst : Substitution) → subst.Holds kept →
      Answers (Substitution.Holds kept) (subst.bindGroups callee arguments location entries)
  | [], subst, holds => holds
  | (param, group) :: rest, subst, holds => by
    have first := hereditary.bindGroup given callee location param.ty group subst holds
    simp only [Substitution.bindGroups]
    split
    · rename_i next matched
      rw [matched] at first
      exact bindGroups given callee location rest next first
    · rename_i diagnostic refused
      rw [refused] at first
      exact first

/-- The type of a call of a signature. -/
theorem bindCall {signature : Signature} (whole : signature.All kept)
    (all : Argument.All kept arguments) (callee : String) (location : Location) :
    Answers (fun result => kept result.2) (signature.bindCall callee arguments location) := by
  unfold Signature.bindCall
  split
  · exact ArgumentError.isError_toDiagnostic _ _ _ _
  · rename_i groups _
    split
    · exact hereditary.eraseUnsolved whole.1
    · have given : ∀ argument ∈ arguments, kept argument.valueType :=
        fun argument within => hereditary.valueType (all argument within)
      have matched := hereditary.bindGroups given callee location (signature.params.zip groups)
        .empty Substitution.holds_empty
      split
      · rename_i subst done
        rw [done] at matched
        exact hereditary.instantiate matched signature whole.1
      · rename_i diagnostic refused
        rw [refused] at matched
        exact matched

/-- A call of a signature. -/
theorem accept {signature : Signature} (whole : signature.All kept)
    (all : Argument.All kept arguments) (callee : String) (location : Location) :
    Answers (AcceptedCall.All kept) (signature.accept callee arguments location) :=
  (hereditary.bindCall whole all callee location).map fun _ ret => ⟨whole, ret⟩

/-- A call of a type, which finds the signature of a callable type or one of an overloaded type. -/
theorem acceptCall {ty : Ty} (inside : kept ty) (all : Argument.All kept arguments)
    (callee : String) (location : Location) :
    Answers (fun accepted => ∀ call, accepted = some call → call.All kept)
      (ty.acceptCall callee arguments location) := by
  unfold Ty.acceptCall
  split
  · rintro call ⟨⟩
  · rintro call ⟨⟩
  · rename_i signature
    have whole := (hereditary.callable_iff signature).mp inside
    apply (hereditary.accept whole all callee location).map
    rintro found holds call ⟨⟩
    exact holds
  · rename_i signatures
    have each := (hereditary.overloaded_iff signatures).mp inside
    simp only
    split
    · rename_i found tried
      obtain ⟨signature, within, succeeded⟩ := List.exists_of_findSome?_eq_some tried
      rintro call ⟨⟩
      exact (hereditary.accept (each signature within) all callee location).ofToOption succeeded
    · rfl
  · rfl

end Ty.Hereditary

end Callwise
