import Callwise.Location
import Callwise.Text.EditDistance
import Callwise.Ty.Printer

/-!
# Diagnostics

A diagnostic is a cause with its place and, for misspelled names, suggestions. `Cause.message`
is the only place where causes become text. Types in causes are kept as text.
-/

namespace Callwise

/-- Why a diagnostic was made. -/
inductive Cause where
  | typeMismatch (expected found : String)
  | invalidArgument (index : Nat) (callee expected found : String)
  | tooManyArguments (callee : String)
  | tooFewArguments (callee : String)
  | unexpectedKeyword (callee name : String)
  | notCallable (ty : String)
  | noMatchingOverload (callee : String)
  | unsupportedSignature (callee reason : String)
  | revealedType (ty : String)
  | other (message : String)
  deriving DecidableEq, Repr, Inhabited

/-- Text between double quotes. -/
def quoted (text : String) : String := "\"" ++ text ++ "\""

/-- The text of a cause. -/
def Cause.message : Cause → String
  | typeMismatch expected found =>
    "Incompatible types: expected " ++ quoted expected ++ ", found " ++ quoted found
  | invalidArgument index callee expected found =>
    "Argument " ++ index.repr ++ " to " ++ quoted callee ++ " has incompatible type "
      ++ quoted found ++ "; expected " ++ quoted expected
  | tooManyArguments callee => "Too many arguments for " ++ quoted callee
  | tooFewArguments callee => "Too few arguments for " ++ quoted callee
  | unexpectedKeyword callee name =>
    "Unexpected keyword argument " ++ quoted name ++ " for " ++ quoted callee
  | notCallable ty => quoted ty ++ " not callable"
  | noMatchingOverload callee =>
    "No overload variant of " ++ quoted callee ++ " matches argument types"
  | unsupportedSignature callee reason => quoted callee ++ " cannot be applied here: " ++ reason
  | revealedType ty => "Revealed type is " ++ quoted ty
  | other message => message

/-- The short name of a kind of cause in reports for other programs. -/
def Cause.code : Cause → String
  | typeMismatch .. => "type-mismatch"
  | invalidArgument .. => "invalid-arg-type"
  | tooManyArguments _ => "too-many-arguments"
  | tooFewArguments _ => "too-few-arguments"
  | unexpectedKeyword .. => "unexpected-keyword"
  | notCallable _ => "non-callable"
  | noMatchingOverload _ => "no-matching-overload"
  | unsupportedSignature .. => "unsupported-signature"
  | revealedType _ => "revealed-type"
  | other _ => "custom"

/-- How much a diagnostic matters: notes answer questions, errors are faults. -/
inductive Severity where
  | error
  | note
  deriving DecidableEq, Repr, Inhabited

/-- The word for a severity. -/
def Severity.text : Severity → String
  | error => "error"
  | note => "note"

/-- Something to tell about a place in a file. -/
structure Diagnostic where
  cause : Cause
  severity : Severity := .error
  location : Location
  file : String := ""
  suggestions : List String := []
  deriving DecidableEq, Repr, Inhabited

namespace Diagnostic

/-- The diagnostic is a fault. -/
def isError (diagnostic : Diagnostic) : Bool := diagnostic.severity == .error

/-- The text of the cause. -/
def message (diagnostic : Diagnostic) : String := diagnostic.cause.message

/-- A note with the type of an expression. -/
def revealed (ty : Ty) (location : Location) : Diagnostic :=
  ⟨.revealedType ty.render, .note, location, "", []⟩

/-- An argument of the wrong type; arguments are counted from one. -/
def invalidArgument (index : Nat) (callee : String) (expected found : Ty) (location : Location) :
    Diagnostic :=
  ⟨.invalidArgument index callee expected.render found.render, .error, location, "", []⟩

/-- A name that no parameter has, with up to three parameters whose names differ in at most
two places. -/
def unexpectedKeyword (callee name : String) (location : Location) (candidates : List String) :
    Diagnostic :=
  let similar := (EditDistance.nearest name candidates 2).take 3
  let suggestions := similar.map fun candidate => "Did you mean " ++ quoted candidate ++ "?"
  ⟨.unexpectedKeyword callee name, .error, location, "", suggestions⟩

/-- One line with place, severity and message, and one line for each suggestion. -/
def render (diagnostic : Diagnostic) : String :=
  let file := if diagnostic.file.isEmpty then "" else diagnostic.file ++ ":"
  let hints := diagnostic.suggestions.map fun suggestion => "\n  hint: " ++ suggestion
  file ++ diagnostic.location.line.repr ++ ":" ++ diagnostic.location.col.repr ++ ": "
    ++ diagnostic.severity.text ++ ": " ++ diagnostic.message ++ String.join hints

end Diagnostic

end Callwise
