import Callwise.Ty.Basic

/-!
# The type variables of a type

Variables are listed in the order of their first occurrence. In a signature the parameters
come before the result.
-/

namespace Callwise

mutual

/-- Every occurrence of a type variable, from left to right. -/
def Ty.typeVarOccurrences : Ty → List String
  | .typeVar name => [name]
  | .list item => item.typeVarOccurrences
  | .tuple items => Ty.typeVarOccurrencesIn items
  | .union members => Ty.typeVarOccurrencesIn members
  | .generic _ args => Ty.typeVarOccurrencesIn args
  | .dict key value => key.typeVarOccurrences ++ value.typeVarOccurrences
  | .callable signature => signature.typeVarOccurrences
  | .overloaded signatures => Signature.typeVarOccurrencesIn signatures
  | _ => []

/-- The occurrences in several types. -/
def Ty.typeVarOccurrencesIn : List Ty → List String
  | [] => []
  | first :: rest => first.typeVarOccurrences ++ Ty.typeVarOccurrencesIn rest

/-- The occurrences in a signature, the parameters first. -/
def Signature.typeVarOccurrences : Signature → List String
  | ⟨params, ret⟩ => Param.typeVarOccurrencesIn params ++ ret.typeVarOccurrences

/-- The occurrences in several signatures. -/
def Signature.typeVarOccurrencesIn : List Signature → List String
  | [] => []
  | first :: rest => first.typeVarOccurrences ++ Signature.typeVarOccurrencesIn rest

/-- The occurrences in a parameter's type. -/
def Param.typeVarOccurrences : Param → List String
  | ⟨_, _, ty⟩ => ty.typeVarOccurrences

/-- The occurrences in several parameters. -/
def Param.typeVarOccurrencesIn : List Param → List String
  | [] => []
  | first :: rest => first.typeVarOccurrences ++ Param.typeVarOccurrencesIn rest

end

/-- The type variables of a type, each once, in the order of first occurrence. -/
def Ty.freeTypeVars (ty : Ty) : List String := ty.typeVarOccurrences.eraseDups

/-- The type variables of a signature, each once, in the order of first occurrence. -/
def Signature.freeTypeVars (signature : Signature) : List String :=
  signature.typeVarOccurrences.eraseDups

end Callwise
