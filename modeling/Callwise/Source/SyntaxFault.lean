/-!
# Faults in a source text

What makes a text not a program, with the offset at which it was noticed.
-/

namespace Callwise

/-- Why a text cannot be read. -/
inductive Fault where
  | unexpectedCharacter (char : Char)
  | unexpectedToken
  | unexpectedEnd
  | unmatchedBracket
  | inconsistentIndentation
  | strayBackslash
  | unclosedString
  | malformedNumber
  | malformedEscape
  | malformedInterpolation
  | mixedBytes
  | loneStar
  | repeatedParameter (name : String)
  | requiredAfterDefault (name : String)
  | repeatedKeyword (name : String)
  | argumentOrder
  deriving DecidableEq, Repr, Inhabited

/-- The text of a fault. -/
def Fault.message : Fault → String
  | unexpectedCharacter char => "unexpected character " ++ char.quote
  | unexpectedToken => "invalid syntax"
  | unexpectedEnd => "unexpected end of input"
  | unmatchedBracket => "unmatched bracket"
  | inconsistentIndentation => "inconsistent indentation"
  | strayBackslash => "unexpected character after line continuation"
  | unclosedString => "unterminated string literal"
  | malformedNumber => "malformed number"
  | malformedEscape => "malformed escape sequence"
  | malformedInterpolation => "malformed formatted string"
  | mixedBytes => "bytes literals cannot be mixed with others"
  | loneStar => "star without a name or an operand"
  | repeatedParameter name => "parameter " ++ name ++ " is declared twice"
  | requiredAfterDefault name => "parameter " ++ name ++ " needs a default"
  | repeatedKeyword name => "keyword argument " ++ name ++ " is repeated"
  | argumentOrder => "argument follows one that it has to precede"

/-- A fault and the offset at which it was noticed. -/
structure SyntaxFault where
  fault : Fault
  offset : Nat
  deriving DecidableEq, Repr, Inhabited

/-- The text of a fault with its place. -/
def SyntaxFault.message (failure : SyntaxFault) : String :=
  failure.fault.message ++ " at byte offset " ++ failure.offset.repr

end Callwise
