import Callwise.Check.State

/-!
# Types of expressions

`Check.infer` walks through an expression from left to right, gives its type, and reports faults on
the way. Comprehensions, slices and `yield` are not looked into.
-/

namespace Callwise

/-- The type of a literal. -/
def Literal.ty : Literal → Ty
  | none => .none
  | bool => .bool
  | int _ => .int
  | float => .float
  | str _ => .str
  | bytes => .bytes
  | imaginary | ellipsis => .any

namespace Ty

/-- The type of what a loop over a value goes through. -/
def element : Ty → Ty
  | .list item => item
  | .dict key _ => key
  | .tuple items => Ty.unionOf items
  | .generic _ [item] => item
  | .str => .str
  | _ => .any

/-- A truth value or a real number. -/
def isNumeric : Ty → Bool
  | .bool | .int | .float => true
  | _ => false

/-- The type of an operation on two numbers. -/
def numericResult (op : BinaryOp) (left right : Ty) : Ty :=
  if op == .div || left == .float || right == .float then .float
  else if (op == .bitAnd || op == .bitOr || op == .bitXor) && left == .bool && right == .bool then
    .bool
  else .int

/-- The type of an operation. -/
def binaryResult (op : BinaryOp) (left right : Ty) : Ty :=
  if left.isNumeric && right.isNumeric then numericResult op left right
  else
    match op, left, right with
    | .add, .str, .str => .str
    | .mod, .str, _ => .str
    | .add, .bytes, .bytes => .bytes
    | .add, .list item, .list other => .list (Ty.unionOf [item, other])
    | _, _, _ => .any

/-- The type of a subscript, given the type of the value and the index. -/
def subscriptResult (value : Ty) (index : Expr) : Ty :=
  match value, index with
  | .list item, .slice _ => .list item
  | .list item, _ => item
  | .dict _ value, _ => value
  | .str, _ => .str
  | .tuple items, .literal _ (.int position) => items[position]?.getD .any
  | .tuple _, .literal _ _ => .any
  | .tuple items, _ => Ty.unionOf items
  | _, _ => .any

/-- The type of an awaited value. -/
def awaited : Ty → Ty
  | .generic "Coroutine" [_, _, ret] => ret
  | _ => .any

/-- The type of `+value`, `-value` and `~value`. -/
def signed : Ty → Ty
  | .bool => .int
  | other => other

/-- The types that `**value` gives to the keys and values of a dictionary. -/
def spread : Ty → Ty × Ty
  | .dict key value => (key, value)
  | _ => (.any, .any)

end Ty

namespace Check

/-- The name of the function that reveals types. -/
def revealName : String := "reveal_type"

/-- The name of a callee in diagnostics; without a name the type has to do. -/
def displayName (callee : Expr) (ty : Ty) : String :=
  match callee with
  | .name _ id => id
  | .access _ _ attr => attr
  | _ => ty.render

/-- What a callee of this type stands for. -/
def targetOf (env : Environment) (callee : Expr) (ty : Ty) : Check Target := do
  let checker ← get
  pure ⟨checker.calleeName? env callee, displayName callee ty, ty⟩

/-- The call is a request to reveal a type. -/
def isReveal (checker : Checker) : Expr → Bool
  | .name _ id => id == revealName && !checker.scope.contains revealName
  | _ => false

/-- Note the type of an expression if that is wanted. -/
def reveal (span : Span) (ty : Ty) : Check Unit := do
  if (← get).showRevealed then report (.revealed ty (← locate span))

mutual

/-- The type of an expression. -/
def infer (env : Environment) : Expr → Check Ty
  | .literal _ value => pure value.ty
  | .name _ id => do pure ((← get).typeOfName env id)
  | .access span value attr => do
    match (← get).dottedName? (.access span value attr) with
    | some fullName => pure ((env.index.find? fullName).getD .any)
    | none =>
      let _ ← infer env value
      pure .any
  | .call span callee args keywords => do
    if isReveal (← get) callee then
      let ty ← inferFirst env args
      reveal span ty
      pure ty
    else
      let calleeType ← infer env callee
      let target ← targetOf env callee calleeType
      let positional ← inferArguments env args
      let named ← inferKeywords env keywords
      call env target (positional ++ named) (← locate span)
  | .await _ value => do pure (← infer env value).awaited
  | .list _ items => do pure (.list (← join (← inferAll env items)))
  | .tuple _ items => do pure (.tuple (← inferAll env items))
  | .set _ items => do pure (.generic "set" [← join (← inferAll env items)])
  | .dict _ entries => do
    let types ← inferEntries env entries
    let key ← join (types.map Prod.fst)
    let value ← join (types.map Prod.snd)
    pure (.dict key value)
  | .binary _ op left right => do
    let leftType ← infer env left
    let rightType ← infer env right
    pure (Ty.binaryResult op leftType rightType)
  | .unary _ op operand => do
    let ty ← infer env operand
    pure (if op == .not then .bool else ty.signed)
  | .boolean _ operands => do pure (Ty.unionOf (← inferAll env operands))
  | .compare _ left others => do
    let _ ← infer env left
    let _ ← inferAll env others
    pure .bool
  | .conditional _ test body orElse => do
    let _ ← infer env test
    let bodyType ← infer env body
    let orElseType ← infer env orElse
    pure (Ty.unionOf [bodyType, orElseType])
  | .lambda _ params body => do
    let signature : Signature :=
      ⟨params.map fun param => ⟨some param.name, param.kind, .any⟩, .any⟩
    let ret ← inScope do
      modify fun checker => checker.bindAll (params.map fun param => (param.name, .any))
      infer env body
    pure (.callable (signature.withRet ret))
  | .subscript _ value index => do
    let valueType ← infer env value
    let _ ← infer env index
    pure (valueType.subscriptResult index)
  | .formatted _ values => do
    let _ ← inferAll env values
    pure .str
  | .starred _ value => infer env value
  | .assignment _ target value => do
    let ty ← infer env value
    modify fun checker => checker.define target ty
    pure ty
  | .comprehension _ .list => pure (.list .any)
  | .comprehension _ .set => pure (.generic "set" [.any])
  | .comprehension _ .dict => pure (.dict .any .any)
  | .comprehension _ .generator => pure .any
  | .slice _ => pure .any
  | .yield _ => pure .any

/-- The types of several expressions. -/
def inferAll (env : Environment) : List Expr → Check (List Ty)
  | [] => pure []
  | first :: rest => do
    let ty ← infer env first
    let types ← inferAll env rest
    pure (ty :: types)

/-- The type of the first of several expressions; the others are not looked at. -/
def inferFirst (env : Environment) : List Expr → Check Ty
  | [] => pure .any
  | first :: _ => infer env first

/-- The positional arguments of a call. -/
def inferArguments (env : Environment) : List Expr → Check (List Argument)
  | [] => pure []
  | first :: rest => do
    let ty ← infer env first
    let kind := if first.isStarred then ParamKind.star else .positional
    let arguments ← inferArguments env rest
    pure (⟨kind, none, ty⟩ :: arguments)

/-- The argument that a keyword gives. -/
def inferKeyword (env : Environment) : Keyword → Check Argument
  | ⟨name, value⟩ => do
    let ty ← infer env value
    pure ⟨if name.isSome then .named else .doubleStar, name, ty⟩

/-- The arguments of a call that are given by name. -/
def inferKeywords (env : Environment) : List Keyword → Check (List Argument)
  | [] => pure []
  | first :: rest => do
    let argument ← inferKeyword env first
    let arguments ← inferKeywords env rest
    pure (argument :: arguments)

/-- The types of key and value in a part of a dictionary; the value comes first. -/
def inferEntry (env : Environment) : DictEntry → Check (Ty × Ty)
  | .pair key value => do
    let valueType ← infer env value
    let keyType ← infer env key
    pure (keyType, valueType)
  | .spread value => do pure (← infer env value).spread

/-- The types of keys and values in a dictionary. -/
def inferEntries (env : Environment) : List DictEntry → Check (List (Ty × Ty))
  | [] => pure []
  | first :: rest => do
    let types ← inferEntry env first
    let others ← inferEntries env rest
    pure (types :: others)

end

/-- What an expression calls if it stands before parentheses or behind `@`. -/
def target (env : Environment) (callee : Expr) : Check Target := do
  let ty ← infer env callee
  targetOf env callee ty

end Check

end Callwise
