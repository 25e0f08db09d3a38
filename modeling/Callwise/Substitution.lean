import Callwise.NameMap
import Callwise.Ty.TypeVars
import Callwise.Ty.Union

/-!
# Solving type variables

A call of a generic signature matches each parameter type, the *pattern*, with the type of its
argument. Matching records in a substitution what each type variable stands for; a variable
that meets a second type keeps the wider of the two. A match that fails keeps the bindings
made before the mismatch, except that the items of an overloaded argument are tried one by one
and a failed try leaves nothing behind.

Applying a substitution simplifies unions, and writes `KindN[Container, a, b]` as
`Container[a, b]` once the container is known.
-/

namespace Callwise

/-- What each type variable stands for. -/
abbrev Substitution := NameMap Ty

/-- The substitution without bindings. -/
def Substitution.empty : Substitution := {}

/-- The name under which a container and its arguments are passed as one type. -/
def kindName : String := "KindN"

/-- Drop the type variables at the end of a list of types. -/
def Ty.dropTrailingVars (types : List Ty) : List Ty :=
  (types.reverse.dropWhile fun
    | .typeVar _ => true
    | _ => false).reverse

/-- A container and its arguments as one type again. Trailing arguments that are still
variables belong to containers with more arguments and are dropped. -/
def Ty.ofKind : List Ty → Ty
  | .named name :: rest | .generic name _ :: rest => .generic name (Ty.dropTrailingVars rest)
  | args => .generic kindName args

namespace Substitution

/-- Give the value `Any` to those of the variables that have none. -/
def fillAny (subst : Substitution) (vars : List String) : Substitution :=
  vars.foldl (fun filled var => filled.insertIfNew var .any) subst

/-- Match a type variable. The wider of its old and its new type stays; types that do not
compare are a mismatch. -/
def bindVar (subst : Substitution) (name : String) (actual : Ty) : Bool × Substitution :=
  match subst.find? name with
  | none => (true, subst.insert name actual)
  | some bound =>
    if actual.isSubtype bound then (true, subst)
    else if bound.isSubtype actual then (true, subst.insert name actual)
    else (false, subst)

end Substitution

/-- The members of a union, or the type itself. -/
def Ty.alternatives : Ty → List Ty
  | .union members => members
  | other => [other]

/-- The alternatives of a type that none of the given types covers. -/
def Ty.uncovered (covering : List Ty) (ty : Ty) : List Ty :=
  ty.alternatives.filter fun alternative => !covering.any fun wide => alternative.isSubtype wide

namespace Substitution

mutual

/-- Match a type with a pattern. The flag says whether they fit; the substitution is what has
been learned up to the mismatch if there is one. -/
def bind (subst : Substitution) (pattern actual : Ty) : Bool × Substitution :=
  match pattern, actual with
  | .typeVar name, actual => subst.bindVar name actual
  | .any, _ => (true, subst)
  | pattern, .any | pattern, .placeholder _ => (true, subst.fillAny pattern.freeTypeVars)
  | _, .never => (true, subst)
  | .union members, actual =>
    match members.filter Ty.hasTypeVars with
    | [] => (actual.isSubtype (.union members), subst)
    | [single] =>
      match Ty.uncovered (members.filter fun member => !member.hasTypeVars) actual with
      | [] => (true, subst.fillAny single.freeTypeVars)
      | rest => subst.bindOpenMember members (Ty.unionOf rest)
    | _ =>
      let rest := Ty.uncovered (members.filter fun member => !member.hasTypeVars) actual
      (rest.all fun alternative => subst.bindsOpenMember members alternative, subst)
  | .list pattern, .list actual => subst.bind pattern actual
  | .dict patternKey patternValue, .dict key value =>
    match subst.bind patternKey key with
    | (true, extended) => extended.bind patternValue value
    | failed => failed
  | .tuple patterns, .tuple actuals =>
    if patterns.length == actuals.length then subst.bindAll patterns actuals else (false, subst)
  | .generic patternName patterns, .generic name actuals =>
    if patternName == kindName && name != kindName then subst.bindKind patterns name actuals
    else if patternName == name && patterns.length == actuals.length then
      subst.bindAll patterns actuals
    else (false, subst)
  | .callable pattern, .callable actual => subst.bindSignature pattern actual
  | .callable pattern, .overloaded signatures =>
    let tried := signatures.findSome? fun actual =>
      match subst.bindSignature pattern actual with
      | (true, extended) => some extended
      | _ => none
    match tried with
    | some extended => (true, extended)
    | none => (false, subst)
  | pattern, actual => (actual.isSubtype pattern, subst)
termination_by structural pattern

/-- Match types with patterns one by one, up to the first mismatch or the end of the shorter
list. -/
def bindAll (subst : Substitution) (patterns actuals : List Ty) : Bool × Substitution :=
  match patterns, actuals with
  | pattern :: patterns, actual :: actuals =>
    match subst.bind pattern actual with
    | (true, extended) => extended.bindAll patterns actuals
    | failed => failed
  | _, _ => (true, subst)
termination_by structural patterns

/-- Match a type with the first member of a union pattern that has type variables. -/
def bindOpenMember (subst : Substitution) (members : List Ty) (actual : Ty) :
    Bool × Substitution :=
  match members with
  | [] => (false, subst)
  | member :: members =>
    if member.hasTypeVars then subst.bind member actual else subst.bindOpenMember members actual
termination_by structural members

/-- Some member with type variables fits the type. -/
def bindsOpenMember (subst : Substitution) (members : List Ty) (actual : Ty) : Bool :=
  match members with
  | [] => false
  | member :: members =>
    (member.hasTypeVars && (subst.bind member actual).1) || subst.bindsOpenMember members actual
termination_by structural members

/-- Match a container with `KindN[variable, patterns]`: the variable stands for the container
without its arguments, and the arguments match as far as both lists go. -/
def bindKind (subst : Substitution) (patterns : List Ty) (name : String) (actuals : List Ty) :
    Bool × Substitution :=
  match patterns with
  | [] => (false, subst)
  | container :: patterns =>
    match subst.bind container (.named name) with
    | (true, extended) => extended.bindAll patterns actuals
    | failed => failed
termination_by structural patterns

/-- Match two signatures: each positional parameter of the pattern with what receives the
argument at its index, then the results. An ellipsis on either side leaves only the results. -/
def bindSignature (subst : Substitution) (pattern actual : Signature) : Bool × Substitution :=
  match pattern with
  | ⟨params, ret⟩ =>
    if (Signature.mk params ret).isEllipsis || actual.isEllipsis then subst.bind ret actual.ret
    else
      let formal := (Signature.mk params ret).positionals.length
      let required := actual.positionals.countP fun param => param.kind == .positional
      if formal < required || (actual.positionals.length < formal && actual.star?.isNone) then
        (false, subst)
      else
        match subst.bindParams params 0 actual with
        | (true, extended) => extended.bind ret actual.ret
        | failed => failed
termination_by structural pattern

/-- Match the positional parameters from this index on. -/
def bindParams (subst : Substitution) (params : List Param) (index : Nat) (actual : Signature) :
    Bool × Substitution :=
  match params with
  | [] => (true, subst)
  | param :: params =>
    if param.kind.isPositional then
      match actual.slot? index with
      | some received =>
        match subst.bindParam param received with
        | (true, extended) => extended.bindParams params (index + 1) actual
        | failed => failed
      | none => (false, subst)
    else subst.bindParams params index actual
termination_by structural params

/-- Match a parameter's type. -/
def bindParam (subst : Substitution) (param : Param) (actual : Ty) : Bool × Substitution :=
  match param with
  | ⟨_, _, ty⟩ => subst.bind ty actual
termination_by structural param

end

mutual

/-- Replace every variable that has a value. Variables without one stay. -/
def apply (subst : Substitution) : Ty → Ty
  | .typeVar name => (subst.find? name).getD (.typeVar name)
  | .list item => .list (subst.apply item)
  | .tuple items => .tuple (subst.applyList items)
  | .dict key value => .dict (subst.apply key) (subst.apply value)
  | .union members => Ty.unionOf (subst.applyList members)
  | .generic name args =>
    if name == kindName then Ty.ofKind (subst.applyList args)
    else .generic name (subst.applyList args)
  | .callable signature => .callable (subst.applySignature signature)
  | .overloaded signatures => .overloaded (subst.applySignatures signatures)
  | other => other

/-- Apply to several types. -/
def applyList (subst : Substitution) : List Ty → List Ty
  | [] => []
  | first :: rest => subst.apply first :: subst.applyList rest

/-- Apply to a signature. -/
def applySignature (subst : Substitution) : Signature → Signature
  | ⟨params, ret⟩ => ⟨subst.applyParams params, subst.apply ret⟩

/-- Apply to several signatures. -/
def applySignatures (subst : Substitution) : List Signature → List Signature
  | [] => []
  | first :: rest => subst.applySignature first :: subst.applySignatures rest

/-- Apply to a parameter. -/
def applyParam (subst : Substitution) : Param → Param
  | ⟨name, kind, ty⟩ => ⟨name, kind, subst.apply ty⟩

/-- Apply to several parameters. -/
def applyParams (subst : Substitution) : List Param → List Param
  | [] => []
  | first :: rest => subst.applyParam first :: subst.applyParams rest

end

/-- The substitution that sends each of the variables to `Never`. -/
def erasing (vars : List String) : Substitution :=
  vars.foldl (fun erased var => erased.insert var .never) empty

/-- Apply the bindings, then erase the variables of the declared signature that have none.
Variables that came in with the bound types stay. -/
def instantiate (subst : Substitution) (declared : Signature) (ty : Ty) : Ty :=
  let unbound := declared.freeTypeVars.filter fun var => !subst.contains var
  (erasing unbound).apply (subst.apply ty)

end Substitution

/-- The type with `Never` in place of all its type variables. -/
def Ty.eraseUnsolved (ty : Ty) : Ty := (Substitution.erasing ty.freeTypeVars).apply ty

end Callwise
