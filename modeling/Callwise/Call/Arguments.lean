import Callwise.Diagnostic
import Callwise.Ty.Union

/-!
# Which parameter receives which argument

`Argument.assign` goes through the arguments of a call from left to right. Positional arguments
fill the positional parameters in order and then the star parameter; names reach the parameter
of that name and otherwise the double-star parameter; `*xs` may fill every positional parameter
that is still free, and `**kw` every named one that is still empty. The answer lists, for each
parameter, the indices of its arguments.
-/

namespace Callwise

/-- An argument as it is written at a call. Its kind is `positional`, `star` for `*xs`, `named`
for `k=v` or `doubleStar` for `**kw`. -/
structure Argument where
  kind : ParamKind
  name : Option String
  ty : Ty
  deriving Inhabited

/-- The type of each value that an argument contributes: the items of `*xs` and the values of
`**kw`. -/
def Argument.valueType (argument : Argument) : Ty :=
  match argument.kind, argument.ty with
  | .star, .list item => item
  | .star, .tuple items => Ty.unionOf items
  | .star, .generic _ [item] => item
  | .doubleStar, .dict _ value => value
  | .star, _ | .doubleStar, _ => .any
  | _, ty => ty

/-- Why arguments do not fit parameters. -/
inductive ArgumentError where
  | tooMany
  | tooFew
  | unexpectedKeyword (name : String)
  | multipleValues (name : String)
  deriving DecidableEq, Repr, Inhabited

namespace ArgumentError

/-- A short text of the error. -/
def message : ArgumentError → String
  | tooMany => "too many arguments"
  | tooFew => "too few arguments"
  | unexpectedKeyword name => "unexpected keyword " ++ quoted name
  | multipleValues name => "multiple values for " ++ quoted name

/-- The diagnostic for a call of the given callee. Suggestions for an unexpected name come from
the parameters that a name can reach. -/
def toDiagnostic (error : ArgumentError) (callee : String) (formals : List Param)
    (location : Location) : Diagnostic :=
  match error with
  | tooMany => ⟨.tooManyArguments callee, .error, location, "", []⟩
  | tooFew => ⟨.tooFewArguments callee, .error, location, "", []⟩
  | unexpectedKeyword name =>
    let reachable := formals.filter fun param => !param.kind.isVariadic
    Diagnostic.unexpectedKeyword callee name location (reachable.filterMap Param.name)
  | multipleValues name =>
    let text := quoted callee ++ " gets multiple values for keyword argument " ++ quoted name
    ⟨.other text, .error, location, "", []⟩

end ArgumentError

/-- An assignment under construction: the argument indices of each parameter, and how many of the
positional parameters have been passed. -/
structure Assignment where
  groups : List (List Nat)
  passed : Nat
  deriving Inhabited

namespace Assignment

/-- Give an argument to a parameter. -/
def give (assignment : Assignment) (formal argument : Nat) : Assignment :=
  { assignment with groups := assignment.groups.modify formal (· ++ [argument]) }

/-- Give an argument to a parameter if there is one. -/
def giveTo? (assignment : Assignment) (formal : Option Nat) (argument : Nat) : Assignment :=
  match formal with
  | some formal => assignment.give formal argument
  | none => assignment

/-- The indices of the parameters that positional arguments fill one by one. -/
def positionalIndices (formals : List Param) : List Nat :=
  (formals.zipIdx.filter fun entry => entry.1.kind.isPositional).map Prod.snd

/-- The index of the first parameter of this kind. -/
def indexOfKind? (formals : List Param) (kind : ParamKind) : Option Nat :=
  formals.findIdx? fun param => param.kind == kind

/-- The parameter that a name reaches. -/
def indexOfName? (formals : List Param) (name : String) : Option Nat :=
  formals.findIdx? fun param => !param.kind.isVariadic && param.name == some name

/-- Give `*xs` to every positional parameter not passed yet, and to the star parameter. -/
def giveStar (assignment : Assignment) (formals : List Param) (argument : Nat) : Assignment :=
  let positional := positionalIndices formals
  let filled := (positional.drop assignment.passed).foldl (fun filled formal =>
    filled.give formal argument) assignment
  { filled with passed := positional.length }.giveTo? (indexOfKind? formals .star) argument

/-- Give `**kw` to every parameter that a name reaches and that has received nothing, and to the
double-star parameter. -/
def giveDoubleStar (assignment : Assignment) (formals : List Param) (argument : Nat) :
    Assignment :=
  let groups := List.zipWith (fun (param : Param) group =>
    if !param.kind.isVariadic && param.name.isSome && group.isEmpty then [argument] else group)
    formals assignment.groups
  { assignment with groups }.giveTo? (indexOfKind? formals .doubleStar) argument

/-- Some argument other than `*xs` and `**kw` has been given to the parameter. -/
def isExplicit (assignment : Assignment) (arguments : List Argument) (formal : Nat) : Bool :=
  (assignment.groups[formal]?.getD []).any fun index =>
    arguments[index]?.any fun argument => !argument.kind.isVariadic

/-- Give `name=value` to the parameter of that name, which must not have received a value yet, or
else to the double-star parameter. -/
def giveNamed (assignment : Assignment) (arguments : List Argument) (formals : List Param)
    (argument : Nat) (name : String) : Except ArgumentError Assignment :=
  match indexOfName? formals name with
  | some formal =>
    if assignment.isExplicit arguments formal then .error (.multipleValues name)
    else .ok (assignment.give formal argument)
  | none =>
    match indexOfKind? formals .doubleStar with
    | some formal => .ok (assignment.give formal argument)
    | none => .error (.unexpectedKeyword name)

/-- Give a positional argument to the next positional parameter, or else to the star
parameter. -/
def givePositional (assignment : Assignment) (formals : List Param) (argument : Nat) :
    Except ArgumentError Assignment :=
  match (positionalIndices formals)[assignment.passed]? with
  | some formal => .ok { assignment.give formal argument with passed := assignment.passed + 1 }
  | none =>
    match indexOfKind? formals .star with
    | some formal => .ok (assignment.give formal argument)
    | none => .error .tooMany

/-- Give one more argument to its parameters. -/
def step (arguments : List Argument) (formals : List Param) (assignment : Assignment)
    (entry : Argument × Nat) : Except ArgumentError Assignment :=
  let (argument, index) := entry
  match argument.kind with
  | .star => .ok (assignment.giveStar formals index)
  | .doubleStar => .ok (assignment.giveDoubleStar formals index)
  | .named | .namedOptional =>
    assignment.giveNamed arguments formals index (argument.name.getD "")
  | .positional | .optional => assignment.givePositional formals index

/-- Some required parameter has received nothing. -/
def isIncomplete (assignment : Assignment) (formals : List Param) : Bool :=
  (formals.zip assignment.groups).any fun entry => entry.1.kind.isRequired && entry.2.isEmpty

end Assignment

/-- For each parameter, the indices of the arguments it receives. -/
def Argument.assign (arguments : List Argument) (formals : List Param) :
    Except ArgumentError (List (List Nat)) := do
  let start : Assignment := ⟨formals.map fun _ => [], 0⟩
  let assignment ← arguments.zipIdx.foldlM (Assignment.step arguments formals) start
  if assignment.isIncomplete formals then .error .tooFew else .ok assignment.groups

end Callwise
