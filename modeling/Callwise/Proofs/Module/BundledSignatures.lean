import Callwise.Module.Bundled
import Callwise.Refine.Plugin

/-!
# The bundled signatures of refined functions

Each name in the table of the `returns` plugin is defined by a bundled stub. What a stub offers is
read off by parsing and checking its text against what the stubs before it offer. The texts are
taken apart into their characters first: a literal is the string of a list of characters, and in
that form the kernel evaluates the parser without decoding the literal again for each character.
-/

namespace Callwise

/-! ### Texts as lists of characters -/

/-- The statements that the characters spell. -/
def parseCharacters (chars : List Char) : Except SyntaxFault (List Stmt) := do
  let lexemes ← Lexeme.ofText chars 0 true
  let depth := nestingBound chars
  (StmtGrammar.program (ExprRules.ofDepth depth) depth).run lexemes

/-- Parsing a text parses its characters. -/
theorem parseProgram_ofList (chars : List Char) :
    parseProgram (String.ofList chars) = parseCharacters chars := by
  simp only [parseProgram, parseCharacters, String.toList_ofList]

/-- What the stub that the characters spell offers, checked against the modules of an index. -/
def ModuleIndex.offer? (index : ModuleIndex) (module : String) (chars : List Char) :
    Option (List (String × Ty) × List (String × String)) :=
  match parseCharacters chars with
  | .error _ => none
  | .ok body =>
    let checker : Checker := { file := "<stub " ++ module ++ ">" }
    let exports := (checker.checkModule { index } body (String.ofList chars)).exports
    some (exports.definitions, exports.aliases)

/-- Adding a stub adds what it offers. -/
theorem ModuleIndex.addStub_of_offer? (module : String) (exports : Exports) {index : ModuleIndex}
    {chars : List Char}
    (offered : index.offer? module chars = some (exports.definitions, exports.aliases)) :
    index.addStub (module, String.ofList chars) = index.add module exports := by
  unfold ModuleIndex.offer? at offered
  simp only [ModuleIndex.addStub, parseProgram_ofList]
  cases parsed : parseCharacters chars with
  | error fault =>
    rw [parsed] at offered
    cases offered
  | ok body =>
    rw [parsed] at offered
    obtain ⟨definitions, aliases⟩ := Prod.mk.inj (Option.some.inj offered)
    simp only [ModuleIndex.add, definitions, aliases]

/-! ### What the stubs declare -/

namespace Bundled

/-- A decorator takes functions with one result and gives functions with another, whatever their
parameters. -/
def decorator (taken given : Ty) : Signature :=
  ⟨[⟨some "function", .positional, .callable (.ellipsis taken)⟩], .callable (.ellipsis given)⟩

/-- The signature of `partial`. -/
def partialSignature : Signature :=
  ⟨[⟨some "func", .positional, .callable (.ellipsis (.typeVar "_ReturnType"))⟩,
    ⟨some "args", .star, .any⟩, ⟨some "kwargs", .doubleStar, .any⟩],
   .callable (.ellipsis (.typeVar "_ReturnType"))⟩

/-- The signature of `curry`. -/
def currySignature : Signature := decorator (.typeVar "_ReturnType") (.typeVar "_ReturnType")

/-- The signature of `flow`. -/
def flowSignature : Signature :=
  ⟨[⟨some "instance", .positional, .typeVar "_InstanceType"⟩, ⟨some "functions", .star, .any⟩],
   .any⟩

/-- The items that a mapped function takes. -/
def takenItem : Ty := .typeVar "_FirstType"

/-- The items that a mapped function gives. -/
def givenItem : Ty := .typeVar "_UpdatedType"

/-- A function from items to items. -/
def mappedFunction : Ty := .callable (.ofTypes [takenItem] givenItem)

/-- A container of any kind with items of the given type. -/
def containerOf (item : Ty) : Ty :=
  .generic kindName [.typeVar "_Kind", item, .typeVar "_SecondType", .typeVar "_ThirdType"]

/-- The signature of `map_`. -/
def mapSignature : Signature :=
  ⟨[⟨some "function", .positional, mappedFunction⟩],
   .callable (.ofTypes [containerOf takenItem] (containerOf givenItem))⟩

/-- The value inside of what a decorator wraps. -/
def wrappedValue : Ty := .typeVar "_ValueType"

/-- A coroutine that returns a value. -/
def coroutine (value : Ty) : Ty := .generic "Coroutine" [.any, .any, value]

/-- The refined functions with their strategies and signatures. -/
def declarations : List (String × Strategy × Signature) :=
  [("returns.curry.partial", .partialCall, partialSignature),
   ("returns.curry.curry", .curry, currySignature),
   ("returns._generated.pipeline.flow._flow", .flow, flowSignature),
   ("returns._generated.pointfree.map._map", .pointfree, mapSignature),
   ("returns.result.safe", .decorators,
    decorator wrappedValue (.generic "Result" [wrappedValue, .named "Exception"])),
   ("returns.io.impure", .decorators, decorator wrappedValue (.generic "IO" [wrappedValue])),
   ("returns.io.impure_safe", .decorators,
    decorator wrappedValue (.generic "IOResult" [wrappedValue, .named "Exception"])),
   ("returns.maybe.maybe", .decorators,
    decorator (.union [wrappedValue, .none]) (.generic "Maybe" [wrappedValue])),
   ("returns.future.future", .decorators,
    decorator (coroutine wrappedValue) (.generic "Future" [wrappedValue])),
   ("returns.future.asyncify", .decorators, decorator wrappedValue (coroutine wrappedValue)),
   ("returns.future.future_safe", .decorators,
    decorator (coroutine wrappedValue)
      (.generic "FutureResult" [wrappedValue, .named "Exception"])),
   ("returns.functions.not_", .decorators, decorator .bool .bool)]

/-- The plugin has a strategy for these functions and for no others. -/
theorem hooks_returns :
    Plugin.returns.registry.hooks.entries =
      declarations.map fun (name, strategy, _) => (name, strategy) := by
  decide +kernel

/-- A function that puts a value into a container. -/
def maker (value made : Ty) : Ty := .callable ⟨[⟨some "inner_value", .positional, value⟩], made⟩

/-- A built-in function of one argument. -/
def conversion (name : String) (kind : ParamKind) (taken given : Ty) : Ty :=
  .callable ⟨[⟨some name, kind, taken⟩], given⟩

/-- Names that a stub imports from `typing`. -/
def fromTyping (names : List String) : List (String × String) :=
  names.map fun name => (name, qualified "typing" name)

/-- What the built-in functions are. -/
def builtinsOffer : Exports where
  definitions :=
    [("len", conversion "obj" .positional (.named "object") .int),
     ("print", .callable
       ⟨[⟨some "values", .star, .named "object"⟩, ⟨some "sep", .namedOptional, .str⟩,
         ⟨some "end", .namedOptional, .str⟩], .none⟩),
     ("repr", conversion "obj" .positional (.named "object") .str),
     ("isinstance", .callable
       ⟨[⟨some "obj", .positional, .named "object"⟩, ⟨some "class_or_tuple", .positional, .any⟩],
        .bool⟩),
     ("int", conversion "x" .optional .any .int),
     ("str", conversion "obj" .optional (.named "object") .str),
     ("float", conversion "x" .optional .any .float),
     ("bool", conversion "o" .optional (.named "object") .bool)]
  aliases := fromTyping ["Any"]

/-- What the module of results offers. -/
def resultOffer : Exports where
  definitions :=
    [("Success", maker wrappedValue (.generic "Result" [wrappedValue, .any])),
     ("Failure", maker (.typeVar "_ErrorType") (.generic "Result" [.any, .typeVar "_ErrorType"])),
     ("safe", .callable
       (decorator wrappedValue (.generic "Result" [wrappedValue, .named "Exception"])))]
  aliases := fromTyping ["Any", "Callable", "TypeVar"]

/-- What the module of input and output offers. -/
def ioOffer : Exports where
  definitions :=
    [("IO", maker wrappedValue (.generic "IO" [wrappedValue])),
     ("IOSuccess", maker wrappedValue (.generic "IOResult" [wrappedValue, .any])),
     ("IOFailure",
       maker (.typeVar "_ErrorType") (.generic "IOResult" [.any, .typeVar "_ErrorType"])),
     ("impure", .callable (decorator wrappedValue (.generic "IO" [wrappedValue]))),
     ("impure_safe", .callable
       (decorator wrappedValue (.generic "IOResult" [wrappedValue, .named "Exception"])))]
  aliases := fromTyping ["Any", "Callable", "TypeVar"]

/-- What the module of values that may be missing offers. -/
def maybeOffer : Exports where
  definitions :=
    [("Some", maker wrappedValue (.generic "Maybe" [wrappedValue])),
     ("Nothing", .generic "Maybe" [.never]),
     ("maybe", .callable
       (decorator (.union [wrappedValue, .none]) (.generic "Maybe" [wrappedValue])))]
  aliases := fromTyping ["Any", "Callable", "Optional", "TypeVar"]

/-- What the module of asynchronous values offers. -/
def futureOffer : Exports where
  definitions :=
    [("future", .callable (decorator (coroutine wrappedValue) (.generic "Future" [wrappedValue]))),
     ("asyncify", .callable (decorator wrappedValue (coroutine wrappedValue))),
     ("future_safe", .callable
       (decorator (coroutine wrappedValue)
         (.generic "FutureResult" [wrappedValue, .named "Exception"])))]
  aliases := fromTyping ["Any", "Callable", "Coroutine", "TypeVar"]

/-- What the module of helper functions offers. -/
def functionsOffer : Exports where
  definitions :=
    [("identity", conversion "instance" .positional takenItem takenItem),
     ("not_", .callable (decorator .bool .bool))]
  aliases := fromTyping ["Callable", "TypeVar"]

/-- What the module of partial application offers. -/
def curryOffer : Exports where
  definitions := [("partial", .callable partialSignature), ("curry", .callable currySignature)]
  aliases := fromTyping ["Any", "Callable", "TypeVar"]

/-- What the module behind `flow` offers. -/
def flowOffer : Exports where
  definitions := [("_flow", .callable flowSignature)]
  aliases := fromTyping ["Any", "TypeVar"]

/-- What the module that passes `flow` on offers. -/
def pipelineOffer : Exports where
  aliases := [("flow", "returns._generated.pipeline.flow._flow")]

/-- What the module behind `map_` offers. -/
def mapOffer : Exports where
  definitions := [("_map", .callable mapSignature)]
  aliases := fromTyping ["Callable", "TypeVar"] ++ [("KindN", "returns.primitives.hkt.KindN")]

/-- What the module that passes `map_` on offers. -/
def pointfreeOffer : Exports where
  aliases := [("map_", "returns._generated.pointfree.map._map")]

/-- What the bundled modules offer, in the order of their stubs. -/
def offers : List (String × Exports) :=
  [("builtins", builtinsOffer),
   ("returns.result", resultOffer),
   ("returns.io", ioOffer),
   ("returns.maybe", maybeOffer),
   ("returns.future", futureOffer),
   ("returns.functions", functionsOffer),
   ("returns.curry", curryOffer),
   ("returns._generated.pipeline.flow", flowOffer),
   ("returns.pipeline", pipelineOffer),
   ("returns._generated.pointfree.map", mapOffer),
   ("returns.pointfree", pointfreeOffer)]

/-- The bundled index holds what the modules offer. Each stub is evaluated on its own. -/
theorem index_eq : index = offers.foldl (fun known offer => known.add offer.1 offer.2) {} := by
  unfold index ModuleIndex.ofStubs stubs builtinsStub resultStub ioStub maybeStub futureStub
    functionsStub curryStub flowStub pipelineStub mapStub pointfreeStub offers
  simp only [List.foldl_cons, List.foldl_nil]
  -- from the first stub on, so that each is checked against what the ones before it offer
  rw [ModuleIndex.addStub_of_offer? "builtins" builtinsOffer,
    ModuleIndex.addStub_of_offer? "returns.result" resultOffer,
    ModuleIndex.addStub_of_offer? "returns.io" ioOffer,
    ModuleIndex.addStub_of_offer? "returns.maybe" maybeOffer,
    ModuleIndex.addStub_of_offer? "returns.future" futureOffer,
    ModuleIndex.addStub_of_offer? "returns.functions" functionsOffer,
    ModuleIndex.addStub_of_offer? "returns.curry" curryOffer,
    ModuleIndex.addStub_of_offer? "returns._generated.pipeline.flow" flowOffer,
    ModuleIndex.addStub_of_offer? "returns.pipeline" pipelineOffer,
    ModuleIndex.addStub_of_offer? "returns._generated.pointfree.map" mapOffer,
    ModuleIndex.addStub_of_offer? "returns.pointfree" pointfreeOffer]
  all_goals decide +kernel

/-- The bundled index gives these functions their signatures. -/
theorem find?_declarations :
    (declarations.all fun (name, _, signature) =>
      index.find? name == some (.callable signature)) = true := by
  rw [index_eq]
  decide +kernel

end Bundled

end Callwise
