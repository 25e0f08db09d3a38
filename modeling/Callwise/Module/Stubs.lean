import Callwise.Check.Statements

/-!
# Modules from stub texts

A stub is the text of a module with definitions that have no bodies. Stubs are checked in order,
each against the modules before it and without plugins, and what they export goes into the index. A
stub that does not parse is left out.
-/

namespace Callwise.ModuleIndex

/-- Add the module with this stub. -/
def addStub (index : ModuleIndex) (stub : String × String) : ModuleIndex :=
  let (module, text) := stub
  match parseProgram text with
  | .error _ => index
  | .ok body =>
    let checker : Checker := { file := "<stub " ++ module ++ ">" }
    index.add module (checker.checkModule { index } body text).exports

/-- The index of modules given by their names and stubs. -/
def ofStubs (stubs : List (String × String)) : ModuleIndex := stubs.foldl addStub {}

end Callwise.ModuleIndex
