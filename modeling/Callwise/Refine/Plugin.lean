import Callwise.Refine.Registry

/-!
# Plugins

A plugin is a registry with a name. Plugins are asked in order, and the first that has a strategy
for a function decides. The bundled plugin knows the functions of the `returns` library by the
modules that define them.
-/

namespace Callwise

/-- A named registry. -/
structure Plugin (σ : Type := Strategy) where
  name : String
  registry : Registry σ
  deriving Inhabited

namespace Plugin

/-- The decorators that keep the signature of what they decorate. -/
def wrappingDecorators : List String :=
  ["returns.result.safe", "returns.io.impure", "returns.io.impure_safe", "returns.maybe.maybe",
   "returns.future.future", "returns.future.asyncify", "returns.future.future_safe",
   "returns.functions.not_"]

/-- The table of the `returns` plugin. -/
def returnsTable : RegistryTable :=
  (((({} : RegistryTable).register "returns.curry.partial" .partialCall).register
    "returns.curry.curry" .curry).register
    "returns._generated.pipeline.flow._flow" .flow).registerAll
    ["returns._generated.pointfree.map._map"] .pointfree |>.registerAll
    wrappingDecorators .decorators

/-- The plugin for the `returns` library. -/
def returns : Plugin := ⟨"returns", returnsTable.build⟩

/-- The plugins that can be named in a configuration. -/
def bundled : List Plugin := [returns]

/-- The names of the bundled plugins. -/
def bundledNames : List String := bundled.map Plugin.name

/-- The strategy of the first plugin that has one for the full name. -/
def findHook? {σ : Type} (plugins : List (Plugin σ)) (fullName : String) : Option σ :=
  plugins.findSome? fun plugin => plugin.registry.find? fullName

end Plugin

/-- A configured plugin that does not exist, with a name that may have been meant. -/
structure UnknownPlugin where
  name : String
  suggestion : Option String
  deriving DecidableEq, Repr, Inhabited

/-- The text of the error. -/
def UnknownPlugin.message (error : UnknownPlugin) : String :=
  let hint := match error.suggestion with
    | some best => " (did you mean '" ++ best ++ "'?)"
    | none => ""
  "Unknown plugin: " ++ error.name ++ hint

/-- The bundled plugin of this name. -/
def Plugin.load (name : String) : Except UnknownPlugin Plugin :=
  match Plugin.bundled.find? fun plugin => plugin.name == name with
  | some plugin => .ok plugin
  | none => .error ⟨name, (EditDistance.nearest name Plugin.bundledNames 3).head?⟩

/-- The bundled plugins of these names, in order; the first unknown name is an error. -/
def Plugin.loadAll (names : List String) : Except UnknownPlugin (List Plugin) :=
  names.mapM Plugin.load

end Callwise
