/-!
# Values of a settings file

A settings file is a tree of tables. A table is opened by a header, named in passing by a longer
header, or made by a dotted key, and what may still be added to it depends on which of the three it
was. `Fields.update` holds these rules: it walks along a path, makes the tables that are missing,
and refuses to walk into a value or to reopen a table that a header has closed.
-/

namespace Callwise.Toml

/-- How a table came to be. -/
inductive Origin where
  /-- Opened by a header of its own, or the whole file. -/
  | header
  /-- On the way to the table of a longer header. -/
  | implied
  /-- On the way of a dotted key. -/
  | dotted
  deriving DecidableEq, Repr, Inhabited

/-- A value. Numbers with a fraction and points in time are read, but what they stand for is not
kept. -/
inductive Node where
  | text (value : String)
  | integer (value : Int)
  | float
  | boolean (value : Bool)
  | moment
  | array (items : List Node)
  /-- A table written in braces, to which nothing can be added. -/
  | inline (fields : List (String × Node))
  | table (origin : Origin) (fields : List (String × Node))
  /-- The rows of a table that doubled headers open. The last row comes first. -/
  | rows (latest : List (String × Node)) (earlier : List (List (String × Node)))
  deriving Inhabited

/-- The fields of a table in the order in which they were added. -/
abbrev Fields := List (String × Node)

namespace Fields

/-- Give a field that is there another value. -/
def replace (fields : Fields) (key : String) (value : Node) : Fields :=
  fields.map fun field => if field.1 == key then (key, value) else field

/-- Add a field that is not there yet. -/
def add (fields : Fields) (key : String) (value : Node) : Option Fields :=
  match fields.lookup key with
  | some _ => none
  | none => some (fields ++ [(key, value)])

/-- Change the table at the end of a path. Tables that are missing on the way are made with the
given origin. A dotted key does not lead into a table that has a header; nothing leads into a plain
value. The way through rows is the way through the last one. -/
def update (step : Origin) (change : Origin → Fields → Option (Origin × Fields)) :
    (path : List String) → Origin → Fields → Option (Origin × Fields)
  | [], origin, fields => change origin fields
  | key :: path, origin, fields =>
    match fields.lookup key with
    | none => do
      let (inner, content) ← update step change path step []
      some (origin, fields ++ [(key, .table inner content)])
    | some (.table inner content) =>
      if step == .dotted && inner == .header then none
      else do
        let (inner, content) ← update step change path inner content
        some (origin, fields.replace key (.table inner content))
    | some (.rows latest earlier) => do
      let (_, latest) ← update step change path .header latest
      some (origin, fields.replace key (.rows latest earlier))
    | some _ => none

/-- Add a value under a dotted key to a table. The last table on the way belongs to dotted keys. -/
def addDotted (path : List String) (key : String) (value : Node) (origin : Origin)
    (fields : Fields) : Option (Origin × Fields) :=
  let change := fun (target : Origin) (content : Fields) =>
    if (target == .dotted) == path.isEmpty then none
    else (content.add key value).map fun content => (target, content)
  update .dotted change path origin fields

end Fields

end Callwise.Toml
