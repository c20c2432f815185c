import CaseScript.Action
import CaseScript.Json.Shape

/-!
# Actions in JSON

`toJson` writes an action as a choice with the members of its kind, `ofJson?` reads it back.  A
program is a record with the one member `actions`.
-/

namespace CaseScript

open Json (Shape)

/-- The JSON form of a source. -/
def Source.toJson : Source → Json
  | file path => .record [("File", .record [("path", .str path)])]
  | queryFile path connection =>
    .record [("QueryFile",
      .record [("path", .str path), ("connection_string", .str connection)])]
  | queryText text connection =>
    .record [("QueryText",
      .record [("text", .str text), ("connection_string", .str connection)])]

/-- The source that a JSON value stands for. -/
def Source.ofJson? (value : Json) : Option Source := do
  let (name, content) ← value.choice?
  match name with
  | "File" =>
    let [some path] ← content.members? (.ofNames ["path"]) | none
    return file (← path.text?)
  | "QueryFile" =>
    let [some path, some connection] ←
      content.members? (.ofNames ["path", "connection_string"]) | none
    return queryFile (← path.text?) (← connection.text?)
  | "QueryText" =>
    let [some text, some connection] ←
      content.members? (.ofNames ["text", "connection_string"]) | none
    return queryText (← text.text?) (← connection.text?)
  | _ => none

/-- The JSON form of a direction. -/
def Direction.toJson : Direction → Json
  | left => .str "Left"
  | right => .str "Right"

/-- The direction that a JSON value stands for. -/
def Direction.ofJson? (value : Json) : Option Direction := do
  let (name, content) ← value.choice?
  content.unit?
  match name with
  | "Left" => return left
  | "Right" => return right
  | _ => none

/-- The JSON form of an operator. -/
def Operator.toJson : Operator → Json
  | equal => .str "Equal"
  | like => .str "Like"

/-- The operator that a JSON value stands for. -/
def Operator.ofJson? (value : Json) : Option Operator := do
  let (name, content) ← value.choice?
  content.unit?
  match name with
  | "Equal" => return equal
  | "Like" => return like
  | _ => none

/-- The JSON form of an action. -/
def Action.toJson : Action → Json
  | load source => .record [("Load", .record [("source", source.toJson)])]
  | remove column => .record [("Remove", .record [("column", .str column)])]
  | rename column name => .record [("Rename", .record [("old", .str column), ("new", .str name)])]
  | move column direction =>
    .record [("Move", .record [("column", .str column), ("direction", direction.toJson)])]
  | filter column operator values negate =>
    .record [("Filter",
      .record [("column", .str column), ("operator", operator.toJson),
        ("values", .strings values), ("negate", .boolean negate)])]
  | distinct => .str "FilterDistinct"
  | scope name => .record [("Scope", .record [("name", .str name)])]
  | cross first second key =>
    .record [("Cross",
      .record [("first", .str first), ("second", .str second),
        ("join_column", .nullable .str key)])]
  | save path => .record [("Save", .record [("path", .str path)])]
  | copy source target => .record [("Copy", .record [("from", .str source), ("to", .str target)])]
  | add column fill =>
    .record [("Add", .record [("column", .str column), ("default", .nullable .str fill)])]
  | merge name => .record [("Merge", .record [("scope", .str name)])]

/-- The action that a JSON value stands for. -/
def Action.ofJson? (value : Json) : Option Action := do
  let (name, content) ← value.choice?
  match name with
  | "Load" =>
    let [some source] ← content.members? (.ofNames ["source"]) | none
    return load (← Source.ofJson? source)
  | "Remove" =>
    let [some column] ← content.members? (.ofNames ["column"]) | none
    return remove (← column.text?)
  | "Rename" =>
    let [some column, some name] ← content.members? (.ofNames ["old", "new"]) | none
    return rename (← column.text?) (← name.text?)
  | "Move" =>
    let [some column, some direction] ← content.members? (.ofNames ["column", "direction"]) | none
    return move (← column.text?) (← Direction.ofJson? direction)
  | "Filter" =>
    let [some column, some operator, some values, some negate] ←
      content.members? (.ofNames ["column", "operator", "values", "negate"]) | none
    return filter (← column.text?) (← Operator.ofJson? operator)
      (← values.list? Json.text?) (← negate.boolean?)
  | "FilterDistinct" =>
    content.unit?
    return distinct
  | "Scope" =>
    let [some name] ← content.members? (.ofNames ["name"]) | none
    return scope (← name.text?)
  | "Cross" =>
    let [some first, some second, key] ←
      content.members? (.ofNames ["first", "second", "join_column"]) | none
    return cross (← first.text?) (← second.text?) (← Json.optionalMember? Json.text? key)
  | "Save" =>
    let [some path] ← content.members? (.ofNames ["path"]) | none
    return save (← path.text?)
  | "Copy" =>
    let [some source, some target] ← content.members? (.ofNames ["from", "to"]) | none
    return copy (← source.text?) (← target.text?)
  | "Add" =>
    let [some column, fill] ← content.members? (.ofNames ["column", "default"]) | none
    return add (← column.text?) (← Json.optionalMember? Json.text? fill)
  | "Merge" =>
    let [some name] ← content.members? (.ofNames ["scope"]) | none
    return merge (← name.text?)
  | _ => none

/-- The JSON form of a program. -/
def Program.toJson (program : Program) : Json :=
  .record [("actions", .array (program.map Action.toJson))]

/-- The program that a JSON value stands for. -/
def Program.ofJson? (value : Json) : Option Program := do
  let [some actions] ← value.members? (.ofNames ["actions"]) | none
  actions.list? Action.ofJson?

end CaseScript
