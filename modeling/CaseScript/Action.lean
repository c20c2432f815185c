/-!
# Actions

An action is one step on a case set: it loads, edits, combines, stores or saves the active table.
This file holds the type, what an action touches outside the active table, and its written form.

* `isExternal` picks the actions that reach files or queries.
* `scopeReads` and `scopeWrite` name the scopes an action looks up and the scope it stores.
* `render` writes an action as a statement of the case language.
-/

namespace CaseScript

/-- Where a loaded table comes from. -/
inductive Source where
  /-- A table file. -/
  | file (path : String)
  /-- The answer to a query that stands in a file. -/
  | queryFile (path connection : String)
  /-- The answer to a query that stands in the script. -/
  | queryText (text connection : String)
  deriving DecidableEq, Repr

/-- The neighbour a moved column changes places with. -/
inductive Direction where
  | left
  | right
  deriving DecidableEq, Repr

/-- How a filter compares a cell with a value. -/
inductive Operator where
  /-- The cell is the value. -/
  | equal
  /-- The cell has the shape of the value, a pattern with wildcards. -/
  | like
  deriving DecidableEq, Repr

/-- One step on a case set. -/
inductive Action where
  /-- Replace the active table by a loaded one. -/
  | load (source : Source)
  /-- Drop a column. -/
  | remove (column : String)
  /-- Give a column another name. -/
  | rename (column name : String)
  /-- Exchange a column with its neighbour. -/
  | move (column : String) (direction : Direction)
  /-- Keep the rows whose cell fits one of the values, or drop them. -/
  | filter (column : String) (operator : Operator) (values : List String) (negate : Bool)
  /-- Drop repeated rows. -/
  | distinct
  /-- Store the active table under a name. -/
  | scope (name : String)
  /-- Combine two stored tables, on a shared column if one is given. -/
  | cross (first second : String) (key : Option String)
  /-- Write the active table to a file. -/
  | save (path : String)
  /-- Store a stored table under a second name. -/
  | copy (source target : String)
  /-- Append a column, filled with a text or empty. -/
  | add (column : String) (fill : Option String)
  /-- Append the rows of a stored table. -/
  | merge (name : String)
  deriving DecidableEq, Repr

/-- The step of a direction along the columns. -/
def Direction.step : Direction → Int
  | .left => -1
  | .right => 1

/-- The source is a table file. -/
def Source.isFile : Source → Bool
  | .file _ => true
  | _ => false

namespace Action

/-- The words a statement of this kind is known by. -/
def keyword : Action → String
  | load _ => "load"
  | remove _ => "remove"
  | rename _ _ => "rename"
  | move _ _ => "move"
  | filter .. => "filter"
  | distinct => "filter distinct"
  | scope _ => "scope"
  | cross .. => "cross"
  | save _ => "save"
  | copy _ _ => "copy"
  | add _ _ => "add"
  | merge _ => "merge"

/-- The action reaches a file or a query. -/
def isExternal : Action → Bool
  | load _ => true
  | save _ => true
  | _ => false

/-- The scopes the action looks up, in the order in which it does. -/
def scopeReads : Action → List String
  | cross first second _ => [first, second]
  | copy source _ => [source]
  | merge name => [name]
  | _ => []

/-- The scope the action stores. -/
def scopeWrite : Action → Option String
  | scope name => some name
  | copy _ target => some target
  | _ => none

end Action

/-- A text between quotes: single quotes unless it holds one. -/
def quoted (text : String) : String :=
  if text.toList.contains '\'' then "\"" ++ text ++ "\"" else "'" ++ text ++ "'"

/-- The written form of a source. -/
def Source.render : Source → String
  | .file path => "file " ++ quoted path
  | .queryFile path connection => "query " ++ quoted path ++ " on " ++ quoted connection
  | .queryText text connection =>
    "query \x7b " ++ text ++ " \x7d on " ++ quoted connection

/-- The written form of a direction. -/
def Direction.render : Direction → String
  | .left => "left"
  | .right => "right"

/-- The written form of an operator. -/
def Operator.render : Operator → String
  | .equal => "equal"
  | .like => "like"

/-- The written form of an action, without a mark at its end. -/
def Action.render : Action → String
  | load source => "case load " ++ source.render
  | remove column => "case remove column " ++ quoted column
  | rename column name => "case rename column " ++ quoted column ++ " into " ++ quoted name
  | move column direction => "case move column " ++ quoted column ++ " to " ++ direction.render
  | filter column operator values negate =>
    "case filter on column " ++ quoted column ++ " values " ++ (if negate then "not " else "") ++
      operator.render ++ String.join (values.map fun value => " " ++ quoted value)
  | distinct => "case filter on distinct"
  | scope name => "case scope " ++ quoted name
  | cross first second key =>
    "case cross " ++ quoted first ++ " with " ++ quoted second ++
      (match key with
        | some column => " on " ++ quoted column
        | none => "")
  | save path => "case save as " ++ quoted path
  | copy source target => "case copy " ++ quoted source ++ " to " ++ quoted target
  | add column fill =>
    "case add column " ++ quoted column ++
      (match fill with
        | some text => " values " ++ quoted text
        | none => "")
  | merge name => "case merge with " ++ quoted name

/-- A program: actions in the order in which they run. -/
abbrev Program := List Action

/-- The written form of a program: each statement ends with a semicolon and a new line. -/
def Program.render (program : Program) : String :=
  String.join (program.map fun action => action.render ++ ";\n")

end CaseScript
