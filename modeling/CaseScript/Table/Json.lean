import CaseScript.Json.Shape
import CaseScript.Scopes

/-!
# Tables and scopes in JSON

A table is a record of its columns and rows, scopes are a record with the one member `scopes`.  What
is read is checked: a value of the right shape that is no valid table is refused.
-/

namespace CaseScript

open Json (Shape)

/-- The JSON form of a table. -/
def Table.toJson (table : Table) : Json :=
  .record [("columns", .strings table.columns), ("rows", .array (table.rows.map .strings))]

/-- The valid table that a JSON value stands for. -/
def Table.ofJson? (value : Json) : Option Table := do
  let [some columns, some rows] ← value.members? (.ofNames ["columns", "rows"]) | none
  let names ← columns.list? Json.text?
  let rows ← rows.list? (Json.list? Json.text?)
  (Table.ofRows names rows).toOption

/-- The JSON form of stored tables: their names, each with its table. -/
def Scopes.tablesToJson (scopes : Scopes) : Json :=
  .record (scopes.toList.map fun (name, table) => (name, table.toJson))

/-- The JSON form of scopes. -/
def Scopes.toJson (scopes : Scopes) : Json := .record [("scopes", scopes.tablesToJson)]

/-- A name and the table that a JSON value stands for. -/
def Scopes.entry? (member : Option String × Json) : Option (String × Table) := do
  return (← member.1, ← Table.ofJson? member.2)

/-- The scopes that a JSON value stands for; under a repeated name the last table counts. -/
def Scopes.ofJson? (value : Json) : Option Scopes := do
  let [some (.object members)] ← value.members? (.ofNames ["scopes"]) | none
  return ofList (← members.mapM entry?)

end CaseScript
