import CaseScript.Action
import CaseScript.Table.Basic

/-!
# Column edits

Dropping, renaming, moving and appending a column.  Every edit gives a new table with the same rows
in the same order, each row edited like the header.
-/

namespace CaseScript.Table

/-- The list with the elements at two places exchanged. -/
def exchange {α : Type} (xs : List α) (i j : Nat) : List α :=
  match xs[i]?, xs[j]? with
  | some a, some b => (xs.set i b).set j a
  | _, _ => xs

/-- The table without a column. -/
def removeColumn (table : Table) (name : String) : Except TableError Table := do
  let index ← table.require name
  return ⟨table.columns.eraseIdx index, table.rows.map (·.eraseIdx index)⟩

/-- The table with a column under another name.  The new name may be another spelling of the old
one. -/
def renameColumn (table : Table) (column name : String) : Except TableError Table := do
  let index ← table.require column
  if (table.position? name).any (· != index) then .error (.columnAlreadyExists name)
  else return ⟨table.columns.set index name, table.rows⟩

/-- The place next to a column; nothing at the edge of the table. -/
def neighbour? (table : Table) (index : Nat) : Direction → Option Nat
  | .left => if index == 0 then none else some (index - 1)
  | .right => if index + 1 < table.columns.length then some (index + 1) else none

/-- The table with a column and its neighbour exchanged; at the edge nothing changes. -/
def moveColumn (table : Table) (name : String) (direction : Direction) :
    Except TableError Table := do
  let index ← table.require name
  match table.neighbour? index direction with
  | none => return table
  | some target =>
    return ⟨exchange table.columns index target, table.rows.map (exchange · index target)⟩

/-- The table with one more column, filled with a text or empty. -/
def addColumn (table : Table) (name : String) (fill : Option String) :
    Except TableError Table :=
  match table.position? name with
  | some _ => .error (.columnAlreadyExists name)
  | none => .ok ⟨table.columns ++ [name], table.rows.map (· ++ [fill.getD ""])⟩

end CaseScript.Table
