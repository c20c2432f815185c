import CaseScript.Table.Error
import CaseScript.Text.LowerCase

/-!
# Tables

A case set is a table: a list of column names and a list of rows of text cells.  Column names are
the same when they are equal in lower case.

* `Table.Valid`: every row has one cell for each column, and no two columns have the same name.
* `Table.withColumns`, `Table.pushRow` and `Table.ofRows` build tables and check both conditions.
* `Table.position?`, `Table.require`, `Table.columnValues` and `Table.cell?` look columns and cells
  up by name.
-/

namespace CaseScript

/-- Column names and rows of cells. -/
structure Table where
  columns : List String
  rows : List (List String)
  deriving DecidableEq, Repr, Inhabited

/-- Two spellings of the same column name. -/
def sameName (a b : String) : Bool := Text.lower a == Text.lower b

namespace Table

/-- The table without columns and rows. -/
def blank : Table := ⟨[], []⟩

/-- One cell per column in every row, and no column name twice. -/
structure Valid (table : Table) : Prop where
  distinctNames : (table.columns.map Text.lower).Nodup
  rowWidths : ∀ row ∈ table.rows, row.length = table.columns.length

instance (table : Table) : Decidable table.Valid :=
  decidable_of_iff
    ((table.columns.map Text.lower).Nodup ∧ ∀ row ∈ table.rows, row.length = table.columns.length)
    ⟨fun h => ⟨h.1, h.2⟩, fun h => ⟨h.1, h.2⟩⟩

/-- The place of a column. -/
def position? (table : Table) (name : String) : Option Nat :=
  table.columns.findIdx? (sameName · name)

/-- The place of a column that has to exist. -/
def require (table : Table) (name : String) : Except TableError Nat :=
  match table.position? name with
  | some index => .ok index
  | none => .error (.columnNotFound name)

/-- The table with one more column; it has no rows yet. -/
def pushColumn (table : Table) (name : String) : Except TableError Table :=
  match table.position? name with
  | some _ => .error (.columnAlreadyExists name)
  | none => .ok ⟨table.columns ++ [name], table.rows⟩

/-- The table with the given columns and no rows. -/
def withColumns (names : List String) : Except TableError Table :=
  names.foldlM pushColumn blank

/-- The table with one more row. -/
def pushRow (table : Table) (row : List String) : Except TableError Table :=
  if row.length == table.columns.length then .ok ⟨table.columns, table.rows ++ [row]⟩
  else .error (.rowWidthMismatch table.rows.length table.columns.length row.length)

/-- The table with the given columns and rows. -/
def ofRows (names : List String) (rows : List (List String)) : Except TableError Table := do
  rows.foldlM pushRow (← withColumns names)

/-- The cells of a column from top to bottom. -/
def columnValues (table : Table) (name : String) : Except TableError (List String) := do
  let index ← table.require name
  return table.rows.map (·.getD index "")

/-- The cell of a row under a column. -/
def cell? (table : Table) (row : Nat) (name : String) : Option String := do
  let index ← table.position? name
  let cells ← table.rows[row]?
  return cells.getD index ""

/-- There are neither columns nor rows. -/
def isBlank (table : Table) : Bool := table.columns.isEmpty && table.rows.isEmpty

end Table

end CaseScript
