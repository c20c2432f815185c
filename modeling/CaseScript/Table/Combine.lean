import CaseScript.Table.Basic
import Std.Data.ExtTreeMap.Lemmas

/-!
# Two tables made one

* `cross` sets every row of one table beside every row of the other.
* `join` does so only for rows whose key cells are equal in lower case, and keeps the key once.  The
  right rows are looked up in an index by key.
* `union` puts the rows of one table below those of the other, cells sorted by column name.
-/

namespace CaseScript.Table

/-- The first column of the right table, other than the one passed over, that the left table has
too. -/
def collision? (left right : Table) (passOver : Option Nat) : Option String :=
  (match passOver with
    | some index => right.columns.eraseIdx index
    | none => right.columns).find? fun name => (left.position? name).isSome

/-- Fails on a column that both tables have. -/
def checkCollisions (left right : Table) (passOver : Option Nat) : Except TableError Unit :=
  match collision? left right passOver with
  | some name => .error (.columnCollision name)
  | none => .ok ()

/-- Every row of the left table beside every row of the right one. -/
def cross (left right : Table) : Except TableError Table := do
  checkCollisions left right none
  return ⟨left.columns ++ right.columns,
    left.rows.flatMap fun l => right.rows.map fun r => l ++ r⟩

/-- Rows by the lower-cased cell under their key column. -/
abbrev RowIndex := Std.ExtTreeMap String (List (List String))

namespace RowIndex

/-- The rows with a key, in their order in the table. -/
def rows (index : RowIndex) (key : String) : List (List String) := index.getD key []

/-- The index with one more row at the end. -/
def push (key : Nat) (index : RowIndex) (row : List String) : RowIndex :=
  let name := Text.lower (row.getD key "")
  index.insert name (index.rows name ++ [row])

/-- The index of a list of rows. -/
def ofRows (key : Nat) (rows : List (List String)) : RowIndex := rows.foldl (push key) ∅

end RowIndex

/-- Every row of the left table beside the rows of the right one with the same key. -/
def join (left right : Table) (column : String) : Except TableError Table := do
  let leftKey ← left.require column
  let rightKey ← right.require column
  checkCollisions left right (some rightKey)
  let index := RowIndex.ofRows rightKey right.rows
  return ⟨left.columns ++ right.columns.eraseIdx rightKey,
    left.rows.flatMap fun l =>
      (index.rows (Text.lower (l.getD leftKey ""))).map fun r => l ++ r.eraseIdx rightKey⟩

/-- The rows of the first table and below them those of the second.  A blank table takes over the
second one whole. -/
def union (table other : Table) : Except TableError Table :=
  if table.isBlank then .ok other
  else
    let mismatch := TableError.schemaMismatch table.columns other.columns
    if table.columns.length != other.columns.length then .error mismatch
    else match table.columns.mapM other.position? with
      | none => .error mismatch
      | some places =>
        .ok ⟨table.columns,
          table.rows ++ other.rows.map fun row => places.map fun place => row.getD place ""⟩

end CaseScript.Table
