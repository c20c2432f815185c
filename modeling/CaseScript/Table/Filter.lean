import CaseScript.Action
import CaseScript.Regex
import CaseScript.Table.Basic

/-!
# Row filters

Rows are kept or dropped by the cell of one column (`filter`), or dropped when they repeat an
earlier row (`distinct`).  A filter compares the cell with each of its values by a matcher.
-/

namespace CaseScript

/-- A value of a filter, ready to be compared with cells. -/
inductive Matcher where
  | equal (value : String)
  /-- A pattern, by the test that the library made of it. -/
  | like (isMatch : String → Bool)

namespace Matcher

/-- The matcher of a value. -/
def ofValue [library : RegexLibrary] (operator : Operator) (value : String) :
    Except TableError Matcher :=
  match operator with
  | .equal => .ok (equal value)
  | .like =>
    match library.compile (Glob.ofString value).regex with
    | .ok isMatch => .ok (like isMatch)
    | .error reason => .error (.patternTooLarge ⟨value, reason⟩)

/-- The cell fits the value. -/
def accepts (cell : String) : Matcher → Bool
  | equal value => cell == value
  | like isMatch => isMatch cell

end Matcher

namespace Table

/-- The rows whose cell under a column fits one of the values, or those whose cell fits none. -/
def filter [RegexLibrary] (table : Table) (column : String) (operator : Operator)
    (values : List String) (negate : Bool) : Except TableError Table := do
  let index ← table.require column
  let matchers ← values.mapM (Matcher.ofValue operator)
  return ⟨table.columns,
    table.rows.filter fun row => matchers.any (Matcher.accepts (row.getD index "")) != negate⟩

/-- The rows without those that repeat an earlier one. -/
def distinct (table : Table) : Table := ⟨table.columns, table.rows.eraseDups⟩

end Table

end CaseScript
