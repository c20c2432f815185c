import CaseScript.Path
import CaseScript.Query
import CaseScript.Table.Basic
import CaseScript.Template

/-!
# Hosts

A run reaches the world outside its tables through a host.  A request to the host may change the
state of the world, also when it fails.
-/

namespace CaseScript

/-- A computation that may change the state of the world and may fail; a failure does not undo the
changes before it. -/
abbrev Effect (σ ε α : Type) := ExceptT ε (StateM σ) α

/-- What a run can ask for; `σ` is the state of the world. -/
structure Host (σ : Type) where
  /-- The table in a file. -/
  readTable : Path → Effect σ SourceError Table
  /-- Puts a table into a file. -/
  writeTable : Path → Table → Effect σ SourceError Unit
  /-- The query in a file. -/
  readQuery : Path → Effect σ SourceError String
  /-- The text of a query with the values of variables in their places. -/
  render : Bindings → String → Effect σ SourceError String
  /-- The answer to a query. -/
  answer : QueryCall → Effect σ SourceError Table

end CaseScript
