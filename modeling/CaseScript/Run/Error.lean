import CaseScript.Action
import CaseScript.Source.Error
import CaseScript.Table.Error

/-!
# Errors of runs

A run ends at the first action that fails.  Its error names the action, by its place in the program
and as it is written, and the cause.
-/

namespace CaseScript

/-- Why an action fails. -/
inductive StepError where
  /-- It does not fit the tables and scopes. -/
  | table (error : TableError)
  /-- A table could not be loaded or saved. -/
  | source (error : SourceError)
  deriving DecidableEq, Repr

/-- The report of a cause. -/
def StepError.message : StepError → String
  | table error => error.message
  | source error => error.message

/-- The failure of one action of a program. -/
structure RunError where
  /-- The number of actions before it. -/
  index : Nat
  /-- The action as it is written. -/
  action : String
  cause : StepError
  deriving DecidableEq, Repr

namespace RunError

/-- The failure of an action. -/
def ofStep (index : Nat) (action : Action) (cause : StepError) : RunError :=
  ⟨index, action.render, cause⟩

/-- The report of a failure. -/
def message (error : RunError) : String :=
  "Action " ++ toString (error.index + 1) ++ " `" ++ error.action ++ "` failed: " ++
    error.cause.message

end RunError

end CaseScript
