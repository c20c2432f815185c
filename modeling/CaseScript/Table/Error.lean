import CaseScript.Text.Quotation

/-!
# Table errors

What can be wrong with an operation on tables and scopes, and how it is reported.
-/

namespace CaseScript

/-- A pattern that is refused, and the reason. -/
structure RefusedPattern where
  pattern : String
  reason : String
  deriving DecidableEq, Repr

/-- Why an operation on tables or scopes cannot be done. -/
inductive TableError where
  | columnNotFound (name : String)
  | columnAlreadyExists (name : String)
  | scopeNotFound (name : String)
  /-- Two tables that should have the same columns have not. -/
  | schemaMismatch (expected found : List String)
  /-- Two tables that are set side by side share a column. -/
  | columnCollision (name : String)
  | rowWidthMismatch (row expected found : Nat)
  /-- A pattern is more than the library of regular expressions takes. -/
  | patternTooLarge (refused : RefusedPattern)
  deriving DecidableEq, Repr

/-- The report of a table error. -/
def TableError.message : TableError → String
  | columnNotFound name => "Column not found: " ++ name
  | columnAlreadyExists name => "Column already exists: " ++ name
  | scopeNotFound name => "Scope not found: " ++ name
  | schemaMismatch expected found =>
    "Column set mismatch: expected " ++ Text.quotationList expected ++
      ", found " ++ Text.quotationList found
  | columnCollision name => "Column '" ++ name ++ "' exists on both sides of the cross"
  | rowWidthMismatch row expected found =>
    "Row " ++ toString row ++ " has " ++ toString found ++ " cells but the table has " ++
      toString expected ++ " columns"
  | patternTooLarge refused =>
    "Invalid like pattern '" ++ refused.pattern ++ "': " ++ refused.reason

end CaseScript
