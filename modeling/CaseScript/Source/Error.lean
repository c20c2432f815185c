import CaseScript.Json.Shape

/-!
# Errors of sources

What can go wrong outside the tables: with files, queries and the texts of queries.  The JSON form
is a choice named for the cause.
-/

namespace CaseScript

/-- Why a table could not be loaded or saved. -/
inductive SourceError where
  | readFailed (path reason : String)
  | writeFailed (path reason : String)
  | connectionFailed (reason : String)
  | queryFailed (reason : String)
  | queryTimeout (seconds : Nat)
  | undefinedVariable (name : String)
  | invalidTable (reason : String)
  | notSupported (feature : String)
  deriving DecidableEq, Repr

namespace SourceError

/-- The report of a source error. -/
def message : SourceError → String
  | readFailed path reason => "Failed to read table from '" ++ path ++ "': " ++ reason
  | writeFailed path reason => "Failed to write table to '" ++ path ++ "': " ++ reason
  | connectionFailed reason => "Failed to connect to data source: " ++ reason
  | queryFailed reason => "Query execution failed: " ++ reason
  | queryTimeout seconds => "Query timed out after " ++ toString seconds ++ "s"
  | undefinedVariable name => "Template variable '" ++ name ++ "' is not defined"
  | invalidTable reason => "Invalid table: " ++ reason
  | notSupported feature => "Feature not supported: " ++ feature

/-- The name of the cause. -/
def kind : SourceError → String
  | readFailed .. => "ReadFailed"
  | writeFailed .. => "WriteFailed"
  | connectionFailed _ => "ConnectionFailed"
  | queryFailed _ => "QueryFailed"
  | queryTimeout _ => "QueryTimeout"
  | undefinedVariable _ => "UndefinedVariable"
  | invalidTable _ => "InvalidTable"
  | notSupported _ => "NotSupported"

/-- The JSON form of what belongs to the cause. -/
def content : SourceError → Json
  | readFailed path reason => .record [("path", .str path), ("reason", .str reason)]
  | writeFailed path reason => .record [("path", .str path), ("reason", .str reason)]
  | connectionFailed reason => .str reason
  | queryFailed reason => .str reason
  | queryTimeout seconds => .nat seconds
  | undefinedVariable name => .str name
  | invalidTable reason => .str reason
  | notSupported feature => .str feature

/-- The JSON form of a source error. -/
def toJson (error : SourceError) : Json := .record [(error.kind, error.content)]

/-- The source error that a JSON value stands for. -/
def ofJson? (value : Json) : Option SourceError := do
  let (name, content) ← value.choice?
  match name with
  | "ReadFailed" =>
    let [some path, some reason] ← content.members? (.ofNames ["path", "reason"]) | none
    return readFailed (← path.text?) (← reason.text?)
  | "WriteFailed" =>
    let [some path, some reason] ← content.members? (.ofNames ["path", "reason"]) | none
    return writeFailed (← path.text?) (← reason.text?)
  | "ConnectionFailed" => return connectionFailed (← content.text?)
  | "QueryFailed" => return queryFailed (← content.text?)
  | "QueryTimeout" => return queryTimeout (← content.nat?)
  | "UndefinedVariable" => return undefinedVariable (← content.text?)
  | "InvalidTable" => return invalidTable (← content.text?)
  | "NotSupported" => return notSupported (← content.text?)
  | _ => none

end SourceError

end CaseScript
