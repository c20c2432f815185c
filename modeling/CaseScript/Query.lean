import CaseScript.Source.Error
import CaseScript.Table.Basic
import CaseScript.Text.Blank
import Std.Data.ExtTreeMap.Lemmas

/-!
# Queries

A query service answers a query on a connection with a table.  There are three of them:

* one that answers nothing,
* one that looks queries up in a book of answers and wants a connection,
* one that keeps a record of the calls, and answers from a book or with one and the same error.

Queries are looked up without the blanks around them.
-/

namespace CaseScript

/-- The answers to queries, by the query without the blanks around it. -/
structure AnswerBook where
  answers : Std.ExtTreeMap String Table

namespace AnswerBook

/-- The book without answers. -/
def empty : AnswerBook := ⟨∅⟩

/-- The book with an answer in place of an earlier one to the same query. -/
def insert (book : AnswerBook) (query : String) (table : Table) : AnswerBook :=
  ⟨book.answers.insert (Text.trimmed query) table⟩

/-- The answer to a query. -/
def get? (book : AnswerBook) (query : String) : Option Table :=
  book.answers[Text.trimmed query]?

/-- The number of answers. -/
def size (book : AnswerBook) : Nat := book.answers.size

/-- The book that a list fills from front to back. -/
def ofList (entries : List (String × Table)) : AnswerBook :=
  entries.foldl (fun book entry => book.insert entry.1 entry.2) empty

end AnswerBook

/-- A query and the connection on which it was asked. -/
structure QueryCall where
  connection : String
  query : String
  deriving DecidableEq, Repr

/-- What answers queries. -/
inductive QueryService where
  /-- There is none. -/
  | unavailable
  /-- Answers stand in a book. -/
  | prepared (book : AnswerBook)
  /-- Calls are recorded; answers stand in a book, or all calls fail in one way. -/
  | recording (book : AnswerBook) (failure : Option SourceError)

namespace QueryService

/-- The answer to a call. -/
def answer (service : QueryService) (call : QueryCall) : Except SourceError Table :=
  match service with
  | unavailable => .error (.notSupported "no query runner is configured")
  | prepared book =>
    if Text.trimmed call.connection == "" then
      .error (.connectionFailed "connection string is empty")
    else match book.get? call.query with
      | some table => .ok table
      | none =>
        .error (.queryFailed
          ("no result registered for query '" ++ Text.trimmed call.query ++ "'"))
  | recording book failure =>
    match failure, book.get? call.query with
    | some error, _ => .error error
    | none, some table => .ok table
    | none, none => .error (.queryFailed ("unexpected query '" ++ call.query ++ "'"))

/-- The record of earlier calls with one more. -/
def record (service : QueryService) (calls : List QueryCall) (call : QueryCall) :
    List QueryCall :=
  match service with
  | recording .. => calls ++ [call]
  | _ => calls

end QueryService

end CaseScript
