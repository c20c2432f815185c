import CaseScript.Syntax.Reader
import CaseScript.Text.Blank
import CaseScript.Text.Utf8

/-!
# Syntax errors

A script that is no program is answered with the place of its first fault: which statement, where in
the source, what would have been accepted there and what stands there instead.
-/

namespace CaseScript

open CaseScript.Text CaseScript.Syntax

/-- The first fault of a script. -/
structure SyntaxError where
  /-- The number of statements before the faulty one. -/
  statement : Nat
  /-- The bytes before the fault. -/
  offset : Nat
  /-- The line of the fault; the first line is 1. -/
  line : Nat
  /-- The character of the line at which the fault stands; the first one is 1. -/
  column : Nat
  /-- The tokens that would have been accepted, in the order of their labels. -/
  expected : List Expected
  /-- The word at the fault, cut to 24 characters; empty at the end of the script. -/
  found : String
  deriving DecidableEq, Repr

namespace SyntaxError

/-- The fault behind a failure of a reader in the given source. -/
def ofFailure (source : List Char) (statement : Nat) (failure : Failure) : SyntaxError :=
  let before := source.take (source.length - failure.rest.length)
  { statement
    offset := utf8Length before
    line := before.count '\n' + 1
    column := (before.reverse.takeWhile (· != '\n')).length + 1
    expected := Expected.inLabelOrder.filter failure.expected.contains
    found := String.ofList ((firstWord failure.rest).take 24) }

/-- The script ends at the fault. -/
def isAtEnd (error : SyntaxError) : Bool := error.found.isEmpty

/-- The expected tokens in words. -/
def describeExpected : List Expected → String
  | [] => "a case statement"
  | [token] => "'" ++ token.label ++ "'"
  | tokens => "one of " ++ ", ".intercalate (tokens.map fun token => "'" ++ token.label ++ "'")

/-- What stands at the fault, in words. -/
def describeFound (found : String) : String :=
  if found.isEmpty then "end of input" else "'" ++ found ++ "'"

/-- The report of a fault. -/
def message (error : SyntaxError) : String :=
  "Syntax error in statement " ++ toString (error.statement + 1) ++
    " at line " ++ toString error.line ++ ", column " ++ toString error.column ++
    ": expected " ++ describeExpected error.expected ++
    ", found " ++ describeFound error.found

end SyntaxError

end CaseScript
