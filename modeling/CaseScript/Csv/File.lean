import CaseScript.Csv.Read
import CaseScript.Csv.Write
import CaseScript.Source.Error

/-!
# Table files

A fault in the bytes of a file becomes a source error that names the file.  A header that makes no
table is reported without the name of the file.  Nothing is written where a row has another number
of cells than the header, since no file with such a record reads back.
-/

namespace CaseScript.Csv

/-- The source error of a fault in the file with the given name. -/
def Fault.inFile (file : String) : Fault → SourceError
  | header error => .invalidTable error.message
  | fault => .readFailed file fault.message

/-- The table in the file with the given name and bytes. -/
def Dialect.readNamed (dialect : Dialect) (file : String) (bytes : Text.Bytes) :
    Except SourceError Table :=
  (dialect.read bytes).mapError (Fault.inFile file)

/-- The report of a record with another number of fields than the first one. -/
def unequalRecords (found expected : Nat) : String :=
  "CSV error: found record with " ++ toString found ++
    " fields, but the previous record has " ++ toString expected ++ " fields"

/-- The bytes of the file with the given name and table. -/
def Dialect.writeNamed (dialect : Dialect) (file : String) (table : Table) :
    Except SourceError Text.Bytes :=
  match table.rows.find? fun row => row.length != table.columns.length with
  | none => .ok (dialect.write table)
  | some row =>
    if table.columns.isEmpty then .ok (dialect.write table)
    else .error (.writeFailed file (unequalRecords row.length table.columns.length))

end CaseScript.Csv
