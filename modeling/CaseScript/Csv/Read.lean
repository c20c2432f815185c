import CaseScript.Csv.Record
import CaseScript.Table.Basic

/-!
# Tables from delimited text

The first record holds the column names, every following one a row; a file without a record is the
blank table.  `Dialect.read` checks, in this order,

* that the names are text and that none is repeated,
* then, row by row, that the row has as many fields as the header and that its fields are text.
-/

namespace CaseScript.Csv

open CaseScript.Text (Bytes)

/-- Why bytes are no table. -/
inductive Fault where
  /-- A record has another number of fields than the header. -/
  | fieldCount (record line byte found expected : Nat)
  /-- A field is no text from one of its bytes on. -/
  | notText (record line byte field index : Nat)
  /-- A column name is repeated. -/
  | header (error : TableError)
  deriving DecidableEq, Repr

namespace Fault

/-- The report of a fault of a record. -/
def message : Fault → String
  | fieldCount record line byte found expected =>
    "CSV error: record " ++ toString record ++ " (line: " ++ toString line ++ ", byte: " ++
      toString byte ++ "): found record with " ++ toString found ++
      " fields, but the previous record has " ++ toString expected ++ " fields"
  | notText record line byte field index =>
    "CSV parse error: record " ++ toString record ++ " (line " ++ toString line ++
      ", field: " ++ toString field ++ ", byte: " ++ toString byte ++
      "): invalid utf-8: invalid UTF-8 in field " ++ toString field ++
      " near byte index " ++ toString index
  | header error => error.message

end Fault

/-- The line on which a byte of a file stands; the first line is 1. -/
def lineAt (bytes : Bytes) (offset : Nat) : Nat := (bytes.take offset).count 10 + 1

/-- The texts of the fields, or the first field that is no text and the byte where it stops being
one. -/
def fieldTexts : List Bytes → Except (Nat × Nat) (List String)
  | [] => .ok []
  | field :: fields =>
    match Text.decode field with
    | .error index => .error (0, index)
    | .ok text =>
      match fieldTexts fields with
      | .error (place, index) => .error (place + 1, index)
      | .ok texts => .ok (String.ofList text :: texts)

/-- The texts of a record; `number` records stand before it in the file. -/
def recordTexts (bytes : Bytes) (number : Nat) (record : Record) : Except Fault (List String) :=
  match fieldTexts record.fields with
  | .ok texts => .ok texts
  | .error (field, index) =>
    .error (.notText number (lineAt bytes record.offset) record.offset field index)

/-- A row of a table with the given number of columns. -/
def rowTexts (bytes : Bytes) (width number : Nat) (record : Record) :
    Except Fault (List String) :=
  if record.fields.length == width then recordTexts bytes number record
  else
    .error (.fieldCount number (lineAt bytes record.offset) record.offset
      record.fields.length width)

/-- The rows of a table; `number` records stand before them in the file. -/
def rowsFrom (bytes : Bytes) (width number : Nat) :
    List Record → Except Fault (List (List String))
  | [] => .ok []
  | record :: records => do
    let row ← rowTexts bytes width number record
    let rows ← rowsFrom bytes width (number + 1) records
    return row :: rows

/-- The table that the bytes of a file hold. -/
def Dialect.read (dialect : Dialect) (bytes : Bytes) : Except Fault Table :=
  match dialect.records bytes with
  | [] => .ok Table.blank
  | header :: records => do
    let names ← recordTexts bytes 0 header
    let table ← (Table.withColumns names).mapError Fault.header
    let rows ← rowsFrom bytes header.fields.length 1 records
    return ⟨table.columns, rows⟩

end CaseScript.Csv
