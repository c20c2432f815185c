import CaseScript.Csv.Dialect
import CaseScript.Table.Basic
import CaseScript.Text.Utf8

/-!
# Tables as delimited text

The header and then the rows are written as records, each ended by a line feed.  A field is quoted
when it holds a delimiter, a quote or the end of a line, and quotes in it are doubled.  A record of
one empty field is written as two quotes, since an empty line is no record.  A table without columns
is an empty file.
-/

namespace CaseScript.Csv.Dialect

open CaseScript.Text (Bytes)

/-- The byte may not stand outside quotes. -/
def isSpecial (dialect : Dialect) (byte : UInt8) : Bool :=
  byte == dialect.delimiter || byte == dialect.quote || isLineEnd byte

/-- The bytes between two quotes, with quotes among them doubled. -/
def enclose (dialect : Dialect) (content : Bytes) : Bytes :=
  dialect.quote ::
    content.flatMap (fun byte => if byte == dialect.quote then [byte, byte] else [byte]) ++
    [dialect.quote]

/-- A field of a record. -/
def writeField (dialect : Dialect) (content : Bytes) : Bytes :=
  if content.any dialect.isSpecial then dialect.enclose content else content

/-- The fields of a record with delimiters between them. -/
def writeFields (dialect : Dialect) : List Bytes → Bytes
  | [] => []
  | [content] => dialect.writeField content
  | content :: contents =>
    dialect.writeField content ++ dialect.delimiter :: dialect.writeFields contents

/-- A record and its end. -/
def writeRecord (dialect : Dialect) (contents : List Bytes) : Bytes :=
  (if contents == [[]] then dialect.enclose [] else dialect.writeFields contents) ++ [10]

/-- The bytes of a table. -/
def write (dialect : Dialect) (table : Table) : Bytes :=
  if table.columns.isEmpty then []
  else (table.columns :: table.rows).flatMap fun texts =>
    dialect.writeRecord (texts.map Text.bytesOf)

end CaseScript.Csv.Dialect
