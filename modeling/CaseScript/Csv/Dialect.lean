import CaseScript.Text.Quotation

/-!
# Dialects of delimited text

A dialect fixes the byte between two fields and the byte around a field that needs quoting.  Both
are ASCII characters, neither ends a line, and they differ.  `Dialect.ofChars` checks this for two
characters, the delimiter first.
-/

namespace CaseScript.Csv

/-- The byte ends a record. -/
def isLineEnd (byte : UInt8) : Bool := byte == 10 || byte == 13

/-- The delimiter and the quote of a file. -/
structure Dialect where
  delimiter : UInt8
  quote : UInt8
  delimiter_lt : delimiter < 128 := by decide
  quote_lt : quote < 128 := by decide
  delimiter_not_end : isLineEnd delimiter = false := by decide
  quote_not_end : isLineEnd quote = false := by decide
  delimiter_ne_quote : delimiter ≠ quote := by decide
  deriving DecidableEq

/-- Semicolons between fields and double quotes around them. -/
def Dialect.standard : Dialect := { delimiter := 59, quote := 34 }

/-- The part a character plays in a dialect. -/
inductive Role where
  | delimiter
  | quote
  deriving DecidableEq, Repr

/-- The name of a part. -/
def Role.name : Role → String
  | delimiter => "delimiter"
  | quote => "quote"

/-- Why two characters make no dialect. -/
inductive DialectError where
  /-- The character is no ASCII character or ends a line. -/
  | notOneByte (role : Role) (c : Char)
  /-- The same character plays both parts. -/
  | sameCharacter (c : Char)
  deriving DecidableEq, Repr

/-- The report of a dialect error. -/
def DialectError.message : DialectError → String
  | notOneByte role c =>
    "Invalid CSV dialect: " ++ role.name ++ " " ++ Text.quotation '\'' [c] ++
      " must be a single ASCII character"
  | sameCharacter c =>
    "Invalid CSV dialect: delimiter and quote are both " ++ Text.quotation '\'' [c]

/-- The byte of a character that may separate or quote fields. -/
def byte? (role : Role) (c : Char) :
    Except DialectError { byte : UInt8 // byte < 128 ∧ isLineEnd byte = false } :=
  let byte := UInt8.ofNat c.toNat
  if h : c.toNat < 128 ∧ byte < 128 ∧ isLineEnd byte = false then .ok ⟨byte, h.2⟩
  else .error (.notOneByte role c)

/-- The dialect of two characters. -/
def Dialect.ofChars (delimiter quote : Char) : Except DialectError Dialect := do
  let d ← byte? .delimiter delimiter
  let q ← byte? .quote quote
  if h : d.val = q.val then .error (.sameCharacter delimiter)
  else return ⟨d.val, q.val, d.property.1, q.property.1, d.property.2, q.property.2, h⟩

end CaseScript.Csv
