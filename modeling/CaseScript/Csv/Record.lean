import CaseScript.Csv.Dialect
import CaseScript.Text.Utf8

/-!
# Records

A file of delimited text is a sequence of records, and a record a sequence of fields.

* A line feed and a carriage return each end a record; where nothing stands between two ends there
  is no record.
* A quote opens a quoted section only as the first byte of a field.  Inside it a doubled quote is
  one quote, and a single quote closes it; what follows up to the next delimiter or end belongs to
  the field as it stands.  Elsewhere a quote is a byte like any other.

`Dialect.records` splits the bytes of a file; each record remembers where its reading started.  The
lemmas `length_field_le` and `length_fields_le` say that splitting never makes up bytes.
-/

namespace CaseScript.Csv

open CaseScript.Text (Bytes)

/-- A record: where its reading started, counted in bytes, and its fields. -/
structure Record where
  offset : Nat
  fields : List Bytes
  deriving DecidableEq, Repr

/-- The bytes of a quoted section without its opening quote, and what follows its closing quote. -/
def quotedSection (quote : UInt8) : Bytes → Bytes × Bytes
  | [] => ([], [])
  | [b] => if b == quote then ([], []) else ([b], [])
  | b :: c :: rest =>
    if b == quote then
      if c == quote then
        let (inside, after) := quotedSection quote rest
        (quote :: inside, after)
      else ([], c :: rest)
    else
      let (inside, after) := quotedSection quote (c :: rest)
      (b :: inside, after)

namespace Dialect

/-- The byte ends a field. -/
def endsField (dialect : Dialect) (byte : UInt8) : Bool :=
  byte == dialect.delimiter || isLineEnd byte

/-- The bytes up to the end of the field, and what follows them. -/
def plainSection (dialect : Dialect) (bytes : Bytes) : Bytes × Bytes :=
  (bytes.takeWhile fun byte => !dialect.endsField byte,
    bytes.dropWhile fun byte => !dialect.endsField byte)

/-- The field at the front of the bytes, and what follows it. -/
def field (dialect : Dialect) (bytes : Bytes) : Bytes × Bytes :=
  match bytes with
  | [] => ([], [])
  | b :: rest =>
    if b == dialect.quote then
      let (inside, after) := quotedSection dialect.quote rest
      let (outside, after) := dialect.plainSection after
      (inside ++ outside, after)
    else dialect.plainSection (b :: rest)

end Dialect

theorem length_quotedSection_le (quote : UInt8) (bytes : Bytes) :
    (quotedSection quote bytes).2.length ≤ bytes.length := by
  fun_induction quotedSection quote bytes with
  | case1 | case2 | case3 => simp
  | case4 b c rest hb hc inside after heq ih =>
    rw [heq] at ih
    simp only [List.length_cons] at ih ⊢
    omega
  | case5 => simp
  | case6 b c rest hb inside after heq ih =>
    rw [heq] at ih
    simp only [List.length_cons] at ih ⊢
    omega

theorem Dialect.length_plainSection_le (dialect : Dialect) (bytes : Bytes) :
    (dialect.plainSection bytes).2.length ≤ bytes.length :=
  (List.dropWhile_sublist _).length_le

theorem Dialect.length_field_le (dialect : Dialect) (bytes : Bytes) :
    (dialect.field bytes).2.length ≤ bytes.length := by
  unfold field
  split
  · simp
  · rename_i b rest
    split
    · have h₁ := length_quotedSection_le dialect.quote rest
      have h₂ := dialect.length_plainSection_le (quotedSection dialect.quote rest).2
      simp only [List.length_cons]
      exact Nat.le_trans h₂ (Nat.le_succ_of_le h₁)
    · exact dialect.length_plainSection_le _

/-- The fields up to the end of the record, and what follows them. -/
def Dialect.fields (dialect : Dialect) (bytes : Bytes) : List Bytes × Bytes :=
  match h : dialect.field bytes with
  | (content, []) => ([content], [])
  | (content, b :: rest) =>
    if b == dialect.delimiter then
      have : rest.length < bytes.length := by
        have := dialect.length_field_le bytes
        rw [h] at this
        simp only [List.length_cons] at this
        omega
      let (contents, after) := dialect.fields rest
      (content :: contents, after)
    else ([content], b :: rest)
termination_by bytes.length

theorem Dialect.length_fields_le (dialect : Dialect) (bytes : Bytes) :
    (dialect.fields bytes).2.length ≤ bytes.length := by
  fun_induction Dialect.fields dialect bytes with
  | case1 => simp
  | case2 bytes content b rest h hb hlt contents after heq ih =>
    rw [heq] at ih
    simp only at ih ⊢
    omega
  | case3 bytes content b rest h hb =>
    have := dialect.length_field_le bytes
    rwa [h] at this

/-- What follows a record and the byte that ends it. -/
def Dialect.afterRecord (dialect : Dialect) (bytes : Bytes) : Bytes :=
  (dialect.fields (bytes.dropWhile isLineEnd)).2.drop 1

theorem Dialect.length_afterRecord_lt (dialect : Dialect) {bytes : Bytes}
    (h : bytes.dropWhile isLineEnd ≠ []) :
    (dialect.afterRecord bytes).length < bytes.length := by
  have h₁ := dialect.length_fields_le (bytes.dropWhile isLineEnd)
  have h₂ : (bytes.dropWhile isLineEnd).length ≤ bytes.length :=
    (List.dropWhile_sublist _).length_le
  have h₃ : 0 < (bytes.dropWhile isLineEnd).length := List.length_pos_iff.2 h
  simp only [afterRecord, List.length_drop]
  omega

/-- The records in the bytes, when `offset` bytes stand before them. -/
def Dialect.recordsFrom (dialect : Dialect) (offset : Nat) (bytes : Bytes) : List Record :=
  if h : bytes.dropWhile isLineEnd = [] then []
  else
    have := dialect.length_afterRecord_lt h
    ⟨offset, (dialect.fields (bytes.dropWhile isLineEnd)).1⟩ ::
      dialect.recordsFrom (offset + (bytes.length - (dialect.afterRecord bytes).length))
        (dialect.afterRecord bytes)
termination_by bytes.length

/-- The mark that may stand before the first record. -/
def byteOrderMark : Bytes := [0xef, 0xbb, 0xbf]

/-- The bytes of a file without the mark in front. -/
def withoutMark (bytes : Bytes) : Bytes :=
  if byteOrderMark.isPrefixOf bytes then bytes.drop 3 else bytes

/-- The records of a file.  The first one starts with the file, mark or not. -/
def Dialect.records (dialect : Dialect) (bytes : Bytes) : List Record :=
  let body := withoutMark bytes
  match dialect.recordsFrom (bytes.length - body.length) body with
  | [] => []
  | first :: records => { first with offset := 0 } :: records

end CaseScript.Csv
