import CaseScript.Csv.Record
import CaseScript.Csv.Write

/-!
# Records that read back

Fields and records are written so that the splitting of a file finds them again, whatever bytes they
hold.

* `Dialect.field_writeField`: one field in front of a byte that ends it.
* `Dialect.fields_writeRecord`: the fields of one record.
* `Dialect.split`: the records of a file without their places, and `Dialect.split_writeRecord` for
  one record in front of others.
* `Dialect.split_writeRecords`: a file of records.
-/

namespace CaseScript.Csv

open CaseScript.Text (Bytes)

/-! ## Fields -/

theorem quotedSection_cons_of_ne {quote byte : UInt8} (h : byte ≠ quote) (bytes : Bytes) :
    quotedSection quote (byte :: bytes) =
      (byte :: (quotedSection quote bytes).1, (quotedSection quote bytes).2) := by
  cases bytes with
  | nil => simp [quotedSection, h]
  | cons c rest => simp [quotedSection, h]

/-- Between quotes stand any bytes, with quotes among them doubled. -/
theorem quotedSection_enclosed {quote next : UInt8} (hnext : next ≠ quote) (content rest : Bytes) :
    quotedSection quote
        (content.flatMap (fun byte => if byte == quote then [byte, byte] else [byte]) ++
          quote :: next :: rest) =
      (content, next :: rest) := by
  induction content with
  | nil => simp [quotedSection, hnext]
  | cons byte content ih =>
    by_cases h : byte = quote
    · subst h
      simp only [List.flatMap_cons, beq_self_eq_true, if_true, List.cons_append, List.nil_append,
        quotedSection, ih]
    · simp only [List.flatMap_cons, beq_iff_eq, h, if_false, List.cons_append, List.nil_append,
        quotedSection_cons_of_ne h]
      simp only [beq_iff_eq] at ih
      rw [ih]

namespace Dialect

variable {dialect : Dialect} {next : UInt8} {content rest : Bytes}

theorem ne_quote_of_endsField (h : dialect.endsField next = true) : next ≠ dialect.quote := by
  intro h
  subst h
  simp only [endsField, Bool.or_eq_true, beq_iff_eq, dialect.quote_not_end, Bool.false_eq_true,
    or_false] at h
  exact dialect.delimiter_ne_quote h.symm

theorem endsField_delimiter : dialect.endsField dialect.delimiter = true := by
  simp [endsField]

theorem endsField_lineFeed : dialect.endsField 10 = true := by
  simp [endsField, isLineEnd]

theorem lineFeed_ne_delimiter : (10 : UInt8) ≠ dialect.delimiter := by
  intro h
  have := dialect.delimiter_not_end
  rw [← h] at this
  cases this

theorem plainSection_append (hcontent : ∀ byte ∈ content, dialect.endsField byte = false)
    (hnext : dialect.endsField next = true) :
    dialect.plainSection (content ++ next :: rest) = (content, next :: rest) := by
  have hall : ∀ byte ∈ content, (!dialect.endsField byte) = true := by
    intro byte hmem
    rw [hcontent byte hmem]
    rfl
  rw [plainSection, List.takeWhile_append_of_pos hall, List.dropWhile_append_of_pos hall]
  simp [hnext]

theorem field_enclose (hnext : dialect.endsField next = true) :
    dialect.field (dialect.enclose content ++ next :: rest) = (content, next :: rest) := by
  have hquoted := quotedSection_enclosed (ne_quote_of_endsField hnext) content rest
  have hplain : dialect.plainSection ([] ++ next :: rest) = ([], next :: rest) :=
    plainSection_append (by simp) hnext
  simp only [enclose, List.cons_append, List.append_assoc, List.nil_append, field,
    beq_self_eq_true, if_true]
  rw [hquoted]
  simp only [List.nil_append] at hplain
  simp only [hplain, List.append_nil]

theorem field_plain (hcontent : content.any dialect.isSpecial = false)
    (hnext : dialect.endsField next = true) :
    dialect.field (content ++ next :: rest) = (content, next :: rest) := by
  have hspecial : ∀ byte ∈ content, dialect.isSpecial byte = false := by
    simpa using hcontent
  have hplain : dialect.plainSection (content ++ next :: rest) = (content, next :: rest) := by
    refine plainSection_append (fun byte hmem => ?_) hnext
    have := hspecial byte hmem
    simp only [isSpecial, Bool.or_eq_false_iff] at this
    simp [endsField, this]
  cases content with
  | nil => simpa [field, ne_quote_of_endsField hnext] using hplain
  | cons byte content =>
    have hquote : byte ≠ dialect.quote := by
      have := hspecial byte (by simp)
      simp only [isSpecial, Bool.or_eq_false_iff, beq_eq_false_iff_ne] at this
      exact this.1.2
    simpa [field, hquote] using hplain

/-- A written field is read up to the byte that ends it. -/
theorem field_writeField (hnext : dialect.endsField next = true) :
    dialect.field (dialect.writeField content ++ next :: rest) = (content, next :: rest) := by
  unfold writeField
  split
  · exact field_enclose hnext
  · rename_i h
    exact field_plain (by simpa using h) hnext

/-! ## Records -/

variable {contents : List Bytes}

theorem fields_of_field_delimiter {bytes : Bytes}
    (h : dialect.field bytes = (content, dialect.delimiter :: rest)) :
    dialect.fields bytes =
      (content :: (dialect.fields rest).1, (dialect.fields rest).2) := by
  rw [fields]
  split
  · rename_i h'
    rw [h] at h'
    cases h'
  · rename_i h'
    rw [h] at h'
    cases h'
    simp

theorem fields_of_field_lineFeed {bytes : Bytes} (h : dialect.field bytes = (content, 10 :: rest)) :
    dialect.fields bytes = ([content], 10 :: rest) := by
  rw [fields]
  split
  · rename_i h'
    rw [h] at h'
    cases h'
  · rename_i h'
    rw [h] at h'
    cases h'
    simp [lineFeed_ne_delimiter]

theorem writeFields_cons_cons (content second : Bytes) (contents : List Bytes) :
    dialect.writeFields (content :: second :: contents) =
      dialect.writeField content ++ dialect.delimiter :: dialect.writeFields (second :: contents) :=
  rfl

theorem fields_writeFields (hcontents : contents ≠ []) :
    dialect.fields (dialect.writeFields contents ++ 10 :: rest) = (contents, 10 :: rest) := by
  induction contents with
  | nil => exact absurd rfl hcontents
  | cons content contents ih =>
    cases contents with
    | nil => exact fields_of_field_lineFeed (field_writeField endsField_lineFeed)
    | cons second contents =>
      rw [writeFields_cons_cons, List.append_assoc, List.cons_append,
        fields_of_field_delimiter (field_writeField endsField_delimiter), ih (by simp)]

/-- The fields of a written record are read up to its end. -/
theorem fields_writeRecord (hcontents : contents ≠ []) :
    dialect.fields (dialect.writeRecord contents ++ rest) = (contents, 10 :: rest) := by
  unfold writeRecord
  rw [List.append_assoc]
  split
  · rename_i h
    rw [beq_iff_eq] at h
    rw [h]
    exact fields_of_field_lineFeed (field_enclose endsField_lineFeed)
  · exact fields_writeFields hcontents

/-- A written record starts with its first field, or with a quote or a delimiter. -/
theorem writeRecord_start (content : Bytes) (contents : List Bytes) :
    (∃ byte bytes, dialect.writeRecord (content :: contents) = byte :: bytes ∧
        (byte = dialect.quote ∨ byte = dialect.delimiter)) ∨
      (content ≠ [] ∧ content.any dialect.isSpecial = false ∧
        ∃ more, dialect.writeRecord (content :: contents) = content ++ more) := by
  unfold writeRecord
  split
  · exact .inl ⟨dialect.quote, _, rfl, .inl rfl⟩
  · rename_i hblank
    obtain ⟨more, hmore⟩ : ∃ more, dialect.writeFields (content :: contents) ++ [10] =
        dialect.writeField content ++ more := by
      cases contents with
      | nil => exact ⟨[10], rfl⟩
      | cons second contents => exact ⟨_, by rw [writeFields_cons_cons, List.append_assoc]⟩
    by_cases hspecial : content.any dialect.isSpecial = true
    · rw [hmore, writeField, if_pos hspecial]
      exact .inl ⟨dialect.quote, _, rfl, .inl rfl⟩
    · cases content with
      | nil =>
        -- an empty field stands alone in no record that is written this way
        cases contents with
        | nil => simp at hblank
        | cons second contents => exact .inl ⟨dialect.delimiter, _, rfl, .inr rfl⟩
      | cons byte content =>
        refine .inr ⟨by simp, by simpa using hspecial, more, ?_⟩
        rw [hmore, writeField, if_neg hspecial]

/-- A written record is no blank line. -/
theorem dropWhile_writeRecord (hcontents : contents ≠ []) :
    (dialect.writeRecord contents ++ rest).dropWhile isLineEnd =
      dialect.writeRecord contents ++ rest := by
  obtain ⟨byte, bytes, hrecord, hbyte⟩ : ∃ byte bytes,
      dialect.writeRecord contents = byte :: bytes ∧ isLineEnd byte = false := by
    cases contents with
    | nil => exact absurd rfl hcontents
    | cons content contents =>
      rcases dialect.writeRecord_start content contents with
        ⟨byte, bytes, hrecord, rfl | rfl⟩ | ⟨hne, hspecial, more, hrecord⟩
      · exact ⟨_, bytes, hrecord, dialect.quote_not_end⟩
      · exact ⟨_, bytes, hrecord, dialect.delimiter_not_end⟩
      · cases content with
        | nil => exact absurd rfl hne
        | cons byte content =>
          rw [List.any_cons, Bool.or_eq_false_iff, isSpecial, Bool.or_eq_false_iff] at hspecial
          exact ⟨byte, content ++ more, hrecord, hspecial.1.2⟩
  rw [hrecord, List.cons_append, List.dropWhile_cons_of_neg (by simp [hbyte])]

/-! ## Files -/

/-- The fields of the records of a file. -/
def split (dialect : Dialect) (bytes : Bytes) : List (List Bytes) :=
  (dialect.recordsFrom 0 bytes).map Record.fields

/-- Where a record starts has no part in its fields. -/
theorem map_fields_recordsFrom (offset : Nat) (bytes : Bytes) :
    (dialect.recordsFrom offset bytes).map Record.fields = dialect.split bytes := by
  unfold split
  generalize 0 = other
  fun_induction recordsFrom dialect offset bytes generalizing other with
  | case1 offset bytes h =>
    rw [recordsFrom, dif_pos h]
  | case2 offset bytes h hlt ih =>
    rw [recordsFrom.eq_def dialect other, dif_neg h, List.map_cons, List.map_cons, ih]

theorem split_of_blank {bytes : Bytes} (h : bytes.dropWhile isLineEnd = []) :
    dialect.split bytes = [] := by
  rw [split, recordsFrom, dif_pos h, List.map_nil]

theorem split_of_not_blank {bytes : Bytes} (h : bytes.dropWhile isLineEnd ≠ []) :
    dialect.split bytes =
      (dialect.fields (bytes.dropWhile isLineEnd)).1 ::
        dialect.split (dialect.afterRecord bytes) := by
  rw [split, recordsFrom, dif_neg h, List.map_cons, map_fields_recordsFrom]

/-- Line ends in front are no record. -/
theorem split_lineFeed (bytes : Bytes) : dialect.split (10 :: bytes) = dialect.split bytes := by
  have hdrop : (10 :: bytes).dropWhile isLineEnd = bytes.dropWhile isLineEnd := by
    rw [List.dropWhile_cons_of_pos rfl]
  by_cases h : bytes.dropWhile isLineEnd = []
  · rw [split_of_blank h, split_of_blank (hdrop.trans h)]
  · rw [split_of_not_blank h, split_of_not_blank (hdrop ▸ h), hdrop, afterRecord, hdrop,
      afterRecord]

/-- A written record is the first one of the file. -/
theorem split_writeRecord (hcontents : contents ≠ []) :
    dialect.split (dialect.writeRecord contents ++ rest) = contents :: dialect.split rest := by
  have hdrop : (dialect.writeRecord contents ++ rest).dropWhile isLineEnd =
      dialect.writeRecord contents ++ rest := dropWhile_writeRecord hcontents
  have hne : (dialect.writeRecord contents ++ rest).dropWhile isLineEnd ≠ [] := by
    rw [hdrop, writeRecord]
    simp
  rw [split_of_not_blank hne, afterRecord, hdrop, fields_writeRecord hcontents]
  rfl

theorem split_writeRecords {rows : List (List Bytes)} (hrows : ∀ row ∈ rows, row ≠ []) :
    dialect.split (rows.flatMap dialect.writeRecord) = rows := by
  induction rows with
  | nil => exact split_of_blank rfl
  | cons row rows ih =>
    obtain ⟨hrow, hrows⟩ := List.forall_mem_cons.1 hrows
    rw [List.flatMap_cons, split_writeRecord hrow, ih hrows]

end Dialect

end CaseScript.Csv
