import CaseScript.Csv.File
import CaseScript.Proofs.Csv.Record
import CaseScript.Proofs.Table.Build
import CaseScript.Proofs.Table.Valid

/-!
# What comes of reading a file

Any bytes are a file.  It holds a table, or its header repeats a name, or one of its records is no
row.  This file tells the three apart by the records of the file alone.

There are four groups.

* `Dialect.Holds` and `Dialect.HasHeader` say what the records of a file have to do with a table and
  with its names.  `pushRows` and `Dialect.readChecked` put the rows into the table one by one, and
  the table checks the width of each.
* Texts.  `fieldTexts_eq_ok_iff`, `rowTexts_eq_ok_iff` and `rowsFrom_eq_ok_iff`: fields are read as
  the texts whose bytes they are.
* Reading.  `Dialect.read_eq_ok_iff` says when a table is read and `Dialect.read_eq_header_iff` when
  its header is at fault.  `Dialect.readChecked_eq`: the check of the table never fails, since the
  records have been counted before.
* Files.  `Dialect.readNamed_outcome` puts them together.
-/

namespace CaseScript.Csv

open CaseScript.Text (Bytes bytesOf)

/-- The records of the file are the names and the rows of the table.  A file without a record holds
the blank table. -/
def Dialect.Holds (dialect : Dialect) (bytes : Bytes) (table : Table) : Prop :=
  dialect.records bytes = [] ∧ table = .blank ∨
    (dialect.records bytes).map Record.fields =
      (table.columns :: table.rows).map fun texts => texts.map bytesOf

/-- The first record of the file is text, and these are its fields. -/
def Dialect.HasHeader (dialect : Dialect) (bytes : Bytes) (names : List String) : Prop :=
  ∃ header records, dialect.records bytes = header :: records ∧ header.fields = names.map bytesOf

/-- The table with the rows of the records below its own.  It checks the width of each row, after
the fields of the record have been counted. -/
def pushRows (bytes : Bytes) (width number : Nat) (table : Table) :
    List Record → Except Fault Table
  | [] => .ok table
  | record :: records => do
    let row ← rowTexts bytes width number record
    let grown ← (table.pushRow row).mapError Fault.header
    pushRows bytes width (number + 1) grown records

/-- The table that the bytes of a file hold, with both checks of the width of a row. -/
def Dialect.readChecked (dialect : Dialect) (bytes : Bytes) : Except Fault Table :=
  match dialect.records bytes with
  | [] => .ok Table.blank
  | header :: records => do
    let names ← recordTexts bytes 0 header
    let table ← (Table.withColumns names).mapError Fault.header
    pushRows bytes header.fields.length 1 table records

variable {dialect : Dialect} {bytes : Bytes} {width number : Nat} {record : Record}
  {records : List Record} {table : Table}

/-! ## Texts -/

theorem fieldTexts_eq_ok_iff {fields : List Bytes} {texts : List String} :
    fieldTexts fields = .ok texts ↔ fields = texts.map bytesOf := by
  induction fields generalizing texts with
  | nil => simp [fieldTexts, eq_comm]
  | cons field fields ih =>
    have hsplit : field :: fields = texts.map bytesOf ↔ ∃ cs more, Text.decode field = .ok cs ∧
        fieldTexts fields = .ok more ∧ texts = String.ofList cs :: more := by
      rw [eq_comm, List.map_eq_cons_iff]
      constructor
      · rintro ⟨text, more, rfl, rfl, hmore⟩
        refine ⟨text.toList, more, Text.decode_encode _, ih.2 hmore.symm, ?_⟩
        rw [String.ofList_toList]
      · rintro ⟨cs, more, hcs, hmore, rfl⟩
        refine ⟨_, more, rfl, ?_, (ih.1 hmore).symm⟩
        rw [bytesOf, String.toList_ofList, Text.encode_of_decode hcs]
    rw [hsplit, fieldTexts]
    cases Text.decode field with
    | error index => simp
    | ok cs => cases fieldTexts fields <;> simp [eq_comm]

theorem recordTexts_eq_ok_iff {texts : List String} :
    recordTexts bytes number record = .ok texts ↔ record.fields = texts.map bytesOf := by
  rw [← fieldTexts_eq_ok_iff, recordTexts]
  cases fieldTexts record.fields <;> simp

theorem rowTexts_eq_ok_iff {row : List String} :
    rowTexts bytes width number record = .ok row ↔
      record.fields = row.map bytesOf ∧ row.length = width := by
  have hlength : record.fields = row.map bytesOf → (row.length = width ↔
      record.fields.length = width) := fun h => by rw [h, List.length_map]
  rw [rowTexts]
  split
  · rename_i hwidth
    rw [recordTexts_eq_ok_iff, iff_self_and]
    exact fun h => (hlength h).2 (eq_of_beq hwidth)
  · rename_i hwidth
    constructor
    · intro h
      cases h
    · rintro ⟨h, hrow⟩
      exact absurd (beq_iff_eq.2 ((hlength h).1 hrow)) hwidth

theorem rowsFrom_eq_ok_iff {rows : List (List String)} :
    rowsFrom bytes width number records = .ok rows ↔
      records.map Record.fields = rows.map (fun row => row.map bytesOf) ∧
        ∀ row ∈ rows, row.length = width := by
  induction records generalizing number rows with
  | nil => cases rows <;> simp [rowsFrom]
  | cons record records ih =>
    rw [rowsFrom, except_bind_eq_ok_iff]
    constructor
    · rintro ⟨row, hrow, h⟩
      obtain ⟨more, hmore, h⟩ := except_bind_eq_ok_iff.1 h
      cases h
      obtain ⟨hfields, hwidth⟩ := rowTexts_eq_ok_iff.1 hrow
      obtain ⟨hrest, hwidths⟩ := ih.1 hmore
      rw [List.map_cons, List.map_cons, hfields, hrest]
      exact ⟨rfl, List.forall_mem_cons.2 ⟨hwidth, hwidths⟩⟩
    · rintro ⟨hfields, hwidths⟩
      cases rows with
      | nil => cases hfields
      | cons row rows =>
        obtain ⟨hfirst, hrest⟩ := List.cons.inj hfields
        obtain ⟨hwidth, hwidths⟩ := List.forall_mem_cons.1 hwidths
        refine ⟨row, rowTexts_eq_ok_iff.2 ⟨hfirst, hwidth⟩, ?_⟩
        exact except_bind_eq_ok_iff.2 ⟨rows, ih.2 ⟨hrest, hwidths⟩, rfl⟩

/-! ## Faults -/

theorem mapError_eq_error_iff {ε ε' α : Type} {f : ε → ε'} {x : Except ε α} {error : ε'} :
    x.mapError f = .error error ↔ ∃ found, x = .error found ∧ f found = error := by
  cases x with
  | error found =>
    show Except.error (f found) = .error error ↔ _
    simp
  | ok value => exact ⟨nofun, nofun⟩

theorem except_bind_eq_error_iff {ε α β : Type} {first : Except ε α} {next : α → Except ε β}
    {error : ε} :
    (first >>= next) = .error error ↔
      first = .error error ∨ ∃ value, first = .ok value ∧ next value = .error error := by
  cases first <;> simp [bind, Except.bind]

theorem recordTexts_ne_header {error : TableError} :
    recordTexts bytes number record ≠ .error (.header error) := by
  rw [recordTexts]
  split <;> simp

theorem rowTexts_ne_header {error : TableError} :
    rowTexts bytes width number record ≠ .error (.header error) := by
  rw [rowTexts]
  split
  · exact recordTexts_ne_header
  · simp

/-- The rows have no part in the header. -/
theorem rowsFrom_ne_header {error : TableError} :
    rowsFrom bytes width number records ≠ .error (.header error) := by
  induction records generalizing number with
  | nil => exact nofun
  | cons record records ih =>
    intro h
    rcases except_bind_eq_error_iff.1 h with hrow | ⟨row, -, h⟩
    · exact rowTexts_ne_header hrow
    · rcases except_bind_eq_error_iff.1 h with hrest | ⟨rows, -, h⟩
      · exact ih hrest
      · cases h

/-! ## Reading -/

/-- Where the fields have been counted the table takes the row. -/
theorem pushRow_of_rowTexts {row : List String}
    (h : rowTexts bytes table.columns.length number record = .ok row) :
    table.pushRow row = .ok ⟨table.columns, table.rows ++ [row]⟩ := by
  rw [Table.pushRow, if_pos (beq_iff_eq.2 (rowTexts_eq_ok_iff.1 h).2)]

theorem pushRows_eq (h : table.columns.length = width) :
    pushRows bytes width number table records =
      (rowsFrom bytes width number records).map fun rows =>
        ⟨table.columns, table.rows ++ rows⟩ := by
  subst h
  induction records generalizing number table with
  | nil =>
    show Except.ok table = .ok ⟨table.columns, table.rows ++ []⟩
    rw [List.append_nil]
  | cons record records ih =>
    rw [pushRows, rowsFrom]
    cases hrow : rowTexts bytes table.columns.length number record with
    | error fault => rfl
    | ok row =>
      show ((table.pushRow row).mapError Fault.header >>= fun grown =>
          pushRows bytes table.columns.length (number + 1) grown records) =
        (rowsFrom bytes table.columns.length (number + 1) records >>= fun rows =>
          return row :: rows).map _
      rw [pushRow_of_rowTexts hrow]
      show pushRows bytes table.columns.length (number + 1)
        ⟨table.columns, table.rows ++ [row]⟩ records = _
      rw [@ih _ ⟨table.columns, table.rows ++ [row]⟩]
      cases rowsFrom bytes table.columns.length (number + 1) records with
      | error fault => rfl
      | ok rows =>
        show Except.ok (Table.mk _ (table.rows ++ [row] ++ rows)) = Except.ok _
        rw [List.append_assoc, List.singleton_append]

/-- No row that has come through the count of its fields is refused by the table. -/
theorem Dialect.readChecked_eq : dialect.readChecked bytes = dialect.read bytes := by
  rw [readChecked, read]
  cases dialect.records bytes with
  | nil => rfl
  | cons header records =>
    dsimp only
    cases hnames : recordTexts bytes 0 header with
    | error fault => rfl
    | ok names =>
      show ((Table.withColumns names).mapError Fault.header >>= fun _ => _) =
        ((Table.withColumns names).mapError Fault.header >>= fun _ => _)
      cases htable : Table.withColumns names with
      | error error => rfl
      | ok table =>
        obtain ⟨-, rfl⟩ := Table.withColumns_eq_ok_iff.1 htable
        have hwidth : (Table.mk names []).columns.length = header.fields.length := by
          rw [recordTexts_eq_ok_iff.1 hnames, List.length_map]
        show pushRows bytes header.fields.length 1 ⟨names, []⟩ records = _
        rw [pushRows_eq hwidth]
        cases rowsFrom bytes header.fields.length 1 records <;> rfl

/-- A file is read as a table exactly when the table is valid and the file holds it. -/
theorem Dialect.read_eq_ok_iff :
    dialect.read bytes = .ok table ↔ table.Valid ∧ dialect.Holds bytes table := by
  rw [read, Holds]
  cases dialect.records bytes with
  | nil =>
    simp only [Except.ok.injEq, List.map_nil, List.map_cons, true_and, reduceCtorEq, or_false,
      eq_comm (a := Table.blank), iff_and_self]
    rintro rfl
    exact Table.valid_blank
  | cons header records =>
    simp only [reduceCtorEq, false_and, false_or, List.map_cons, List.cons.injEq,
      except_bind_eq_ok_iff, recordTexts_eq_ok_iff, mapError_eq_ok_iff,
      Table.withColumns_eq_ok_iff, rowsFrom_eq_ok_iff]
    constructor
    · rintro ⟨names, hnames, _, ⟨hdistinct, rfl⟩, rows, ⟨hrows, hwidths⟩, h⟩
      cases h
      rw [hnames, List.length_map] at hwidths
      exact ⟨⟨hdistinct, hwidths⟩, hnames, hrows⟩
    · rintro ⟨hvalid, hnames, hrows⟩
      refine ⟨table.columns, hnames, _, ⟨hvalid.distinctNames, rfl⟩, table.rows, ⟨hrows, ?_⟩, rfl⟩
      rw [hnames, List.length_map]
      exact hvalid.rowWidths

/-- The header is at fault exactly when it is text that makes no columns, whatever follows it. -/
theorem Dialect.read_eq_header_iff {error : TableError} :
    dialect.read bytes = .error (.header error) ↔
      ∃ names, dialect.HasHeader bytes names ∧ Table.withColumns names = .error error := by
  rw [read]
  simp only [HasHeader]
  cases dialect.records bytes with
  | nil => simp
  | cons header records =>
    dsimp only
    constructor
    · intro h
      rcases except_bind_eq_error_iff.1 h with hnames | ⟨names, hnames, h⟩
      · exact absurd hnames recordTexts_ne_header
      · refine ⟨names, ⟨header, records, rfl, recordTexts_eq_ok_iff.1 hnames⟩, ?_⟩
        rcases except_bind_eq_error_iff.1 h with hcolumns | ⟨columns, -, h⟩
        · obtain ⟨found, hfound, h⟩ := mapError_eq_error_iff.1 hcolumns
          cases h
          exact hfound
        · rcases except_bind_eq_error_iff.1 h with hrows | ⟨rows, -, h⟩
          · exact absurd hrows rowsFrom_ne_header
          · cases h
    · rintro ⟨names, ⟨_, _, h, hnames⟩, hcolumns⟩
      cases h
      refine except_bind_eq_error_iff.2 (.inr ⟨names, recordTexts_eq_ok_iff.2 hnames, ?_⟩)
      refine except_bind_eq_error_iff.2 (.inl ?_)
      exact mapError_eq_error_iff.2 ⟨error, hcolumns, rfl⟩

/-- Every record has a field. -/
theorem Dialect.fields_ne_nil (dialect : Dialect) (bytes : Bytes) :
    (dialect.fields bytes).1 ≠ [] := by
  rw [fields]
  split
  · exact List.cons_ne_nil _ _
  · split <;> exact List.cons_ne_nil _ _

theorem Dialect.ne_nil_of_mem_recordsFrom {offset : Nat}
    (h : record ∈ dialect.recordsFrom offset bytes) : record.fields ≠ [] := by
  fun_induction recordsFrom dialect offset bytes with
  | case1 => cases h
  | case2 offset bytes hne hlt ih =>
    rcases List.mem_cons.1 h with rfl | h
    · exact dialect.fields_ne_nil _
    · exact ih h

theorem Dialect.ne_nil_of_mem_records (h : record ∈ dialect.records bytes) :
    record.fields ≠ [] := by
  rw [records] at h
  split at h
  · cases h
  · rename_i first others hrecords
    have hall : ∀ other ∈ first :: others, other.fields ≠ [] := fun other hother =>
      ne_nil_of_mem_recordsFrom (hrecords ▸ hother)
    rcases List.mem_cons.1 h with rfl | h
    · exact hall first List.mem_cons_self
    · exact hall record (List.mem_cons_of_mem first h)

/-- Only the blank table has no columns: a file with a record has a name. -/
theorem Dialect.Holds.eq_blank (h : dialect.Holds bytes table) (hcolumns : table.columns = []) :
    table = .blank := by
  rcases h with ⟨-, hblank⟩ | hrecords
  · exact hblank
  · rw [List.map_cons, hcolumns, List.map_eq_cons_iff] at hrecords
    obtain ⟨header, records, hmem, hfields, -⟩ := hrecords
    have hheader : header ∈ dialect.records bytes := by
      rw [hmem]
      exact List.mem_cons_self
    exact absurd hfields (ne_nil_of_mem_records hheader)

/-! ## Files -/

theorem Fault.inFile_eq_invalidTable_iff {file reason : String} {fault : Fault} :
    fault.inFile file = .invalidTable reason ↔
      ∃ error, fault = .header error ∧ error.message = reason := by
  cases fault <;> simp [inFile]

/-- A file gives a table exactly when it holds a valid one, its names in the first record and its
rows in the others; without columns it has no rows.  The table is called invalid exactly when the
first record is text that repeats a name, whatever follows it, and never for the width of a row:
the table would take every row it is given.  In all other cases reading has failed. -/
theorem Dialect.readNamed_outcome (dialect : Dialect) (file : String) (bytes : Bytes) :
    (∀ table, dialect.readNamed file bytes = .ok table ↔
      table.Valid ∧ dialect.Holds bytes table) ∧
    (∀ table, dialect.readNamed file bytes = .ok table → table.columns = [] → table.rows = []) ∧
    ((∃ reason, dialect.readNamed file bytes = .error (.invalidTable reason)) ↔
      ∃ names, dialect.HasHeader bytes names ∧ ¬ (names.map Text.lower).Nodup) ∧
    dialect.readNamed file bytes = (dialect.readChecked bytes).mapError (Fault.inFile file) ∧
    ∀ error, dialect.readNamed file bytes = .error error →
      (∃ reason, error = .invalidTable reason) ∨ ∃ reason, error = .readFailed file reason := by
  have hok : ∀ table, dialect.readNamed file bytes = .ok table ↔
      table.Valid ∧ dialect.Holds bytes table := fun table =>
    mapError_eq_ok_iff.trans read_eq_ok_iff
  refine ⟨hok, ?_, ?_, ?_, ?_⟩
  · intro table h hcolumns
    rw [((hok table).1 h).2.eq_blank hcolumns]
    rfl
  · calc
      (∃ reason, dialect.readNamed file bytes = .error (.invalidTable reason)) ↔
          ∃ error, dialect.read bytes = .error (.header error) := by
        simp only [readNamed, mapError_eq_error_iff, Fault.inFile_eq_invalidTable_iff]
        constructor
        · rintro ⟨_, _, h, error, rfl, -⟩
          exact ⟨error, h⟩
        · rintro ⟨error, h⟩
          exact ⟨_, _, h, error, rfl, rfl⟩
      _ ↔ ∃ names, dialect.HasHeader bytes names ∧
          ∃ error, Table.withColumns names = .error error := by
        simp only [read_eq_header_iff]
        exact exists_comm.trans (exists_congr fun names => exists_and_left)
      _ ↔ ∃ names, dialect.HasHeader bytes names ∧ ¬ (names.map Text.lower).Nodup := by
        simp only [Table.exists_withColumns_eq_error_iff]
  · rw [readNamed, readChecked_eq]
  · intro error h
    obtain ⟨fault, -, rfl⟩ := mapError_eq_error_iff.1 h
    cases fault with
    | header error => exact .inl ⟨_, rfl⟩
    | fieldCount => exact .inr ⟨_, rfl⟩
    | notText => exact .inr ⟨_, rfl⟩

/-- A file of line ends only, a header that repeats a name in front of a row that is too short, and
such a row behind distinct names. -/
theorem Dialect.readNamed_outcome_of_short_row :
    (Dialect.standard.readNamed "a.csv" [10, 13] = .ok .blank ∧
      Dialect.standard.Holds [10, 13] .blank) ∧
    (∃ reason, Dialect.standard.readNamed "a.csv" (bytesOf "a;A\n1\n") =
      .error (.invalidTable reason)) ∧
    ∃ error, Dialect.standard.readNamed "a.csv" (bytesOf "a;b\n1\n") = .error error ∧
      ∃ reason, error = .readFailed "a.csv" reason := by
  have hblank : Dialect.standard.readNamed "a.csv" [10, 13] = .ok .blank := by decide +kernel
  have hshort : Dialect.standard.readNamed "a.csv" (bytesOf "a;b\n1\n") =
      .error (.readFailed "a.csv" (Fault.fieldCount 1 2 4 1 2).message) := by decide +kernel
  have hheader : Dialect.standard.HasHeader (bytesOf "a;A\n1\n") ["a", "A"] :=
    ⟨⟨0, [[97], [65]]⟩, [⟨4, [[49]]⟩], by decide +kernel, by decide +kernel⟩
  refine ⟨⟨hblank, ?_⟩, ?_, _, hshort, ?_⟩
  · exact ((Dialect.readNamed_outcome _ _ _).1 _ |>.1 hblank).2
  · exact (Dialect.readNamed_outcome _ _ _).2.2.1.2 ⟨_, hheader, by decide +kernel⟩
  · rcases (Dialect.readNamed_outcome _ _ _).2.2.2.2 _ hshort with ⟨reason, h⟩ | h
    · cases h
    · exact h

end CaseScript.Csv
