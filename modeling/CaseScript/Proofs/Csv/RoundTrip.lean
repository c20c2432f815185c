import CaseScript.Proofs.Csv.Reading
import CaseScript.Settings.Basic
import Mathlib.Logic.Function.Basic

/-!
# Tables that read back

A table is written to a file and read from it.  It reads back as it was, with two exceptions: rows
without columns leave no trace in a file, and a file whose first name starts with U+FEFF loses this
character as its mark.

* `Dialect.read_of_split`: the table of a file whose records are the encoded names and rows.
* `Dialect.read_write_of_no_mark`: without a mark in front the table reads back.
* `Dialect.read_write_of_mark`: with a mark in front it does not.
* `Dialect.exists_of_mark_isPrefixOf`: a written file has a mark in front only where the first name
  starts with one outside quotes.
* `readNamed_writeNamed_iff`: the result for all settings and valid tables.
-/

namespace CaseScript

/-- The first name starts with U+FEFF and is written without quotes. -/
def Table.LedByMark (table : Table) (delimiter quote : Char) : Prop :=
  ∃ name, table.columns.head? = some name ∧ name.toList.head? = some '\uFEFF' ∧
    ∀ c ∈ [delimiter, quote, '\n', '\r'], c ∉ name.toList

namespace Csv

open CaseScript.Text (Bytes bytesOf)

theorem bytesOf_injective : Function.Injective bytesOf := by
  intro first second h
  have hdecoded := congrArg Text.decode h
  rw [bytesOf, bytesOf, Text.decode_encode, Text.decode_encode, Except.ok.injEq] at hdecoded
  exact String.toList_inj.1 hdecoded

namespace Dialect

variable {dialect : Dialect} {bytes : Bytes}

/-! ## Reading -/

theorem map_fields_records :
    (dialect.records bytes).map Record.fields = dialect.split (withoutMark bytes) := by
  rw [← map_fields_recordsFrom (bytes.length - (withoutMark bytes).length), records]
  split
  · rename_i h
    rw [h]
  · rename_i first records h
    rw [h]
    rfl

theorem read_of_split_nil (h : dialect.split (withoutMark bytes) = []) :
    dialect.read bytes = .ok .blank := by
  rw [← map_fields_records, List.map_eq_nil_iff] at h
  exact read_eq_ok_iff.2 ⟨Table.valid_blank, .inl ⟨h, rfl⟩⟩

/-- The first record of a file holds the names and the others the rows. -/
theorem read_of_split {names : List String} {rows : List (List String)} {table : Table}
    (h : dialect.split (withoutMark bytes) = (names :: rows).map fun texts => texts.map bytesOf)
    (hwidth : ∀ row ∈ rows, row.length = names.length) :
    dialect.read bytes = .ok table ↔
      (names.map Text.lower).Nodup ∧ table = ⟨names, rows⟩ := by
  rw [← map_fields_records] at h
  rw [read_eq_ok_iff]
  constructor
  · rintro ⟨hvalid, ⟨hnone, -⟩ | hrecords⟩
    · rw [hnone] at h
      cases h
    · have hsame := List.map_injective_iff.2 (List.map_injective_iff.2 bytesOf_injective)
        (hrecords.symm.trans h)
      obtain ⟨rfl, rfl⟩ := List.cons.inj hsame
      exact ⟨hvalid.distinctNames, rfl⟩
  · rintro ⟨hdistinct, rfl⟩
    exact ⟨⟨hdistinct, hwidth⟩, .inr h⟩

/-- A file that is read holds a valid table. -/
theorem valid_of_readNamed {table : Table} {file : String}
    (h : dialect.readNamed file bytes = .ok table) : table.Valid :=
  (read_eq_ok_iff.1 (mapError_eq_ok_iff.1 h)).1

/-! ## Writing -/

/-- The names and the rows of a table, in bytes. -/
theorem write_of_ne_nil {table : Table} (h : table.columns ≠ []) :
    dialect.write table =
      ((table.columns :: table.rows).map fun texts => texts.map bytesOf).flatMap
        dialect.writeRecord := by
  rw [write, if_neg (by simpa using h), List.flatMap_map]

theorem writeNamed_of_valid {table : Table} (h : table.Valid) (file : String) :
    dialect.writeNamed file table = .ok (dialect.write table) := by
  have hrows : table.rows.find? (fun row => row.length != table.columns.length) = none := by
    rw [List.find?_eq_none]
    intro row hmem
    simp [h.rowWidths row hmem]
  rw [writeNamed, hrows]

/-- Every record of a table with columns has a field. -/
theorem records_ne_nil {table : Table} (htable : table.Valid) (h : table.columns ≠ []) :
    ∀ row ∈ (table.columns :: table.rows).map (fun texts => texts.map bytesOf), row ≠ [] := by
  simp only [List.forall_mem_map, List.forall_mem_cons, ne_eq, List.map_eq_nil_iff]
  refine ⟨h, fun row hmem hrow => ?_⟩
  have := htable.rowWidths row hmem
  rw [hrow, List.length_nil, eq_comm, List.length_eq_zero_iff] at this
  exact h this

/-! ## The mark -/

theorem byteOrderMark_eq : byteOrderMark = String.utf8EncodeChar '\uFEFF' := by
  decide

theorem withoutMark_mark_append (rest : Bytes) : withoutMark (byteOrderMark ++ rest) = rest := by
  rw [withoutMark, if_pos (by simp)]
  rfl

/-- A file of a table without a mark in front reads back. -/
theorem read_write_of_no_mark {table : Table} (htable : table.Valid) (hcolumns : table.columns ≠ [])
    (hmark : byteOrderMark.isPrefixOf (dialect.write table) = false) :
    dialect.read (dialect.write table) = .ok table := by
  have hsplit : dialect.split (withoutMark (dialect.write table)) =
      (table.columns :: table.rows).map fun texts => texts.map bytesOf := by
    rw [withoutMark, if_neg (by simp [hmark]), write_of_ne_nil hcolumns]
    exact split_writeRecords (records_ne_nil htable hcolumns)
  exact (read_of_split hsplit htable.rowWidths).2 ⟨htable.distinctNames, rfl⟩

/-- A record whose first field starts with a mark is a mark and the fields of the record without
it. -/
theorem writeRecord_mark_append {content : Bytes} {contents : List Bytes}
    (hplain : (byteOrderMark ++ content).any dialect.isSpecial = false) :
    dialect.writeRecord ((byteOrderMark ++ content) :: contents) =
      byteOrderMark ++ (dialect.writeFields (content :: contents) ++ [10]) := by
  have hrest : content.any dialect.isSpecial = false := by
    rw [List.any_append, Bool.or_eq_false_iff] at hplain
    exact hplain.2
  have hwhole : dialect.writeField (byteOrderMark ++ content) =
      byteOrderMark ++ dialect.writeField content := by
    rw [writeField, if_neg (by simp [hplain]), writeField, if_neg (by simp [hrest])]
  have hne : ((byteOrderMark ++ content) :: contents == [[]]) = false := by
    simp [byteOrderMark]
  rw [writeRecord, if_neg (by simp [hne])]
  cases contents with
  | nil => rw [writeFields, writeFields, hwhole, List.append_assoc]
  | cons second contents =>
    rw [writeFields_cons_cons, writeFields_cons_cons, hwhole, List.append_assoc,
      List.append_assoc, List.append_assoc]

/-- A record that is only a mark is read as a blank line, so the first row takes its place. -/
theorem read_of_blank_header {table : Table} {name : String} (hcolumns : table.columns = [name])
    (htable : table.Valid)
    (hsplit : dialect.split (withoutMark bytes) =
      table.rows.map fun texts => texts.map bytesOf) :
    dialect.read bytes ≠ .ok table := by
  intro hread
  cases hrows : table.rows with
  | nil =>
    rw [hrows] at hsplit
    rw [read_of_split_nil hsplit] at hread
    cases hread
    cases hcolumns
  | cons row rows =>
    have hwidths := htable.rowWidths
    rw [hrows, List.forall_mem_cons] at hwidths
    rw [hrows] at hsplit
    have hrest : ∀ other ∈ rows, other.length = row.length := by
      intro other hmem
      rw [hwidths.1, hwidths.2 other hmem]
    obtain ⟨-, hshift⟩ := (read_of_split hsplit hrest).1 hread
    have := congrArg List.length (hrows.symm.trans (congrArg Table.rows hshift))
    simp at this

/-- The mark is no part of the first name that is read. -/
theorem read_write_of_mark {table : Table} (htable : table.Valid) {name : String}
    {names : List String} {cs : List Char} (hcolumns : table.columns = name :: names)
    (hname : name.toList = '\uFEFF' :: cs)
    (hplain : (bytesOf name).any dialect.isSpecial = false) :
    dialect.read (dialect.write table) ≠ .ok table := by
  have hbytes : bytesOf name = byteOrderMark ++ Text.encode cs := by
    rw [bytesOf, hname, Text.encode_cons, byteOrderMark_eq]
  rw [hbytes] at hplain
  have hrecords := records_ne_nil htable (by simp [hcolumns])
  have hrows := (List.forall_mem_cons.1 hrecords).2
  have hwrite : dialect.write table = byteOrderMark ++
      (dialect.writeFields (Text.encode cs :: names.map bytesOf) ++ [10] ++
        (table.rows.map fun texts => texts.map bytesOf).flatMap dialect.writeRecord) := by
    rw [write_of_ne_nil (by simp [hcolumns]), List.map_cons, List.flatMap_cons, hcolumns,
      List.map_cons, hbytes, writeRecord_mark_append hplain, List.append_assoc]
  by_cases hblank : Text.encode cs :: names.map bytesOf = [[]]
  · -- nothing but the mark stands in the header
    obtain rfl : names = [] := by simpa using congrArg List.tail hblank
    refine read_of_blank_header hcolumns htable ?_
    rw [hwrite, withoutMark_mark_append, hblank]
    show dialect.split (10 :: List.flatMap dialect.writeRecord _) = _
    rw [split_lineFeed, split_writeRecords hrows]
  · have hheader : dialect.writeFields (Text.encode cs :: names.map bytesOf) ++ [10] =
        dialect.writeRecord (Text.encode cs :: names.map bytesOf) := by
      rw [writeRecord, if_neg (by simpa using hblank)]
    have hsplit : dialect.split (withoutMark (dialect.write table)) =
        ((String.ofList cs :: names) :: table.rows).map fun texts => texts.map bytesOf := by
      rw [hwrite, withoutMark_mark_append, hheader, split_writeRecord (List.cons_ne_nil _ _),
        split_writeRecords hrows]
      simp [bytesOf]
    intro hread
    have hwidths := htable.rowWidths
    rw [hcolumns] at hwidths
    obtain ⟨-, hshift⟩ := (read_of_split hsplit hwidths).1 hread
    rw [hshift] at hcolumns
    have := congrArg String.toList (List.cons.inj hcolumns).1
    rw [hname, String.toList_ofList] at this
    simp at this

/-- A written file that starts with a mark has it from the first name. -/
theorem exists_of_mark_isPrefixOf {table : Table}
    (h : byteOrderMark.isPrefixOf (dialect.write table) = true) :
    ∃ name names, table.columns = name :: names ∧ name.toList.head? = some '\uFEFF' ∧
      (bytesOf name).any dialect.isSpecial = false := by
  obtain ⟨more, hmore⟩ := List.isPrefixOf_iff_prefix.1 h
  cases hcolumns : table.columns with
  | nil =>
    rw [write, hcolumns] at hmore
    cases hmore
  | cons name names =>
    refine ⟨name, names, rfl, ?_⟩
    rw [write_of_ne_nil (by simp [hcolumns]), hcolumns, List.map_cons, List.flatMap_cons,
      List.map_cons] at hmore
    rcases dialect.writeRecord_start (bytesOf name) (names.map bytesOf) with
      ⟨byte, bytes, hrecord, hbyte⟩ | ⟨hne, hspecial, after, hrecord⟩
    · -- neither a quote nor a delimiter is the first byte of the mark
      rw [hrecord] at hmore
      have hfirst : byte = 0xef := (List.cons.inj hmore).1.symm
      have hlt : byte < 128 := by
        rcases hbyte with rfl | rfl
        · exact dialect.quote_lt
        · exact dialect.delimiter_lt
      rw [hfirst] at hlt
      exact absurd hlt (by decide)
    · refine ⟨?_, hspecial⟩
      rw [hrecord, List.append_assoc, byteOrderMark_eq] at hmore
      exact Text.head?_eq_of_encode_append (fun hnil => hne (by rw [bytesOf, hnil]; rfl)) hmore.symm

/-! ## Characters -/

theorem byte?_eq_ok {role : Role} {c : Char}
    {byte : { byte : UInt8 // byte < 128 ∧ isLineEnd byte = false }}
    (h : byte? role c = .ok byte) : c.toNat < 128 ∧ byte.val = UInt8.ofNat c.toNat := by
  unfold byte? at h
  dsimp only at h
  split at h
  · rename_i hc
    cases h
    exact ⟨hc.1, rfl⟩
  · cases h

/-- The bytes of a dialect are its two characters. -/
theorem ofChars_eq_ok {delimiter quote : Char} (h : ofChars delimiter quote = .ok dialect) :
    delimiter.toNat < 128 ∧ quote.toNat < 128 ∧
      dialect.delimiter = UInt8.ofNat delimiter.toNat ∧
      dialect.quote = UInt8.ofNat quote.toNat := by
  simp only [ofChars, except_bind_eq_ok_iff] at h
  rcases h with ⟨d, hd, q, hq, h⟩
  obtain ⟨hdelimiter, hdbyte⟩ := byte?_eq_ok hd
  obtain ⟨hquote, hqbyte⟩ := byte?_eq_ok hq
  split at h
  · cases h
  · cases h
    exact ⟨hdelimiter, hquote, hdbyte, hqbyte⟩

/-- A text needs no quotes when it holds neither character of the dialect and no line end. -/
theorem any_isSpecial_bytesOf_eq_false_iff {delimiter quote : Char}
    (h : ofChars delimiter quote = .ok dialect) (text : String) :
    (bytesOf text).any dialect.isSpecial = false ↔
      ∀ c ∈ [delimiter, quote, '\n', '\r'], c ∉ text.toList := by
  obtain ⟨hdelimiter, hquote, hd, hq⟩ := ofChars_eq_ok h
  have hascii : ∀ c ∈ [delimiter, quote, '\n', '\r'], c.toNat < 128 := by
    simpa using ⟨hdelimiter, hquote⟩
  have hspecial : ∀ byte, dialect.isSpecial byte = true ↔
      ∃ c ∈ [delimiter, quote, '\n', '\r'], byte = UInt8.ofNat c.toNat := by
    intro byte
    simp [isSpecial, isLineEnd, hd, hq, or_assoc]
  rw [List.any_eq_false]
  constructor
  · intro hplain c hc hmem
    refine hplain (UInt8.ofNat c.toNat) ?_ ((hspecial _).2 ⟨c, hc, rfl⟩)
    exact (Text.mem_encode_iff (hascii c hc) text.toList).2 hmem
  · intro hnone byte hmem hbyte
    obtain ⟨c, hc, rfl⟩ := (hspecial byte).1 hbyte
    exact hnone c hc ((Text.mem_encode_iff (hascii c hc) text.toList).1 hmem)

end Dialect

open Dialect

/-! ## Files -/

/-- A table that is written in the dialect of the settings reads back, unless it is rows without
columns or is led by a mark. -/
theorem readNamed_writeNamed_iff {settings : Settings} {dialect : Dialect} {table : Table}
    (hdialect : settings.dialect = .ok dialect) (htable : table.Valid) (target origin : String) :
    ∃ bytes, dialect.writeNamed target table = .ok bytes ∧
      (dialect.readNamed origin bytes = .ok table ↔
        (table.columns ≠ [] ∨ table.rows = []) ∧
          ¬ table.LedByMark settings.delimiter settings.quote) := by
  refine ⟨dialect.write table, writeNamed_of_valid htable target, ?_⟩
  rw [Settings.dialect, mapError_eq_ok_iff] at hdialect
  rw [readNamed, mapError_eq_ok_iff]
  by_cases hcolumns : table.columns = []
  · have hwrite : dialect.write table = [] := by rw [write, hcolumns]; rfl
    have hled : ¬ table.LedByMark settings.delimiter settings.quote := by
      intro h
      rcases h with ⟨name, hname, -⟩
      rw [hcolumns] at hname
      cases hname
    rw [hwrite, read_of_split_nil (split_of_blank rfl), Except.ok.injEq]
    constructor
    · intro h
      subst h
      exact ⟨.inr rfl, hled⟩
    · intro h
      rcases h with ⟨hcolumns' | hrows, -⟩
      · exact absurd hcolumns hcolumns'
      · rw [Table.blank, ← hcolumns, ← hrows]
  · by_cases hled : table.LedByMark settings.delimiter settings.quote
    · obtain ⟨name, hname, hmark, hplain⟩ := id hled
      obtain ⟨names, hnames⟩ := List.head?_eq_some_iff.1 hname
      obtain ⟨cs, hcs⟩ := List.head?_eq_some_iff.1 hmark
      have := (any_isSpecial_bytesOf_eq_false_iff hdialect name).2 hplain
      simp [hled, read_write_of_mark htable hnames hcs this]
    · have hmark : byteOrderMark.isPrefixOf (dialect.write table) = false := by
        refine Bool.eq_false_iff.2 fun hprefix => hled ?_
        obtain ⟨name, names, hnames, hhead, hplain⟩ := exists_of_mark_isPrefixOf hprefix
        exact ⟨name, by rw [hnames]; rfl, hhead,
          (any_isSpecial_bytesOf_eq_false_iff hdialect name).1 hplain⟩
      simp [hled, hcolumns, read_write_of_no_mark htable hcolumns hmark]

/-- One column of an empty cell and of one that holds a delimiter, a quote and a line end. -/
theorem readNamed_writeNamed_one_column :
    ∃ bytes, Dialect.standard.writeNamed "a.csv" ⟨["case"], [[""], ["1;\"2\"\n"]]⟩ = .ok bytes ∧
      Dialect.standard.readNamed "a.csv" bytes = .ok ⟨["case"], [[""], ["1;\"2\"\n"]]⟩ := by
  have hdialect : ({} : Settings).dialect = .ok .standard := rfl
  have htable : (⟨["case"], [[""], ["1;\"2\"\n"]]⟩ : Table).Valid := by decide
  obtain ⟨bytes, hwrite, hread⟩ := readNamed_writeNamed_iff hdialect htable "a.csv" "a.csv"
  refine ⟨bytes, hwrite, hread.2 ⟨.inl (by simp), ?_⟩⟩
  intro h
  rcases h with ⟨name, hname, hmark, -⟩
  cases hname
  exact absurd hmark (by decide)

end Csv

end CaseScript
