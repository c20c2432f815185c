import CaseScript.Proofs.Table.Place
import Mathlib.Data.List.GetD
import Mathlib.Data.List.Perm.Subperm

/-!
# Rows below rows

A union counts the columns of the two tables and looks every column of the first one up in the
second.  This file shows that this is enough: the places that are found are all places of the second
table, each of them once, so no cell is lost and none is taken twice.

There are four groups.

* `SameColumns` and `Below` say what is needed and what is given.
* Places.  `map_places` names the columns at the places that are found, and `places_perm` counts
  them: different names have different places, and there are as many names as places.
* Success.  `exists_places_iff`: the places are found exactly for equal sets of names.
* Cells.  `cell?_below`: under a name stands the cell that stood under it.  `union_eq_below` is the
  result.
-/

namespace CaseScript.Table

/-- The tables have the same column names in lower case, in whatever order. -/
def SameColumns (table other : Table) : Prop :=
  ∀ name, name ∈ table.columns.map Text.lower ↔ name ∈ other.columns.map Text.lower

/-- The result has the rows of the first table and below them those of the second, cells moved to
the columns of the first. -/
structure Below (table other result : Table) : Prop where
  columns : result.columns = table.columns
  above : result.rows.take table.rows.length = table.rows
  count : result.rows.length = table.rows.length + other.rows.length
  /-- Under every name stands the cell that stood under it. -/
  cells : ∀ row name, result.cell? (table.rows.length + row) name = other.cell? row name
  /-- Every row is a rearranged one, and all are rearranged in one way. -/
  rearranged : ∃ places : List Nat, places.Perm (List.range other.columns.length) ∧
    ∀ row, result.rows[table.rows.length + row]? =
      (other.rows[row]?).map fun cells => places.map (cells.getD · "")

variable {table other result : Table} {name : String} {places : List Nat}

theorem isBlank_iff : table.isBlank = true ↔ table = blank := by
  rcases table with ⟨columns, rows⟩
  simp [isBlank, blank]

/-! ## Places -/

/-- At the places that are found stand the names that were looked up. -/
theorem map_places (h : table.columns.mapM other.position? = some places) :
    places.map (fun place => (other.columns.map Text.lower)[place]?) =
      (table.columns.map Text.lower).map some := by
  rw [mapM_eq_some_iff] at h
  refine List.ext_getElem? fun i => ?_
  have hi := congrArg (·[i]?) h
  simp only [List.getElem?_map] at hi ⊢
  cases hplace : places[i]? with
  | none => cases hname : table.columns[i]? <;> simp_all
  | some place =>
    cases hname : table.columns[i]? with
    | none => simp_all
    | some name =>
      simp only [hplace, hname, Option.map_some, Option.some.injEq] at hi ⊢
      simpa using lower_of_position? hi

theorem lt_of_mem_places (h : table.columns.mapM other.position? = some places) {place : Nat}
    (hplace : place ∈ places) : place < other.columns.length := by
  obtain ⟨name, -, hname⟩ := (mapM_eq_some h).2 place hplace
  exact lt_of_position? hname

/-- Different names are at different places, so no place is found twice and none is left out. -/
theorem places_perm (htable : table.Valid)
    (hlength : table.columns.length = other.columns.length)
    (h : table.columns.mapM other.position? = some places) :
    places.Perm (List.range other.columns.length) := by
  have hnodup : places.Nodup := by
    refine List.Nodup.of_map (fun place => (other.columns.map Text.lower)[place]?) ?_
    rw [map_places h]
    exact htable.distinctNames.map fun _ _ => Option.some.inj
  have hsubset : places ⊆ List.range other.columns.length := fun place hplace =>
    List.mem_range.2 (lt_of_mem_places h hplace)
  refine (List.subperm_of_subset hnodup hsubset).perm_of_length_le ?_
  rw [List.length_range, (mapM_eq_some h).1]
  exact Nat.le_of_eq hlength.symm

/-! ## Success -/

/-- All names are found exactly where each is a name of the second table. -/
theorem exists_mapM_position?_iff :
    (∃ places, table.columns.mapM other.position? = some places) ↔
      table.columns.map Text.lower ⊆ other.columns.map Text.lower := by
  constructor
  · intro h lowered hlowered
    obtain ⟨places, h⟩ := h
    have hmem := List.mem_map_of_mem (f := some) hlowered
    rw [← map_places h] at hmem
    obtain ⟨place, -, hplace⟩ := List.mem_map.1 hmem
    exact List.mem_of_getElem? hplace
  · intro h
    refine ⟨table.columns.map fun name => (other.position? name).getD 0, ?_⟩
    rw [mapM_eq_some_iff, List.map_map]
    refine List.map_congr_left fun name hname => ?_
    cases hposition : other.position? name with
    | none => exact absurd (h (List.mem_map_of_mem hname)) (position?_eq_none_iff.1 hposition)
    | some place => simp [hposition]

/-- With as many columns on both sides, it is enough to look the names of one side up. -/
theorem exists_places_iff (htable : table.Valid) (hother : other.Valid) :
    (table.columns.length = other.columns.length ∧
        ∃ places, table.columns.mapM other.position? = some places) ↔
      table.SameColumns other := by
  rw [exists_mapM_position?_iff]
  constructor
  · intro h
    rcases h with ⟨hlength, hsubset⟩
    have hperm := (List.subperm_of_subset htable.distinctNames hsubset).perm_of_length_le
      (by simp [hlength])
    exact fun name => hperm.mem_iff
  · intro h
    have hperm := (List.perm_ext_iff_of_nodup htable.distinctNames hother.distinctNames).2 h
    exact ⟨by simpa using hperm.length_eq, hperm.subset⟩

theorem union_of_not_sameColumns (htable : table.Valid) (hother : other.Valid)
    (hblank : table ≠ blank) (h : ¬ table.SameColumns other) :
    table.union other = .error (.schemaMismatch table.columns other.columns) := by
  have hblank : table.isBlank = false := by rwa [← Bool.not_eq_true, isBlank_iff]
  rw [← exists_places_iff htable hother] at h
  unfold union
  rw [hblank]
  by_cases hlength : table.columns.length = other.columns.length
  · cases hplaces : table.columns.mapM other.position? with
    | none => simp [hlength]
    | some places => exact absurd ⟨hlength, places, hplaces⟩ h
  · simp [hlength]

/-! ## Cells -/

/-- A name is found in the second table where its place is found. -/
theorem position?_eq_getElem?_places (hother : other.Valid) (hsame : table.SameColumns other)
    (h : table.columns.mapM other.position? = some places) (name : String) :
    other.position? name = (table.position? name).bind (places[·]?) := by
  cases hindex : table.position? name with
  | none =>
    rw [position?_eq_none_iff, hsame] at hindex
    exact position?_eq_none_iff.2 hindex
  | some index =>
    have hlt : index < places.length := (mapM_eq_some h).1 ▸ lt_of_position? hindex
    have hname := congrArg (·[index]?) (map_places h)
    simp only [List.getElem?_map, List.getElem?_eq_getElem hlt, Option.map_some] at hname
    rw [Option.bind_some, List.getElem?_eq_getElem hlt]
    refine hother.position?_eq_some_iff.2 ?_
    have hlowered := lower_of_position? hindex
    rw [List.getElem?_map] at hlowered
    rw [hlowered, Option.map_some, Option.some.injEq, ← List.getElem?_map] at hname
    exact hname

/-- The cell under a name goes to the place of that name. -/
theorem cell?_below (hother : other.Valid) (hsame : table.SameColumns other)
    (h : table.columns.mapM other.position? = some places) (row : Nat) (name : String) :
    (Table.mk table.columns
        (table.rows ++ other.rows.map fun cells => places.map (cells.getD · ""))).cell?
        (table.rows.length + row) name = other.cell? row name := by
  unfold cell?
  rw [position?_eq_getElem?_places hother hsame h, position?_rows _ table.rows]
  show (table.position? name >>= fun index => _) = _
  cases hindex : table.position? name with
  | none => rfl
  | some index =>
    have hlt : index < places.length := (mapM_eq_some h).1 ▸ lt_of_position? hindex
    rw [List.getElem?_append_right (Nat.le_add_right _ _), Nat.add_sub_cancel_left,
      List.getElem?_map, Option.bind_some, List.getElem?_eq_getElem hlt]
    cases other.rows[row]? with
    | none => rfl
    | some cells =>
      show some ((places.map (cells.getD · "")).getD index "") = some (cells.getD places[index] "")
      rw [List.getD_eq_getElem _ _ (by simpa using hlt), List.getElem_map]

theorem below_of_places (htable : table.Valid) (hother : other.Valid)
    (hlength : table.columns.length = other.columns.length)
    (h : table.columns.mapM other.position? = some places) :
    Below table other ⟨table.columns,
      table.rows ++ other.rows.map fun cells => places.map (cells.getD · "")⟩ where
  columns := rfl
  above := List.take_left' rfl
  count := by simp
  cells := cell?_below hother ((exists_places_iff htable hother).1 ⟨hlength, places, h⟩) h
  rearranged := by
    refine ⟨places, places_perm htable hlength h, fun row => ?_⟩
    rw [List.getElem?_append_right (Nat.le_add_right _ _), Nat.add_sub_cancel_left,
      List.getElem?_map]

/-- Below a blank table a table stands as it is.  Otherwise a union of valid tables succeeds exactly
for equal sets of column names, and it keeps every cell. -/
theorem union_eq_below (htable : table.Valid) (hother : other.Valid) :
    (table = blank → table.union other = .ok other) ∧
    (table ≠ blank →
      ((∃ result, table.union other = .ok result) ↔ table.SameColumns other) ∧
      (¬ table.SameColumns other →
        table.union other = .error (.schemaMismatch table.columns other.columns)) ∧
      ∀ result, table.union other = .ok result → Below table other result) := by
  constructor
  · intro hblank
    exact union_eq_ok_iff.2 (.inl ⟨isBlank_iff.2 hblank, rfl⟩)
  · intro hblank
    have hnot : table.isBlank = false := by rwa [← Bool.not_eq_true, isBlank_iff]
    refine ⟨?_, union_of_not_sameColumns htable hother hblank, ?_⟩
    · rw [← exists_places_iff htable hother]
      constructor
      · intro h
        obtain ⟨result, h⟩ := h
        rcases union_eq_ok_iff.1 h with ⟨hyes, -⟩ | ⟨-, hlength, places, hplaces, -⟩
        · rw [hnot] at hyes
          cases hyes
        · exact ⟨hlength, places, hplaces⟩
      · intro h
        rcases h with ⟨hlength, places, hplaces⟩
        exact ⟨_, union_eq_ok_iff.2 (.inr ⟨hnot, hlength, places, hplaces, rfl⟩)⟩
    · intro result h
      rcases union_eq_ok_iff.1 h with ⟨hyes, -⟩ | ⟨-, hlength, places, hplaces, rfl⟩
      · rw [hnot] at hyes
        cases hyes
      · exact below_of_places htable hother hlength hplaces

/-- The same names in another order and with other capitals. -/
theorem union_eq_below_of_spellings :
    let table : Table := ⟨["a", "b"], [["1", "2"]]⟩
    let other : Table := ⟨["B", "A"], [["4", "3"]]⟩
    let result : Table := ⟨["a", "b"], [["1", "2"], ["3", "4"]]⟩
    table.Valid ∧ other.Valid ∧ table ≠ blank ∧ table.union other = .ok result ∧
      table.SameColumns other ∧ Below table other result := by
  intro table other result
  have htable : table.Valid := by decide +kernel
  have hother : other.Valid := by decide +kernel
  have hblank : table ≠ blank := by decide
  have hresult : table.union other = .ok result := by decide +kernel
  obtain ⟨hsuccess, -, hbelow⟩ := (union_eq_below htable hother).2 hblank
  exact ⟨htable, hother, hblank, hresult, hsuccess.1 ⟨result, hresult⟩, hbelow result hresult⟩

end CaseScript.Table
