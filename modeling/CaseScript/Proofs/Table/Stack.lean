import CaseScript.Proofs.Table.FilterFirst

/-!
# Three tables below each other

A union moves the cells of the lower table to the columns of the upper one.  With three tables the
cells of the last one go to the columns of the first directly, or by way of those of the second.
This file shows that both ways end at the same columns.

There are four groups.

* Names.  `SameColumns` is an equivalence, and `position?_congr` says that a look-up does not depend
  on the spelling of the name.
* Cells.  `arranged` is a row in the order of other columns, `stacked` the rows of a union.
  `union_of_sameColumns` says that unions give them, and `arranged_arranged` that moving cells twice
  is moving them once.
* Three tables.  `union_left_of_sameColumns` and `union_right_of_sameColumns` put them below each
  other in both ways, `union_left_of_not_sameColumns` and `union_right_of_not_sameColumns` fail in
  both ways.
* `union_regroups` is the result.
-/

namespace CaseScript.Table

variable {table other first second third : Table} {name fresh : String}

/-! ## Names -/

theorem SameColumns.symm (h : table.SameColumns other) : other.SameColumns table :=
  fun name => (h name).symm

theorem SameColumns.trans (h : first.SameColumns second) (hnext : second.SameColumns third) :
    first.SameColumns third :=
  fun name => (h name).trans (hnext name)

/-- A column is found under every spelling of its name. -/
theorem position?_congr (h : Text.lower name = Text.lower fresh) :
    table.position? name = table.position? fresh := by
  rw [position?, position?]
  congr 1
  funext column
  rw [sameName, sameName, h]

/-- The columns of the first table are found in the second. -/
theorem SameColumns.exists_position? (h : table.SameColumns other) (hname : name ∈ table.columns) :
    ∃ index, other.position? name = some index :=
  exists_position?_iff.2 ((h _).1 (List.mem_map_of_mem hname))

/-! ## Cells -/

/-- The cells of a row of the second table, in the order of the columns of the first. -/
def arranged (table other : Table) (row : List String) : List String :=
  table.columns.map fun name => row.getD ((other.position? name).getD 0) ""

/-- The rows of both tables, under the columns of the first. -/
def stacked (table other : Table) : Table :=
  ⟨table.columns, table.rows ++ other.rows.map (table.arranged other)⟩

theorem union_of_sameColumns (htable : table.Valid) (hother : other.Valid) (hblank : table ≠ blank)
    (h : table.SameColumns other) : table.union other = .ok (table.stacked other) := by
  obtain ⟨hlength, places, hplaces⟩ := (exists_places_iff htable hother).2 h
  have hnot : table.isBlank = false := by rwa [← Bool.not_eq_true, isBlank_iff]
  refine union_eq_ok_iff.2 (.inr ⟨hnot, hlength, places, hplaces, ?_⟩)
  have hcells : places = table.columns.map fun name => (other.position? name).getD 0 := by
    have hfound := congrArg (List.map (Option.getD · 0)) (mapM_eq_some_iff.1 hplaces)
    simpa [Function.comp_def] using hfound.symm
  rw [stacked, hcells]
  simp only [List.map_map]
  rfl

/-- The cell under a name goes to the place that the name has among the columns between, and from
there to its place among the last ones. -/
theorem arranged_arranged (h : first.SameColumns second) (row : List String) :
    first.arranged second (second.arranged third row) = first.arranged third row := by
  refine List.map_congr_left fun name hname => ?_
  obtain ⟨index, hindex⟩ := h.exists_position? hname
  obtain ⟨between, hbetween, hlower⟩ := exists_name_of_position? hindex
  rw [hindex, Option.getD_some, arranged, List.getD_eq_getElem?_getD, List.getElem?_map, hbetween,
    Option.map_some, Option.getD_some, position?_congr hlower]

theorem stacked_stacked (h : first.SameColumns second) :
    (first.stacked second).stacked third = first.stacked (second.stacked third) := by
  have harranged : first.arranged second ∘ second.arranged third = first.arranged third :=
    funext (arranged_arranged h)
  have hrows : (first.stacked second).rows ++
      third.rows.map (first.arranged third) =
        first.rows ++ (second.stacked third).rows.map (first.arranged second) := by
    rw [stacked, stacked, List.map_append, List.map_map, harranged, List.append_assoc]
  exact congrArg (Table.mk first.columns) hrows

/-! ## Three tables -/

theorem blank_union (other : Table) : blank.union other = .ok other :=
  union_eq_ok_iff.2 (.inl ⟨rfl, rfl⟩)

/-- Above two tables a blank one changes nothing, in either way. -/
theorem union_blank_left :
    (blank.union second >>= (·.union third)) = second.union third := by
  rw [blank_union]
  rfl

theorem union_blank_right : (second.union third >>= blank.union) = second.union third := by
  cases second.union third with
  | error error => rfl
  | ok result => exact blank_union result

theorem Valid.stacked (htable : table.Valid) (hother : other.Valid) (hblank : table ≠ blank)
    (h : table.SameColumns other) : (table.stacked other).Valid :=
  htable.union hother (union_of_sameColumns htable hother hblank h)

theorem stacked_ne_blank (hblank : table ≠ blank) : table.stacked other ≠ blank := by
  intro h
  have hcolumns : table.columns = [] := congrArg Table.columns h
  have hrows : table.rows ++ other.rows.map (table.arranged other) = [] := congrArg Table.rows h
  apply hblank
  rcases table with ⟨columns, rows⟩
  rw [show columns = [] from hcolumns, show rows = [] from (List.append_eq_nil_iff.1 hrows).1]
  rfl

section Steps

variable (hfirst : first.Valid) (hsecond : second.Valid) (hthird : third.Valid)
include hfirst hsecond hthird

theorem union_left_of_sameColumns (hblank : first ≠ blank) (h : first.SameColumns second)
    (hlast : second.SameColumns third) :
    (first.union second >>= (·.union third)) = .ok ((first.stacked second).stacked third) := by
  rw [union_of_sameColumns hfirst hsecond hblank h]
  exact union_of_sameColumns (hfirst.stacked hsecond hblank h) hthird (stacked_ne_blank hblank)
    (h.trans hlast)

theorem union_right_of_sameColumns (hblank : first ≠ blank) (hmiddle : second ≠ blank)
    (h : first.SameColumns second) (hlast : second.SameColumns third) :
    (second.union third >>= first.union) = .ok (first.stacked (second.stacked third)) := by
  rw [union_of_sameColumns hsecond hthird hmiddle hlast]
  exact union_of_sameColumns hfirst (hsecond.stacked hthird hmiddle hlast) hblank h

/-- The columns of the first table stand for those of the second where these are the same. -/
theorem union_left_of_not_sameColumns (hblank : first ≠ blank)
    (h : ¬ (first.SameColumns second ∧ second.SameColumns third)) :
    ∃ expected found,
      (first.union second >>= (·.union third)) = .error (.schemaMismatch expected found) := by
  by_cases hsame : first.SameColumns second
  · rw [union_of_sameColumns hfirst hsecond hblank hsame]
    refine ⟨first.columns, third.columns, ?_⟩
    refine union_of_not_sameColumns (hfirst.stacked hsecond hblank hsame) hthird
      (stacked_ne_blank hblank) fun hthirdSame => h ⟨hsame, ?_⟩
    exact hsame.symm.trans hthirdSame
  · rw [union_of_not_sameColumns hfirst hsecond hblank hsame]
    exact ⟨_, _, rfl⟩

theorem union_right_of_not_sameColumns (hblank : first ≠ blank) (hmiddle : second ≠ blank)
    (h : ¬ (first.SameColumns second ∧ second.SameColumns third)) :
    ∃ expected found,
      (second.union third >>= first.union) = .error (.schemaMismatch expected found) := by
  by_cases hlast : second.SameColumns third
  · rw [union_of_sameColumns hsecond hthird hmiddle hlast]
    refine ⟨first.columns, second.columns, ?_⟩
    exact union_of_not_sameColumns hfirst (hsecond.stacked hthird hmiddle hlast) hblank
      fun hsame => h ⟨hsame, hlast⟩
  · rw [union_of_not_sameColumns hsecond hthird hmiddle hlast]
    exact ⟨_, _, rfl⟩

end Steps

/-! ## The result -/

/-- Three tables of which the middle one is not blank can be put below each other from the top or
from the bottom.  Both ways give the same table, or in both ways the columns do not match. -/
theorem union_regroups (hfirst : first.Valid) (hsecond : second.Valid) (hthird : third.Valid)
    (hmiddle : second ≠ blank) :
    (∃ result, (first.union second >>= (·.union third)) = .ok result ∧
      (second.union third >>= first.union) = .ok result) ∨
    ∃ expected found expected' found',
      (first.union second >>= (·.union third)) = .error (.schemaMismatch expected found) ∧
        (second.union third >>= first.union) = .error (.schemaMismatch expected' found') := by
  by_cases hblank : first = blank
  · rw [hblank, union_blank_left, union_blank_right]
    by_cases hlast : second.SameColumns third
    · have hresult := union_of_sameColumns hsecond hthird hmiddle hlast
      exact .inl ⟨_, hresult, hresult⟩
    · have hmismatch := union_of_not_sameColumns hsecond hthird hmiddle hlast
      exact .inr ⟨_, _, _, _, hmismatch, hmismatch⟩
  · by_cases h : first.SameColumns second ∧ second.SameColumns third
    · refine .inl ⟨_, union_left_of_sameColumns hfirst hsecond hthird hblank h.1 h.2, ?_⟩
      rw [stacked_stacked h.1]
      exact union_right_of_sameColumns hfirst hsecond hthird hblank hmiddle h.1 h.2
    · obtain ⟨expected, found, hleft⟩ :=
        union_left_of_not_sameColumns hfirst hsecond hthird hblank h
      obtain ⟨expected', found', hright⟩ :=
        union_right_of_not_sameColumns hfirst hsecond hthird hblank hmiddle h
      exact .inr ⟨expected, found, expected', found', hleft, hright⟩

/-- Three orders of the same columns, in three spellings. -/
theorem union_regroups_of_spellings :
    let first : Table := ⟨["a", "b", "c"], [["1", "2", "3"]]⟩
    let second : Table := ⟨["C", "A", "B"], [["6", "4", "5"]]⟩
    let third : Table := ⟨["b", "C", "a"], [["8", "9", "7"]]⟩
    let result : Table := ⟨["a", "b", "c"], [["1", "2", "3"], ["4", "5", "6"], ["7", "8", "9"]]⟩
    first.Valid ∧ second.Valid ∧ third.Valid ∧ second ≠ blank ∧
      (first.union second >>= (·.union third)) = .ok result ∧
      (second.union third >>= first.union) = .ok result := by
  intro first second third result
  have hfirst : first.Valid := by decide +kernel
  have hsecond : second.Valid := by decide +kernel
  have hthird : third.Valid := by decide +kernel
  have hmiddle : second ≠ blank := by decide
  have hleft : (first.union second >>= (·.union third)) = .ok result := by decide +kernel
  refine ⟨hfirst, hsecond, hthird, hmiddle, hleft, ?_⟩
  rcases union_regroups hfirst hsecond hthird hmiddle with h | h
  · obtain ⟨_, hsame, hright⟩ := h
    rw [hleft] at hsame
    rw [hright, hsame]
  · obtain ⟨_, _, _, _, hmismatch, -⟩ := h
    rw [hleft] at hmismatch
    cases hmismatch

/-- A blank table in the middle takes over the third one, but has not the columns of the first. -/
example :
    let first : Table := ⟨["a"], [["1"]]⟩
    let third : Table := ⟨["a"], [["2"]]⟩
    (first.union blank >>= (·.union third)) = .error (.schemaMismatch ["a"] []) ∧
      (blank.union third >>= first.union) = .ok ⟨["a"], [["1"], ["2"]]⟩ := by
  decide +kernel

end CaseScript.Table
