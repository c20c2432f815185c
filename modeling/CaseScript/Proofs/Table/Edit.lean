import CaseScript.Proofs.Table.FilterFirst
import Mathlib.Logic.Equiv.Basic

/-!
# Cells under their names

An edit of columns changes the header and every row by place, while cells are looked up by name.
This file shows that no edit brings a cell under another name.

There are five groups.

* `Edited` says what an edit of some named columns does: which cells stand under each name, and what
  becomes of all other columns.
* Places.  `columnValues_of_places` finds the cells of a column at another place.
  `getElem?_exchange` and `eraseIdx_exchange` say where an exchange brings elements.
* Other columns.  `filter_set` takes a new name for no name at all, and `filter_eraseIdx` and
  `filter_exchange` follow: what does not pass a test can come, go and move.
* Columns afterwards.  `NamedAt.eraseIdx`, `NamedAt.set`, `NamedAt.exchange` and
  `namedAt_append_last` follow a column through the edit of the header.
* Edits.  One lemma for each edit, and `columnEdits_keep_cells` is the result.
-/

namespace CaseScript.Table

variable {table result : Table} {name column other : String} {index target : Nat}

/-- The columns that go by none of some names. -/
def unnamed (table : Table) (names : List String) : List String :=
  table.columns.filter fun column => !names.any (sameName column)

/-- The result of an edit of columns that go by some names: `cells` tells which cells stand under a
name afterwards. -/
structure Edited (table result : Table) (names : List String)
    (cells : String → Except TableError (List String)) : Prop where
  count : result.rows.length = table.rows.length
  /-- The other columns keep their spelling and their order. -/
  unnamed : result.unnamed names = table.unnamed names
  values : ∀ name, result.columnValues name = cells name

/-! ## Places -/

theorem sameName_iff {first second : String} :
    sameName first second = true ↔ Text.lower first = Text.lower second := by
  rw [sameName, beq_iff_eq]

theorem columnValues_of_position? (h : table.position? name = some index) :
    table.columnValues name = .ok (table.rows.map (·.getD index "")) := by
  rw [columnValues, require, h]
  rfl

theorem columnValues_of_not_mem (h : Text.lower name ∉ table.columns.map Text.lower) :
    table.columnValues name = .error (.columnNotFound name) := by
  rw [columnValues, require, position?_eq_none_iff.2 h]
  rfl

/-- A column may stand at another place, as long as its cells stand there too. -/
theorem columnValues_of_places (hresult : result.Valid)
    (hmem : Text.lower name ∈ result.columns.map Text.lower →
      Text.lower name ∈ table.columns.map Text.lower)
    (h : ∀ index, table.position? name = some index → ∃ place, result.NamedAt name place ∧
      result.rows.map (·.getD place "") = table.rows.map (·.getD index "")) :
    result.columnValues name = table.columnValues name := by
  cases hindex : table.position? name with
  | none =>
    have hnot := position?_eq_none_iff.1 hindex
    rw [columnValues_of_not_mem hnot, columnValues_of_not_mem (mt hmem hnot)]
  | some index =>
    obtain ⟨place, hplace, hcells⟩ := h index hindex
    rw [columnValues_of_position? hindex,
      columnValues_of_position? (hresult.position?_eq_some_iff.2 hplace), hcells]

/-- Two names stand at one place only if they are the same. -/
theorem sameName_of_position? (hname : table.position? name = some index)
    (hother : table.position? other = some index) : sameName other name = true :=
  sameName_iff.2 (Option.some.inj
    ((lower_of_position? hother).symm.trans (lower_of_position? hname)))

theorem getElem?_exchange {α : Type} {xs : List α} {i j : Nat} (hi : i < xs.length)
    (hj : j < xs.length) (k : Nat) : (exchange xs i j)[k]? = xs[Equiv.swap i j k]? := by
  rw [exchange, List.getElem?_eq_getElem hi, List.getElem?_eq_getElem hj]
  show ((xs.set i xs[j]).set j xs[i])[k]? = _
  by_cases hkj : k = j
  · rw [hkj, Equiv.swap_apply_right, List.getElem?_set_self (by simpa using hj),
      List.getElem?_eq_getElem hi]
  · rw [List.getElem?_set_ne (Ne.symm hkj)]
    by_cases hki : k = i
    · rw [hki, Equiv.swap_apply_left, List.getElem?_set_self hi, List.getElem?_eq_getElem hj]
    · rw [Equiv.swap_apply_of_ne_of_ne hki hkj, List.getElem?_set_ne (Ne.symm hki)]

/-- Apart from a column that trades places with its neighbour, nothing moves. -/
theorem eraseIdx_exchange {α : Type} {xs : List α} {i j : Nat} (hi : i < xs.length)
    (hj : j < xs.length) (h : j = i + 1 ∨ i = j + 1) :
    (exchange xs i j).eraseIdx j = xs.eraseIdx i := by
  refine List.ext_getElem? fun k => ?_
  rw [List.getElem?_eraseIdx, List.getElem?_eraseIdx, getElem?_exchange hi hj,
    getElem?_exchange hi hj, Equiv.swap_apply_def, Equiv.swap_apply_def]
  split_ifs <;> first | rfl | (congr 1; omega)

/-! ## Other columns -/

section Filter

variable {xs : List String} {p : String → Bool}

/-- An element that is put in counts for nothing if it does not pass the test. -/
theorem filter_set {x : String} (hlt : index < xs.length) (hx : p x = false) :
    (xs.set index x).filter p = (xs.eraseIdx index).filter p := by
  induction xs generalizing index with
  | nil => simp at hlt
  | cons head xs ih =>
    cases index with
    | zero => simp [hx]
    | succ index =>
      rw [List.set_cons_succ, List.eraseIdx_cons_succ, List.filter_cons, List.filter_cons,
        ih (by simpa using hlt)]

theorem filter_eraseIdx {x : String} (h : xs[index]? = some x) (hx : p x = false) :
    (xs.eraseIdx index).filter p = xs.filter p := by
  obtain ⟨hlt, rfl⟩ := List.getElem?_eq_some_iff.1 h
  rw [← filter_set hlt hx, List.set_getElem_self]

theorem filter_exchange {x : String} {i j : Nat} (h : xs[i]? = some x) (hx : p x = false)
    (hj : j < xs.length) (hnext : j = i + 1 ∨ i = j + 1) :
    (exchange xs i j).filter p = xs.filter p := by
  have hi : i < xs.length := (List.getElem?_eq_some_iff.1 h).1
  have hmoved : (exchange xs i j)[j]? = some x := by
    rw [getElem?_exchange hi hj, Equiv.swap_apply_right, h]
  rw [← filter_eraseIdx hmoved hx, eraseIdx_exchange hi hj hnext, filter_eraseIdx h hx]

theorem filter_concat {x : String} (hx : p x = false) : (xs ++ [x]).filter p = xs.filter p := by
  rw [List.filter_append, List.filter_singleton, hx]
  exact List.append_nil _

end Filter

theorem not_any_sameName_eq_false {names : List String} (hname : name ∈ names)
    (h : Text.lower column = Text.lower name) : (!names.any (sameName column)) = false := by
  rw [Bool.not_eq_false', List.any_eq_true]
  exact ⟨name, hname, sameName_iff.2 h⟩

/-! ## Columns afterwards -/

section Afterwards

variable {place : Nat} {rows : List (List String)}

theorem NamedAt.eraseIdx (h : table.NamedAt other place) (hne : place ≠ index) :
    Table.NamedAt ⟨table.columns.eraseIdx index, rows⟩ other (withoutPlace index place) := by
  rw [NamedAt, List.getElem?_map, getElem?_withoutPlace _ hne, ← List.getElem?_map]
  exact h

theorem NamedAt.set (h : table.NamedAt other place) (hne : place ≠ index) :
    Table.NamedAt ⟨table.columns.set index name, rows⟩ other place := by
  rw [NamedAt, List.map_set, List.getElem?_set_ne (Ne.symm hne)]
  exact h

theorem namedAt_set_self (h : Text.lower other = Text.lower name)
    (hlt : index < table.columns.length) :
    Table.NamedAt ⟨table.columns.set index name, rows⟩ other index := by
  rw [NamedAt, List.map_set, List.getElem?_set_self (by simpa using hlt), h]

theorem NamedAt.exchange (h : table.NamedAt other place) (hindex : index < table.columns.length)
    (htarget : target < table.columns.length) :
    Table.NamedAt ⟨exchange table.columns index target, rows⟩ other
      (Equiv.swap index target place) := by
  rw [NamedAt, List.getElem?_map, getElem?_exchange hindex htarget, Equiv.swap_apply_self,
    ← List.getElem?_map]
  exact h

theorem getD_exchange {row : List String} (hindex : index < row.length)
    (htarget : target < row.length) :
    (exchange row index target).getD (Equiv.swap index target place) "" = row.getD place "" := by
  rw [List.getD_eq_getElem?_getD, List.getD_eq_getElem?_getD, getElem?_exchange hindex htarget,
    Equiv.swap_apply_self]

theorem namedAt_append_last (h : Text.lower other = Text.lower name) :
    Table.NamedAt ⟨table.columns ++ [name], rows⟩ other table.columns.length := by
  rw [NamedAt, List.getElem?_map, List.getElem?_concat_length, Option.map_some, h]

end Afterwards

/-! ## Edits -/

theorem edited_removeColumn (h : table.Valid) (hedit : table.removeColumn name = .ok result) :
    Edited table result [name] fun other =>
      if sameName other name then .error (.columnNotFound other) else table.columnValues other := by
  have hresult := h.removeColumn hedit
  obtain ⟨index, hindex, rfl⟩ := removeColumn_eq_ok_iff.1 hedit
  obtain ⟨column, hcolumn, hlower⟩ := exists_name_of_position? hindex
  refine ⟨List.length_map _, ?_, fun other => ?_⟩
  · exact filter_eraseIdx hcolumn (not_any_sameName_eq_false (List.mem_singleton_self name) hlower)
  -- No second column goes by the name that is gone, and the others close the gap.
  · by_cases hsame : sameName other name = true
    · rw [if_pos hsame]
      refine columnValues_of_not_mem ?_
      rw [sameName_iff.1 hsame]
      exact h.lower_not_mem_eraseIdx hindex
    · rw [if_neg hsame]
      refine columnValues_of_places hresult ?_ fun place hplace => ?_
      · exact fun hmem => ((List.eraseIdx_sublist _ _).map Text.lower).subset hmem
      · have hne : place ≠ index := by
          rintro rfl
          exact hsame (sameName_of_position? hindex hplace)
        refine ⟨withoutPlace index place, (h.position?_eq_some_iff.1 hplace).eraseIdx hne, ?_⟩
        rw [List.map_map]
        exact List.map_congr_left fun row _ => getD_withoutPlace row hne

/-- The new name may be another spelling of the old one; then both lead to the same cells. -/
theorem edited_renameColumn (h : table.Valid)
    (hedit : table.renameColumn column name = .ok result) :
    Edited table result [column, name] fun other =>
      if sameName other name then table.columnValues column
      else if sameName other column then .error (.columnNotFound other)
      else table.columnValues other := by
  have hresult := h.renameColumn hedit
  obtain ⟨index, hindex, -, rfl⟩ := renameColumn_eq_ok_iff.1 hedit
  have hlt := lt_of_position? hindex
  obtain ⟨before, hbefore, hlower⟩ := exists_name_of_position? hindex
  refine ⟨rfl, ?_, fun other => ?_⟩
  · have hold := not_any_sameName_eq_false (List.mem_cons_self : column ∈ [column, name]) hlower
    have hnew := not_any_sameName_eq_false
      (List.mem_cons_of_mem column (List.mem_singleton_self name)) rfl
    exact (filter_set hlt hnew).trans (filter_eraseIdx hbefore hold)
  -- The new name comes first: it may be a spelling of the old one, which is then found as well.
  · by_cases hsame : sameName other name = true
    · rw [if_pos hsame, columnValues_of_position? hindex]
      have hplace : Table.NamedAt ⟨table.columns.set index name, table.rows⟩ other index :=
        namedAt_set_self (sameName_iff.1 hsame) hlt
      exact columnValues_of_position? (hresult.position?_eq_some_iff.2 hplace)
    · rw [if_neg hsame]
      have hmem : Text.lower other ∈ (table.columns.set index name).map Text.lower →
          Text.lower other ∈ (table.columns.eraseIdx index).map Text.lower := fun hset =>
        ((lower_mem_set_iff hlt).1 hset).resolve_left (mt sameName_iff.2 hsame)
      by_cases hold : sameName other column = true
      · rw [if_pos hold]
        refine columnValues_of_not_mem (mt hmem ?_)
        rw [sameName_iff.1 hold]
        exact h.lower_not_mem_eraseIdx hindex
      · rw [if_neg hold]
        refine columnValues_of_places hresult ?_ fun place hplace => ⟨place, ?_, rfl⟩
        · exact fun hset => ((List.eraseIdx_sublist _ _).map Text.lower).subset (hmem hset)
        · refine (h.position?_eq_some_iff.1 hplace).set ?_
          rintro rfl
          exact hold (sameName_of_position? hindex hplace)

theorem edited_moveColumn {direction : Direction} (h : table.Valid)
    (hedit : table.moveColumn name direction = .ok result) :
    Edited table result [name] table.columnValues := by
  have hresult := h.moveColumn hedit
  obtain ⟨index, hindex, rfl⟩ := moveColumn_eq_ok_iff.1 hedit
  cases htarget : table.neighbour? index direction with
  | none => exact ⟨rfl, rfl, fun _ => rfl⟩
  | some target =>
    rw [htarget] at hresult
    have hlt := lt_of_position? hindex
    obtain ⟨htargetLt, hnext⟩ := neighbour?_eq_some htarget hlt
    obtain ⟨column, hcolumn, hlower⟩ := exists_name_of_position? hindex
    refine ⟨List.length_map _, ?_, fun other => ?_⟩
    · have hpassed := not_any_sameName_eq_false (List.mem_singleton_self name) hlower
      exact filter_exchange hcolumn hpassed htargetLt hnext
    · refine columnValues_of_places hresult ?_ fun place hplace => ?_
      · exact fun hmem => ((exchange_perm _ _ _).map Text.lower).subset hmem
      · refine ⟨_, (h.position?_eq_some_iff.1 hplace).exchange hlt htargetLt, ?_⟩
        rw [List.map_map]
        refine List.map_congr_left fun row hrow => ?_
        have hwidth := h.rowWidths row hrow
        exact getD_exchange (by omega) (by omega)

theorem edited_addColumn {fill : Option String} (h : table.Valid)
    (hedit : table.addColumn name fill = .ok result) :
    Edited table result [name] fun other =>
      if sameName other name then .ok (List.replicate table.rows.length (fill.getD ""))
      else table.columnValues other := by
  have hresult := h.addColumn hedit
  obtain ⟨hnew, rfl⟩ := addColumn_eq_ok_iff.1 hedit
  refine ⟨List.length_map _, ?_, fun other => ?_⟩
  · exact filter_concat (not_any_sameName_eq_false (List.mem_singleton_self name) rfl)
  · by_cases hsame : sameName other name = true
    · rw [if_pos hsame]
      have hplace := hresult.position?_eq_some_iff.2 (namedAt_append_last (sameName_iff.1 hsame))
      rw [columnValues_of_position? hplace, List.map_map]
      refine congrArg Except.ok (List.eq_replicate_iff.2 ⟨List.length_map _, fun cell hcell => ?_⟩)
      obtain ⟨row, hrow, rfl⟩ := List.mem_map.1 hcell
      rw [Function.comp_apply, ← h.rowWidths row hrow,
        List.getD_append_right _ _ _ _ (Nat.le_refl _), Nat.sub_self]
      rfl
    · rw [if_neg hsame]
      refine columnValues_of_places hresult ?_ fun place hplace =>
        ⟨place, lower_of_position? (position?_append_left hplace), ?_⟩
      · intro hmem
        rw [List.map_append, List.mem_append] at hmem
        refine hmem.resolve_right fun hlast => hsame (sameName_iff.2 ?_)
        simpa using hlast
      · rw [List.map_map]
        refine List.map_congr_left fun row hrow => ?_
        have hwidth := h.rowWidths row hrow
        have hlt := lt_of_position? hplace
        rw [Function.comp_apply, List.getD_append _ _ _ _ (by omega)]

/-! ## The result -/

/-- A successful edit of a column keeps the number of rows and the other columns.  A column that is
removed is no longer found, a new name leads to the cells of the old one, a column that is moved
takes its cells along, and a column that is added holds its filling.  Under every other name stand
the cells that stood there. -/
theorem columnEdits_keep_cells (h : table.Valid) :
    (∀ name result, table.removeColumn name = .ok result →
      Edited table result [name] fun other =>
        if sameName other name then .error (.columnNotFound other)
        else table.columnValues other) ∧
    (∀ column name result, table.renameColumn column name = .ok result →
      Edited table result [column, name] fun other =>
        if sameName other name then table.columnValues column
        else if sameName other column then .error (.columnNotFound other)
        else table.columnValues other) ∧
    (∀ name direction result, table.moveColumn name direction = .ok result →
      Edited table result [name] table.columnValues) ∧
    ∀ name fill result, table.addColumn name fill = .ok result →
      Edited table result [name] fun other =>
        if sameName other name then .ok (List.replicate table.rows.length (fill.getD ""))
        else table.columnValues other :=
  ⟨fun _ _ => edited_removeColumn h, fun _ _ _ => edited_renameColumn h,
    fun _ _ _ => edited_moveColumn h, fun _ _ _ => edited_addColumn h⟩

/-- Columns named in other capitals than their own: a column between two others is removed, one gets
its own name in capitals, one moves past its neighbour and one is added without a filling. -/
theorem columnEdits_keep_cells_of_capitals :
    let table : Table := ⟨["a", "b", "c"], [["1", "2", "3"], ["4", "5", "6"]]⟩
    let removed : Table := ⟨["a", "c"], [["1", "3"], ["4", "6"]]⟩
    let renamed : Table := ⟨["A", "b", "c"], [["1", "2", "3"], ["4", "5", "6"]]⟩
    let moved : Table := ⟨["a", "c", "b"], [["1", "3", "2"], ["4", "6", "5"]]⟩
    let added : Table := ⟨["a", "b", "c", "d"], [["1", "2", "3", ""], ["4", "5", "6", ""]]⟩
    table.Valid ∧
      (table.removeColumn "B" = .ok removed ∧ removed.unnamed ["B"] = table.unnamed ["B"] ∧
        removed.columnValues "C" = table.columnValues "C") ∧
      (table.renameColumn "a" "A" = .ok renamed ∧
        renamed.columnValues "a" = table.columnValues "a") ∧
      (table.moveColumn "B" .right = .ok moved ∧
        moved.columnValues "b" = table.columnValues "b") ∧
      (table.addColumn "d" none = .ok added ∧ added.columnValues "D" = .ok ["", ""]) := by
  intro table removed renamed moved added
  have h : table.Valid := by decide +kernel
  have hremove : table.removeColumn "B" = .ok removed := by decide +kernel
  have hrename : table.renameColumn "a" "A" = .ok renamed := by decide +kernel
  have hmove : table.moveColumn "B" .right = .ok moved := by decide +kernel
  have hadd : table.addColumn "d" none = .ok added := by decide +kernel
  obtain ⟨hremoved, hrenamed, hmoved, hadded⟩ := columnEdits_keep_cells h
  refine ⟨h, ⟨hremove, (hremoved _ _ hremove).unnamed, ?_⟩, ⟨hrename, ?_⟩,
    ⟨hmove, (hmoved _ _ _ hmove).values "b"⟩, hadd, ?_⟩
  · exact ((hremoved _ _ hremove).values "C").trans (if_neg (by decide +kernel))
  · exact ((hrenamed _ _ _ hrename).values "a").trans (if_pos (by decide +kernel))
  · exact ((hadded _ _ _ hadd).values "D").trans (if_pos (by decide +kernel))

end CaseScript.Table
