import CaseScript.Proofs.Table.Operation
import Mathlib.Data.List.Nodup

/-!
# Operations keep tables valid

Operations build their results without checks.  This file shows that from valid tables they build
valid ones, so that every row keeps one cell for each column and no two columns get the same name.

* Places: `lt_of_position?`, `lower_of_position?` and `neighbour?_eq_some`.
* Columns: `Valid.removeColumn`, `Valid.renameColumn`, `Valid.moveColumn`, `Valid.addColumn`.
* Rows: `Valid.filter` and `Valid.distinct`.
* Two tables: `Valid.cross`, `Valid.join` and `Valid.union`.
-/

namespace CaseScript.Table

variable {table left right other result : Table} {name column : String} {index : Nat}

/-! ## Places -/

theorem lt_of_position? (h : table.position? name = some index) :
    index < table.columns.length := by
  obtain ⟨hlt, -⟩ := List.findIdx?_eq_some_iff_getElem.1 h
  exact hlt

theorem lower_of_position? (h : table.position? name = some index) :
    (table.columns.map Text.lower)[index]? = some (Text.lower name) := by
  obtain ⟨hlt, hname, -⟩ := List.findIdx?_eq_some_iff_getElem.1 h
  rw [sameName, beq_iff_eq] at hname
  rw [List.getElem?_map, List.getElem?_eq_getElem hlt, Option.map_some, hname]

/-- The neighbour of a column is a column, one place to the left or to the right. -/
theorem neighbour?_eq_some {target : Nat} {direction : Direction}
    (h : table.neighbour? index direction = some target) (hindex : index < table.columns.length) :
    target < table.columns.length ∧ (target = index + 1 ∨ index = target + 1) := by
  cases direction with
  | left =>
    simp only [neighbour?, beq_iff_eq, Option.ite_none_left_eq_some, Option.some.injEq] at h
    omega
  | right =>
    simp only [neighbour?, Option.ite_none_right_eq_some, Option.some.injEq] at h
    omega

/-! ## Columns -/

theorem valid_blank : blank.Valid := ⟨List.nodup_nil, by simp [blank]⟩

theorem Valid.removeColumn (htable : table.Valid) (h : table.removeColumn name = .ok result) :
    result.Valid := by
  obtain ⟨index, hindex, rfl⟩ := removeColumn_eq_ok_iff.1 h
  have hlt := lt_of_position? hindex
  constructor
  · exact ((List.eraseIdx_sublist _ _).map Text.lower).nodup htable.distinctNames
  · intro row hrow
    obtain ⟨whole, hwhole, rfl⟩ := List.mem_map.1 hrow
    have hwidth := htable.rowWidths whole hwhole
    rw [List.length_eraseIdx_of_lt (by omega), List.length_eraseIdx_of_lt hlt, hwidth]

/-- The new name stands nowhere else, or it is another spelling of the name that it replaces. -/
theorem Valid.renameColumn (htable : table.Valid)
    (h : table.renameColumn column name = .ok result) : result.Valid := by
  obtain ⟨index, hindex, hfree, rfl⟩ := renameColumn_eq_ok_iff.1 h
  constructor
  · show ((table.columns.set index name).map Text.lower).Nodup
    rw [List.map_set]
    cases hname : table.position? name with
    | none => exact htable.distinctNames.set (position?_eq_none_iff.1 hname)
    | some taken =>
      obtain rfl := hfree taken hname
      obtain ⟨hlt, hsame⟩ := List.getElem?_eq_some_iff.1 (lower_of_position? hname)
      rw [← hsame, List.set_getElem_self]
      exact htable.distinctNames
  · intro row hrow
    rw [List.length_set]
    exact htable.rowWidths row hrow

theorem exchange_perm {α : Type} (xs : List α) (i j : Nat) : (exchange xs i j).Perm xs := by
  unfold exchange
  split
  · rename_i a b ha hb
    obtain ⟨hi, rfl⟩ := List.getElem?_eq_some_iff.1 ha
    obtain ⟨hj, rfl⟩ := List.getElem?_eq_some_iff.1 hb
    exact List.set_set_perm hi hj
  · exact List.Perm.refl xs

theorem Valid.moveColumn {direction : Direction} (htable : table.Valid)
    (h : table.moveColumn name direction = .ok result) : result.Valid := by
  obtain ⟨index, -, rfl⟩ := moveColumn_eq_ok_iff.1 h
  split
  · exact htable
  · rename_i target _
    constructor
    · exact ((exchange_perm _ _ _).map Text.lower).nodup_iff.2 htable.distinctNames
    · intro row hrow
      obtain ⟨before, hbefore, rfl⟩ := List.mem_map.1 hrow
      rw [(exchange_perm _ _ _).length_eq, (exchange_perm _ _ _).length_eq]
      exact htable.rowWidths before hbefore

theorem Valid.addColumn {fill : Option String} (htable : table.Valid)
    (h : table.addColumn name fill = .ok result) : result.Valid := by
  obtain ⟨hnew, rfl⟩ := addColumn_eq_ok_iff.1 h
  constructor
  · exact nodup_append_singleton_iff.2 ⟨position?_eq_none_iff.1 hnew, htable.distinctNames⟩
  · intro row hrow
    obtain ⟨before, hbefore, rfl⟩ := List.mem_map.1 hrow
    rw [List.length_append, List.length_append, htable.rowWidths before hbefore,
      List.length_singleton, List.length_singleton]

/-! ## Rows -/

/-- Any rows of a valid table make a valid one. -/
theorem Valid.ofSubset {rows : List (List String)} (htable : table.Valid)
    (hrows : rows ⊆ table.rows) : Valid ⟨table.columns, rows⟩ :=
  ⟨htable.distinctNames, fun row hrow => htable.rowWidths row (hrows hrow)⟩

theorem Valid.filter [RegexLibrary] {operator : Operator} {values : List String} {negate : Bool}
    (htable : table.Valid) (h : table.filter column operator values negate = .ok result) :
    result.Valid := by
  obtain ⟨index, matchers, -, -, rfl⟩ := filter_eq_ok_iff.1 h
  exact htable.ofSubset (List.filter_sublist).subset

theorem Valid.distinct (htable : table.Valid) : table.distinct.Valid :=
  htable.ofSubset fun _ hrow => List.mem_eraseDups.1 hrow

/-! ## Two tables -/

theorem collision?_none_eq_none_iff :
    left.collision? right none = none ↔
      ∀ name ∈ right.columns, Text.lower name ∉ left.columns.map Text.lower := by
  simp only [collision?, List.find?_eq_none, Bool.not_eq_true, Option.isSome_eq_false_iff,
    Option.isNone_iff_eq_none, position?_eq_none_iff]

theorem collision?_some_eq_none_iff :
    left.collision? right (some index) = none ↔
      ∀ name ∈ right.columns.eraseIdx index, Text.lower name ∉ left.columns.map Text.lower := by
  simp only [collision?, List.find?_eq_none, Bool.not_eq_true, Option.isSome_eq_false_iff,
    Option.isNone_iff_eq_none, position?_eq_none_iff]

/-- Distinct names beside distinct names that are none of them are distinct. -/
theorem nodup_append_of_no_collision {first second : List String}
    (hfirst : (first.map Text.lower).Nodup) (hsecond : (second.map Text.lower).Nodup)
    (h : ∀ name ∈ second, Text.lower name ∉ first.map Text.lower) :
    ((first ++ second).map Text.lower).Nodup := by
  rw [List.map_append, List.nodup_append]
  refine ⟨hfirst, hsecond, ?_⟩
  rintro taken htaken _ hname rfl
  obtain ⟨name, hmem, hlower⟩ := List.mem_map.1 hname
  exact h name hmem (hlower ▸ htaken)

theorem Valid.cross (hleft : left.Valid) (hright : right.Valid)
    (h : left.cross right = .ok result) : result.Valid := by
  obtain ⟨hcollision, rfl⟩ := cross_eq_ok_iff.1 h
  constructor
  · exact nodup_append_of_no_collision hleft.distinctNames hright.distinctNames
      (collision?_none_eq_none_iff.1 hcollision)
  · intro row hrow
    obtain ⟨l, hl, hrow⟩ := List.mem_flatMap.1 hrow
    obtain ⟨r, hr, rfl⟩ := List.mem_map.1 hrow
    rw [List.length_append, List.length_append, hleft.rowWidths l hl, hright.rowWidths r hr]

/-- Each row of the joined table is a left row and a right one without its key. -/
theorem Valid.join (hleft : left.Valid) (hright : right.Valid)
    (h : left.join right column = .ok result) : result.Valid := by
  obtain ⟨leftKey, rightKey, -, hkey, hcollision, rfl⟩ := join_eq_ok_iff.1 h
  have hlt := lt_of_position? hkey
  constructor
  · refine nodup_append_of_no_collision hleft.distinctNames ?_
      (collision?_some_eq_none_iff.1 hcollision)
    exact ((List.eraseIdx_sublist _ _).map Text.lower).nodup hright.distinctNames
  · intro row hrow
    obtain ⟨l, hl, hrow⟩ := List.mem_flatMap.1 hrow
    obtain ⟨r, hr, rfl⟩ := List.mem_map.1 hrow
    rw [RowIndex.rows_ofRows] at hr
    have hwidth := hright.rowWidths r (List.mem_filter.1 hr).1
    rw [List.length_append, List.length_append, hleft.rowWidths l hl,
      List.length_eraseIdx_of_lt (by omega), List.length_eraseIdx_of_lt hlt, hwidth]

theorem mapM_eq_some {α β : Type} {f : α → Option β} {xs : List α} {ys : List β}
    (h : xs.mapM f = some ys) : ys.length = xs.length ∧ ∀ y ∈ ys, ∃ x ∈ xs, f x = some y := by
  rw [mapM_eq_some_iff] at h
  refine ⟨by simpa using (congrArg List.length h).symm, fun y hy => ?_⟩
  have hmem : some y ∈ xs.map f := h ▸ List.mem_map_of_mem hy
  simpa using hmem

theorem Valid.union (htable : table.Valid) (hother : other.Valid)
    (h : table.union other = .ok result) : result.Valid := by
  rcases union_eq_ok_iff.1 h with ⟨-, rfl⟩ | ⟨-, -, places, hplaces, rfl⟩
  · exact hother
  · refine ⟨htable.distinctNames, fun row hrow => ?_⟩
    rcases List.mem_append.1 hrow with hrow | hrow
    · exact htable.rowWidths row hrow
    · obtain ⟨before, -, rfl⟩ := List.mem_map.1 hrow
      rw [List.length_map, (mapM_eq_some hplaces).1]

end CaseScript.Table
