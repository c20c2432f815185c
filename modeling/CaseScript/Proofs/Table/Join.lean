import CaseScript.Proofs.Table.Place
import Mathlib.Data.List.GetD
import Mathlib.Data.List.Perm.Basic

/-!
# Joins without an index

A join looks up the right rows in an index by key.  This file says what it gives in two ways that
need no index, and shows that the join gives the same.

There are three groups.

* Nested loops.  `nestedJoin` tries every left row with every right row, and
  `join_eq_ok_iff_nestedJoin` says when a join succeeds and that it then gives this table.
* Other operations.  `joinByCross` gives the right key a new name, takes the product, keeps the rows
  whose two keys are equal, and drops the right key.  `mem_set_iff` and `collision?_set_eq_none_iff`
  say what the new name does to the product, `rows_joinByCross` what is left of it.
* `join_eq_nestedJoin` is the result.
-/

namespace CaseScript.Table

variable {left right result : Table} {column fresh : String} {leftKey rightKey : Nat}

/-- Every left row beside each right row with the same key in lower case.  The right key is left
out. -/
def nestedJoin (left right : Table) (leftKey rightKey : Nat) : Table :=
  ⟨left.columns ++ right.columns.eraseIdx rightKey,
    left.rows.flatMap fun l =>
      (right.rows.filter fun r =>
        Text.lower (l.getD leftKey "") == Text.lower (r.getD rightKey "")).map
          fun r => l ++ r.eraseIdx rightKey⟩

/-- The rows whose cells under two columns are equal in lower case. -/
def keepEqual (table : Table) (first second : String) : Except TableError Table := do
  let i ← table.require first
  let j ← table.require second
  return ⟨table.columns,
    table.rows.filter fun row => Text.lower (row.getD i "") == Text.lower (row.getD j "")⟩

/-- The join put together from other operations.  The right key goes by a new name in between. -/
def joinByCross (left right : Table) (column fresh : String) : Except TableError Table := do
  let renamed ← right.renameColumn column fresh
  let product ← left.cross renamed
  let kept ← product.keepEqual column fresh
  kept.removeColumn fresh

/-! ## Nested loops -/

/-- No right column but the key has the name of a left one. -/
theorem collision?_some_eq_none_iff_getElem? :
    left.collision? right (some rightKey) = none ↔
      ∀ place ≠ rightKey, ∀ name, right.columns[place]? = some name →
        Text.lower name ∉ left.columns.map Text.lower := by
  rw [collision?_some_eq_none_iff]
  constructor
  · intro h place hplace name hname
    exact h name (List.mem_eraseIdx_iff_getElem?.2 ⟨place, hplace, hname⟩)
  · intro h name hmem
    obtain ⟨place, hplace, hname⟩ := List.mem_eraseIdx_iff_getElem?.1 hmem
    exact h place hplace name hname

theorem join_eq_ok_iff_nestedJoin :
    left.join right column = .ok result ↔
      ∃ leftKey rightKey, left.position? column = some leftKey ∧
        right.position? column = some rightKey ∧
        left.collision? right (some rightKey) = none ∧
        result = left.nestedJoin right leftKey rightKey := by
  rw [join_eq_ok_iff]
  simp only [RowIndex.rows_ofRows, nestedJoin, BEq.comm]

/-! ## Other operations -/

theorem keepEqual_eq_ok_iff {table : Table} {first second : String} :
    table.keepEqual first second = .ok result ↔
      ∃ i j, table.position? first = some i ∧ table.position? second = some j ∧
        result = ⟨table.columns, table.rows.filter fun row =>
          Text.lower (row.getD i "") == Text.lower (row.getD j "")⟩ := by
  simp only [keepEqual, except_bind_eq_ok_iff, require_eq_ok_iff, pure, Except.pure,
    Except.ok.injEq, eq_comm (b := result)]
  constructor
  · intro h
    rcases h with ⟨i, hi, j, hj, h⟩
    exact ⟨i, j, hi, hj, h⟩
  · intro h
    rcases h with ⟨i, j, hi, hj, h⟩
    exact ⟨i, hi, j, hj, h⟩

/-- The new name takes the place of the key, and all other names stay. -/
theorem mem_set_iff {names : List String} (h : rightKey < names.length) {name : String} :
    name ∈ names.set rightKey fresh ↔ name = fresh ∨ name ∈ names.eraseIdx rightKey := by
  rw [(List.set_perm_cons_eraseIdx h fresh).mem_iff, List.mem_cons]

/-- Under its new name the right key is in nobody's way. -/
theorem collision?_set_eq_none_iff (hleft : Text.lower fresh ∉ left.columns.map Text.lower)
    (h : rightKey < right.columns.length) :
    left.collision? ⟨right.columns.set rightKey fresh, right.rows⟩ none = none ↔
      left.collision? right (some rightKey) = none := by
  rw [collision?_none_eq_none_iff, collision?_some_eq_none_iff]
  constructor
  · intro hfree name hname
    exact hfree name ((mem_set_iff h).2 (.inr hname))
  · intro hfree name hname
    rcases (mem_set_iff h).1 hname with rfl | hname
    · exact hleft
    · exact hfree name hname

/-- Under its new name the right key is no longer found under the old one. -/
theorem lower_not_mem_set (hright : right.Valid) (hkey : right.position? column = some rightKey)
    (hfresh : Text.lower fresh ∉ right.columns.map Text.lower) :
    Text.lower column ∉ (right.columns.set rightKey fresh).map Text.lower := by
  rw [lower_mem_set_iff (lt_of_position? hkey), not_or]
  refine ⟨fun hsame => ?_, hright.lower_not_mem_eraseIdx hkey⟩
  rw [← hsame] at hfresh
  exact hfresh (List.mem_of_getElem? (lower_of_position? hkey))

/-- In the product the left key stands where it stood, and the right one behind the left columns. -/
theorem product_positions (hright : right.Valid)
    (hleftFresh : Text.lower fresh ∉ left.columns.map Text.lower)
    (hfresh : Text.lower fresh ∉ right.columns.map Text.lower)
    (hkey : right.position? column = some rightKey) (rows : List (List String)) :
    let product : Table := ⟨left.columns ++ right.columns.set rightKey fresh, rows⟩
    product.position? column = left.position? column ∧
      product.position? fresh = some (left.columns.length + rightKey) := by
  have hplace : (Table.mk (right.columns.set rightKey fresh) []).position? fresh = some rightKey :=
    position?_set hfresh (lt_of_position? hkey)
  refine ⟨?_, position?_append_right hleftFresh hplace⟩
  cases hleft : left.position? column with
  | some index => exact position?_append_left hleft
  | none =>
    rw [position?_eq_none_iff] at hleft ⊢
    rw [List.map_append, List.mem_append]
    intro hmem
    rcases hmem with hmem | hmem
    · exact hleft hmem
    · exact lower_not_mem_set hright hkey hfresh hmem

/-- The rows of the product with equal keys, without the right key, are those of nested loops. -/
theorem rows_joinByCross (hleft : left.Valid) (hlt : leftKey < left.columns.length) :
    ((left.rows.flatMap fun l => right.rows.map fun r => l ++ r).filter fun row =>
        Text.lower (row.getD leftKey "") ==
          Text.lower (row.getD (left.columns.length + rightKey) "")).map
        (·.eraseIdx (left.columns.length + rightKey)) =
      (left.nestedJoin right leftKey rightKey).rows := by
  rw [List.filter_flatMap, List.map_flatMap]
  refine List.flatMap_congr fun l hl => ?_
  have hwidth := hleft.rowWidths l hl
  rw [← hwidth] at hlt ⊢
  rw [List.filter_map, List.map_map]
  refine congrArg₂ List.map (funext fun r => ?_) (List.filter_congr fun r _ => ?_)
  · rw [Function.comp_apply, List.eraseIdx_append_of_length_le (Nat.le_add_right _ _),
      Nat.add_sub_cancel_left]
  · rw [Function.comp_apply, List.getD_append _ _ _ _ hlt,
      List.getD_append_right _ _ _ _ (Nat.le_add_right _ _), Nat.add_sub_cancel_left]

theorem joinByCross_eq_ok_iff (hleft : left.Valid) (hright : right.Valid)
    (hleftFresh : Text.lower fresh ∉ left.columns.map Text.lower)
    (hfresh : Text.lower fresh ∉ right.columns.map Text.lower) :
    left.joinByCross right column fresh = .ok result ↔
      ∃ leftKey rightKey, left.position? column = some leftKey ∧
        right.position? column = some rightKey ∧
        left.collision? right (some rightKey) = none ∧
        result = left.nestedJoin right leftKey rightKey := by
  simp only [joinByCross, except_bind_eq_ok_iff, renameColumn_eq_ok_iff, cross_eq_ok_iff,
    keepEqual_eq_ok_iff, removeColumn_eq_ok_iff]
  constructor
  · intro h
    rcases h with ⟨_, ⟨rightKey, hkey, -, rfl⟩, _, ⟨hcollision, rfl⟩, _,
      ⟨leftKey, keyPlace, hleftKey, hplace, rfl⟩, erased, herased, rfl⟩
    obtain ⟨hcolumn, hrenamed⟩ := product_positions hright hleftFresh hfresh hkey
      (left.rows.flatMap fun l => right.rows.map fun r => l ++ r)
    rw [hcolumn] at hleftKey
    rw [hrenamed] at hplace
    cases hplace
    rw [position?_rows _ (left.rows.flatMap fun l => right.rows.map fun r => l ++ r),
      hrenamed] at herased
    cases herased
    refine ⟨leftKey, rightKey, hleftKey, hkey,
      (collision?_set_eq_none_iff hleftFresh (lt_of_position? hkey)).1 hcollision, ?_⟩
    rw [rows_joinByCross hleft (lt_of_position? hleftKey),
      List.eraseIdx_append_of_length_le (Nat.le_add_right _ _), Nat.add_sub_cancel_left,
      List.eraseIdx_set_eq]
    rfl
  · intro h
    rcases h with ⟨leftKey, rightKey, hleftKey, hkey, hcollision, rfl⟩
    obtain ⟨hcolumn, hrenamed⟩ := product_positions hright hleftFresh hfresh hkey
      (left.rows.flatMap fun l => right.rows.map fun r => l ++ r)
    have hfree : ∀ taken, right.position? fresh = some taken → taken = rightKey := by
      intro taken htaken
      rw [position?_eq_none_iff.2 hfresh] at htaken
      cases htaken
    refine ⟨_, ⟨rightKey, hkey, hfree, rfl⟩, _,
      ⟨(collision?_set_eq_none_iff hleftFresh (lt_of_position? hkey)).2 hcollision, rfl⟩, _,
      ⟨leftKey, _, hcolumn.trans hleftKey, hrenamed, rfl⟩, _, hrenamed, ?_⟩
    rw [rows_joinByCross hleft (lt_of_position? hleftKey),
      List.eraseIdx_append_of_length_le (Nat.le_add_right _ _), Nat.add_sub_cancel_left,
      List.eraseIdx_set_eq]
    rfl

/-! ## The result -/

/-- A join of valid tables succeeds where both tables have the column and no other right column has
the name of a left one.  It gives the rows of nested loops, and it gives what renaming, product,
comparison and removal give. -/
theorem join_eq_nestedJoin (hleft : left.Valid) (hright : right.Valid) (column : String) :
    (∀ result, left.join right column = .ok result ↔
      ∃ leftKey rightKey, left.NamedAt column leftKey ∧ right.NamedAt column rightKey ∧
        (∀ place ≠ rightKey, ∀ name, right.columns[place]? = some name →
          Text.lower name ∉ left.columns.map Text.lower) ∧
        result = left.nestedJoin right leftKey rightKey) ∧
    ∀ fresh, Text.lower fresh ∉ left.columns.map Text.lower →
      Text.lower fresh ∉ right.columns.map Text.lower →
      ∀ result, left.join right column = .ok result ↔
        left.joinByCross right column fresh = .ok result := by
  constructor
  · intro result
    simp only [join_eq_ok_iff_nestedJoin, hleft.position?_eq_some_iff,
      hright.position?_eq_some_iff, collision?_some_eq_none_iff_getElem?]
  · intro fresh hleftFresh hfresh result
    rw [join_eq_ok_iff_nestedJoin, joinByCross_eq_ok_iff hleft hright hleftFresh hfresh]

/-- The key is the second column on the right and is spelled with a capital there, and two right
rows have the key of two left ones. -/
theorem join_eq_nestedJoin_of_spellings :
    let left : Table := ⟨["k", "l"], [["A", "1"], ["b", "2"], ["a", "3"]]⟩
    let right : Table := ⟨["r", "K"], [["x", "a"], ["y", "B"], ["z", "A"]]⟩
    let joined : Table := ⟨["k", "l", "r"],
      [["A", "1", "x"], ["A", "1", "z"], ["b", "2", "y"], ["a", "3", "x"], ["a", "3", "z"]]⟩
    left.Valid ∧ right.Valid ∧ left.join right "k" = .ok joined ∧
      Text.lower "f" ∉ left.columns.map Text.lower ∧ Text.lower "f" ∉ right.columns.map Text.lower ∧
      left.joinByCross right "k" "f" = .ok joined := by
  intro left right joined
  have hleft : left.Valid := by decide +kernel
  have hright : right.Valid := by decide +kernel
  have hleftFresh : Text.lower "f" ∉ left.columns.map Text.lower := by decide +kernel
  have hfresh : Text.lower "f" ∉ right.columns.map Text.lower := by decide +kernel
  obtain ⟨hnested, hcross⟩ := join_eq_nestedJoin hleft hright "k"
  have hjoin : left.join right "k" = .ok joined := by
    refine (hnested joined).2 ⟨0, 1, by decide +kernel, by decide +kernel, ?_, by decide +kernel⟩
    intro place hplace name hname
    match place with
    | 0 =>
      cases hname
      decide +kernel
    | 1 => exact absurd rfl hplace
    | _ + 2 => cases hname
  exact ⟨hleft, hright, hjoin, hleftFresh, hfresh, (hcross "f" hleftFresh hfresh joined).1 hjoin⟩

end CaseScript.Table
