import CaseScript.Proofs.Table.Join
import CaseScript.Proofs.Table.Union

/-!
# Filters before combinations

A filter looks at the cell of one column.  Where two tables are combined, the rows can as well be
filtered before, in the table that the column comes from.

There are three groups.

* Rows.  `keepWhere` keeps the rows whose cell at a place passes a test.  `filter_eq` says a filter
  with it, and `filter_eq_bind` moves a filter below an operation that goes along with `keepWhere`.
* Combinations.  `cross_keepWhere_left`, `cross_keepWhere_right`, `join_keepWhere_left`,
  `join_keepWhere_right` and `union_keepWhere`: the operations go along with it, at the place that
  the column has in each table.
* `filter_eq_filter_first` is the result.
-/

namespace CaseScript.Table

variable {table left right other result : Table} {column key : String}
  {index leftKey rightKey : Nat}
  {keep : String → Bool}

/-- The rows whose cell at a place passes a test. -/
def keepWhere (table : Table) (index : Nat) (keep : String → Bool) : Table :=
  ⟨table.columns, table.rows.filter fun row => keep (row.getD index "")⟩

/-- The place of an element when the one at another place is gone. -/
def withoutPlace (gone index : Nat) : Nat := if index < gone then index else index - 1

/-! ## Rows -/

theorem exists_position?_iff :
    (∃ index, table.position? column = some index) ↔
      Text.lower column ∈ table.columns.map Text.lower := by
  rw [← not_iff_not, ← position?_eq_none_iff, ← Option.isSome_iff_exists,
    Option.not_isSome_iff_eq_none]

/-- A filter fails on its values alone. -/
theorem filter_eq [RegexLibrary] (h : table.position? column = some index) (operator : Operator)
    (values : List String) (negate : Bool) :
    table.filter column operator values negate =
      (values.mapM (Matcher.ofValue operator)).map fun matchers =>
        table.keepWhere index fun cell => matchers.any (Matcher.accepts cell) != negate := by
  rw [filter, require_eq_ok_iff.2 h]
  cases values.mapM (Matcher.ofValue operator) <;> rfl

/-- An operation that goes along with every test on a column goes along with filters on it. -/
theorem filter_eq_bind [RegexLibrary] {combine : Table → Except TableError Table} {place : Nat}
    (htable : table.position? column = some index)
    (hresult : result.position? column = some place)
    (h : ∀ keep, combine (table.keepWhere index keep) = .ok (result.keepWhere place keep))
    (operator : Operator) (values : List String) (negate : Bool) :
    result.filter column operator values negate =
      (do combine (← table.filter column operator values negate)) := by
  rw [filter_eq hresult, filter_eq htable]
  cases values.mapM (Matcher.ofValue operator) with
  | error error => rfl
  | ok matchers => exact (h _).symm

/-- Elements are kept or dropped with all that is made of them. -/
theorem filter_flatMap_eq {α β : Type} {xs : List α} {f : α → List β} {p : β → Bool} {q : α → Bool}
    (h : ∀ x ∈ xs, ∀ y ∈ f x, p y = q x) : (xs.flatMap f).filter p = (xs.filter q).flatMap f := by
  induction xs with
  | nil => rfl
  | cons x xs ih =>
    obtain ⟨hx, hxs⟩ := List.forall_mem_cons.1 h
    rw [List.flatMap_cons, List.filter_append, ih hxs, List.filter_cons]
    cases hq : q x with
    | true =>
      rw [if_pos rfl, List.flatMap_cons, List.filter_eq_self.2 fun y hy => (hx y hy).trans hq]
    | false =>
      rw [if_neg Bool.false_ne_true, List.filter_eq_nil_iff.2 fun y hy => by simp [hx y hy, hq],
        List.nil_append]

theorem getElem?_withoutPlace {α : Type} (xs : List α) {gone : Nat} (h : index ≠ gone) :
    (xs.eraseIdx gone)[withoutPlace gone index]? = xs[index]? := by
  unfold withoutPlace
  split
  · rename_i hlt
    rw [List.getElem?_eraseIdx_of_lt hlt]
  · rw [List.getElem?_eraseIdx_of_ge (by omega), Nat.sub_add_cancel (by omega)]

theorem getD_withoutPlace (row : List String) {gone : Nat} (h : index ≠ gone) :
    (row.eraseIdx gone).getD (withoutPlace gone index) "" = row.getD index "" := by
  rw [List.getD_eq_getElem?_getD, List.getD_eq_getElem?_getD, getElem?_withoutPlace row h]

/-! ## Combinations -/

theorem cross_keepWhere_left (hleft : left.Valid) (h : left.cross right = .ok result)
    (hindex : index < left.columns.length) :
    (left.keepWhere index keep).cross right = .ok (result.keepWhere index keep) := by
  obtain ⟨hcollision, rfl⟩ := cross_eq_ok_iff.1 h
  refine cross_eq_ok_iff.2 ⟨hcollision, ?_⟩
  rw [keepWhere, keepWhere, filter_flatMap_eq]
  intro l hl row hrow
  obtain ⟨r, -, rfl⟩ := List.mem_map.1 hrow
  rw [List.getD_append _ _ _ _ (by rwa [hleft.rowWidths l hl])]

theorem cross_keepWhere_right (hleft : left.Valid) (h : left.cross right = .ok result) :
    left.cross (right.keepWhere index keep) =
      .ok (result.keepWhere (left.columns.length + index) keep) := by
  obtain ⟨hcollision, rfl⟩ := cross_eq_ok_iff.1 h
  refine cross_eq_ok_iff.2 ⟨hcollision, ?_⟩
  rw [keepWhere, keepWhere, List.filter_flatMap]
  congr 1
  refine List.flatMap_congr fun l hl => ?_
  rw [List.filter_map, ← hleft.rowWidths l hl]
  refine congrArg _ (List.filter_congr fun r _ => ?_)
  rw [Function.comp_apply, List.getD_append_right _ _ _ _ (Nat.le_add_right _ _),
    Nat.add_sub_cancel_left]

theorem join_keepWhere_left (hleft : left.Valid) (h : left.join right key = .ok result)
    (hindex : index < left.columns.length) :
    (left.keepWhere index keep).join right key = .ok (result.keepWhere index keep) := by
  obtain ⟨leftKey, rightKey, hleftKey, hrightKey, hcollision, rfl⟩ := join_eq_ok_iff_nestedJoin.1 h
  refine join_eq_ok_iff_nestedJoin.2 ⟨leftKey, rightKey, hleftKey, hrightKey, hcollision, ?_⟩
  rw [keepWhere, keepWhere, nestedJoin, nestedJoin, filter_flatMap_eq]
  intro l hl row hrow
  obtain ⟨r, -, rfl⟩ := List.mem_map.1 hrow
  rw [List.getD_append _ _ _ _ (by rwa [hleft.rowWidths l hl])]

/-- A right column other than the key stands behind the left columns, one place further to the left
if it stood behind the key. -/
theorem join_keepWhere_right (hleft : left.Valid) (h : left.join right key = .ok result)
    (hkey : right.position? key = some rightKey) (hindex : index ≠ rightKey) :
    left.join (right.keepWhere index keep) key =
      .ok (result.keepWhere (left.columns.length + withoutPlace rightKey index) keep) := by
  obtain ⟨leftKey, found, hleftKey, hfound, hcollision, rfl⟩ := join_eq_ok_iff_nestedJoin.1 h
  obtain rfl : rightKey = found := Option.some.inj (hkey.symm.trans hfound)
  refine join_eq_ok_iff_nestedJoin.2 ⟨leftKey, rightKey, hleftKey, hkey, hcollision, ?_⟩
  rw [keepWhere, keepWhere, nestedJoin, nestedJoin, List.filter_flatMap]
  congr 1
  refine List.flatMap_congr fun l hl => ?_
  rw [List.filter_map, List.filter_filter, List.filter_filter, ← hleft.rowWidths l hl]
  refine congrArg _ (List.filter_congr fun r _ => ?_)
  rw [Bool.and_comm, Function.comp_apply,
    List.getD_append_right _ _ _ _ (Nat.le_add_right _ _), Nat.add_sub_cancel_left,
    getD_withoutPlace r hindex]

/-- A table with a column is not blank, whatever rows it has. -/
theorem not_isBlank_of_position? (h : table.position? column = some index)
    (rows : List (List String)) : (Table.mk table.columns rows).isBlank = false := by
  have hne : table.columns ≠ [] := by
    rintro hnil
    have hlt := lt_of_position? h
    rw [hnil] at hlt
    exact Nat.not_lt_zero _ hlt
  rw [isBlank, List.isEmpty_eq_false_iff.2 hne, Bool.false_and]

/-- Below the first table the cells of the second one stand at the place that their column has
there. -/
theorem union_keepWhere {place : Nat} (hother : other.Valid) (hsame : table.SameColumns other)
    (h : table.union other = .ok result) (htable : table.position? column = some index)
    (hplace : other.position? column = some place) :
    (table.keepWhere index keep).union (other.keepWhere place keep) =
      .ok (result.keepWhere index keep) := by
  rcases union_eq_ok_iff.1 h with ⟨hblank, -⟩ | ⟨-, hlength, places, hplaces, rfl⟩
  · rw [not_isBlank_of_position? htable table.rows] at hblank
    cases hblank
  · have hfound := position?_eq_getElem?_places hother hsame hplaces column
    rw [hplace, htable, Option.bind_some] at hfound
    refine union_eq_ok_iff.2
      (.inr ⟨not_isBlank_of_position? htable _, hlength, places, hplaces, ?_⟩)
    rw [keepWhere, keepWhere, keepWhere, List.filter_append, List.filter_map]
    congr 3
    refine List.filter_congr fun row _ => ?_
    rw [Function.comp_apply, List.getD_eq_getElem?_getD, List.getElem?_map, ← hfound,
      Option.map_some, Option.getD_some]

/-! ## The result -/

theorem exists_name_of_position? (h : table.position? column = some index) :
    ∃ name, table.columns[index]? = some name ∧ Text.lower name = Text.lower column := by
  have hlower := lower_of_position? h
  rw [List.getElem?_map] at hlower
  exact Option.map_eq_some_iff.1 hlower

/-- A right column of a product is no left column. -/
theorem lower_not_mem_of_cross (h : left.collision? right none = none)
    (hindex : right.position? column = some index) :
    Text.lower column ∉ left.columns.map Text.lower := by
  obtain ⟨name, hname, hlower⟩ := exists_name_of_position? hindex
  rw [← hlower]
  exact collision?_none_eq_none_iff.1 h name (List.mem_of_getElem? hname)

/-- Neither is one of a join, the key apart. -/
theorem lower_not_mem_of_join (h : left.collision? right (some rightKey) = none)
    (hindex : right.position? column = some index) (hne : index ≠ rightKey) :
    Text.lower column ∉ left.columns.map Text.lower := by
  obtain ⟨name, hname, hlower⟩ := exists_name_of_position? hindex
  rw [← hlower]
  exact collision?_some_eq_none_iff_getElem?.1 h index hne name hname

theorem position?_withoutPlace (hright : right.Valid) (hindex : right.position? column = some index)
    (hne : index ≠ rightKey) (rows : List (List String)) :
    (Table.mk (right.columns.eraseIdx rightKey) rows).position? column =
      some (withoutPlace rightKey index) := by
  have hvalid : Valid ⟨right.columns.eraseIdx rightKey, []⟩ :=
    ⟨((List.eraseIdx_sublist _ _).map Text.lower).nodup hright.distinctNames, by simp⟩
  refine hvalid.position?_eq_some_iff.2 ?_
  rw [NamedAt, List.getElem?_map, getElem?_withoutPlace _ hne, ← List.getElem?_map]
  exact lower_of_position? hindex

/-- Filtering a product, a join or a union on a column gives the table or the error that it gives to
filter the table that the column comes from before, whichever patterns are refused.  The key of a
join counts as a column of the left table; below each other, both tables are filtered. -/
theorem filter_eq_filter_first [RegexLibrary] (hleft : left.Valid) (hright : right.Valid)
    (column : String) (operator : Operator) (values : List String) (negate : Bool) :
    (∀ product, left.cross right = .ok product →
      (Text.lower column ∈ left.columns.map Text.lower →
        product.filter column operator values negate =
          (do (← left.filter column operator values negate).cross right)) ∧
      (Text.lower column ∈ right.columns.map Text.lower →
        product.filter column operator values negate =
          (do left.cross (← right.filter column operator values negate)))) ∧
    (∀ key joined, left.join right key = .ok joined →
      (Text.lower column ∈ left.columns.map Text.lower →
        joined.filter column operator values negate =
          (do (← left.filter column operator values negate).join right key)) ∧
      (Text.lower column ∈ right.columns.map Text.lower → Text.lower column ≠ Text.lower key →
        joined.filter column operator values negate =
          (do left.join (← right.filter column operator values negate) key))) ∧
    ∀ stacked, left.union right = .ok stacked →
      Text.lower column ∈ left.columns.map Text.lower →
        stacked.filter column operator values negate = (do
          let above ← left.filter column operator values negate
          let below ← right.filter column operator values negate
          above.union below) := by
  simp only [← exists_position?_iff]
  refine ⟨fun product h => ⟨?_, ?_⟩, fun key joined h => ⟨?_, ?_⟩, fun stacked h => ?_⟩
  · rintro ⟨index, hindex⟩
    obtain ⟨-, rfl⟩ := cross_eq_ok_iff.1 h
    exact filter_eq_bind hindex (position?_append_left hindex)
      (fun keep => cross_keepWhere_left hleft h (lt_of_position? hindex)) operator values negate
  · rintro ⟨index, hindex⟩
    obtain ⟨hcollision, rfl⟩ := cross_eq_ok_iff.1 h
    exact filter_eq_bind hindex
      (position?_append_right (lower_not_mem_of_cross hcollision hindex) hindex)
      (fun keep => cross_keepWhere_right hleft h) operator values negate
  · rintro ⟨index, hindex⟩
    obtain ⟨leftKey, rightKey, -, -, -, rfl⟩ := join_eq_ok_iff_nestedJoin.1 h
    exact filter_eq_bind hindex (position?_append_left hindex)
      (fun keep => join_keepWhere_left hleft h (lt_of_position? hindex)) operator values negate
  · rintro ⟨index, hindex⟩ hne
    obtain ⟨leftKey, rightKey, -, hkey, hcollision, rfl⟩ := join_eq_ok_iff_nestedJoin.1 h
    have hplaces : index ≠ rightKey := by
      rintro rfl
      exact hne (Option.some.inj ((lower_of_position? hindex).symm.trans (lower_of_position? hkey)))
    exact filter_eq_bind hindex
      (position?_append_right (lower_not_mem_of_join hcollision hindex hplaces)
        (position?_withoutPlace hright hindex hplaces []))
      (fun keep => join_keepWhere_right hleft h hkey hplaces) operator values negate
  · rintro ⟨index, hindex⟩
    rcases union_eq_ok_iff.1 h with ⟨hblank, -⟩ | ⟨-, hlength, places, hplaces, hstacked⟩
    · rw [not_isBlank_of_position? hindex left.rows] at hblank
      cases hblank
    · have hsame := (exists_places_iff hleft hright).1 ⟨hlength, places, hplaces⟩
      obtain ⟨place, hplace⟩ : ∃ place, right.position? column = some place :=
        exists_position?_iff.2 ((hsame _).1 (exists_position?_iff.1 ⟨index, hindex⟩))
      have hresult : stacked.position? column = some index := by
        rw [hstacked]
        exact hindex
      rw [filter_eq hresult, filter_eq hindex, filter_eq hplace]
      cases values.mapM (Matcher.ofValue operator) with
      | error error => rfl
      | ok matchers => exact (union_keepWhere hright hsame h hindex hplace).symm

/-- A right column behind the key of a join, and columns that stand at other places and have other
capitals in the second table. -/
theorem filter_eq_filter_first_of_shifted :
    let left : Table := ⟨["k", "l"], [["A", "1"], ["b", "2"]]⟩
    let right : Table := ⟨["r", "K", "s"], [["x", "a", "1"], ["y", "B", "2"], ["z", "A", "3"]]⟩
    let joined : Table := ⟨["k", "l", "r", "s"],
      [["A", "1", "x", "1"], ["A", "1", "z", "3"], ["b", "2", "y", "2"]]⟩
    let other : Table := ⟨["L", "K"], [["1", "c"], ["3", "d"]]⟩
    let stacked : Table := ⟨["k", "l"], [["A", "1"], ["b", "2"], ["c", "1"], ["d", "3"]]⟩
    let apart : Table := ⟨["p", "q"], [["0", "1"], ["0", "2"]]⟩
    let product : Table := ⟨["k", "l", "p", "q"],
      [["A", "1", "0", "1"], ["A", "1", "0", "2"], ["b", "2", "0", "1"], ["b", "2", "0", "2"]]⟩
    (left.Valid ∧ right.Valid ∧ other.Valid ∧ apart.Valid) ∧
      (left.join right "k" = .ok joined ∧
        joined.filter "S" .like ["2", "3%"] true =
          (do left.join (← right.filter "S" .like ["2", "3%"] true) "k")) ∧
      (left.union other = .ok stacked ∧
        stacked.filter "L" .equal ["1"] false = (do
          let above ← left.filter "L" .equal ["1"] false
          let below ← other.filter "L" .equal ["1"] false
          above.union below)) ∧
      (left.cross apart = .ok product ∧
        product.filter "Q" .equal ["2"] false =
          (do left.cross (← apart.filter "Q" .equal ["2"] false))) := by
  intro left right joined other stacked apart product
  have hleft : left.Valid := by decide +kernel
  have hright : right.Valid := by decide +kernel
  have hother : other.Valid := by decide +kernel
  have hapart : apart.Valid := by decide +kernel
  have hjoin : left.join right "k" = .ok joined := by decide +kernel
  have hunion : left.union other = .ok stacked := by decide +kernel
  have hcross : left.cross apart = .ok product := by decide +kernel
  have hmoved := ((filter_eq_filter_first hleft hright "S" .like ["2", "3%"] true).2.1 "k" joined
    hjoin).2 (by decide +kernel) (by decide +kernel)
  have hbelow := (filter_eq_filter_first hleft hother "L" .equal ["1"] false).2.2 stacked hunion
    (by decide +kernel)
  have hbeside := ((filter_eq_filter_first hleft hapart "Q" .equal ["2"] false).1 product
    hcross).2 (by decide +kernel)
  exact ⟨⟨hleft, hright, hother, hapart⟩, ⟨hjoin, hmoved⟩, ⟨hunion, hbelow⟩, hcross, hbeside⟩

/-- The key of the right table is no such column: a join compares keys in lower case, a filter as
they are. -/
example :
    let left : Table := ⟨["k"], [["A"]]⟩
    let right : Table := ⟨["k", "r"], [["a", "1"]]⟩
    (left.join right "k").bind (·.filter "k" .equal ["a"] false) ≠
      (right.filter "k" .equal ["a"] false).bind (left.join · "k") := by
  decide +kernel

end CaseScript.Table
