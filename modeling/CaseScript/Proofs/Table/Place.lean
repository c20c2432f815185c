import CaseScript.Proofs.Table.Valid
import Mathlib.Data.List.Perm.Basic

/-!
# Places of columns

A look-up takes the first column that goes by a name.  In a valid table no second column goes by it,
so a place that goes by a name is the place that is found.

* `NamedAt` says that the column at a place goes by a name, and `Valid.position?_eq_some_iff` that
  look-ups find such places.
* `position?_append_left` and `position?_append_right`: columns set side by side.
* `position?_set`: a column under a new name.  `lower_mem_set_iff` and
  `Valid.lower_not_mem_eraseIdx` say which names there are then.
-/

namespace CaseScript.Table

/-- The column at a place goes by a name, in whatever spelling. -/
def NamedAt (table : Table) (name : String) (index : Nat) : Prop :=
  (table.columns.map Text.lower)[index]? = some (Text.lower name)

instance (table : Table) (name : String) (index : Nat) : Decidable (table.NamedAt name index) :=
  inferInstanceAs (Decidable (_ = _))

variable {table : Table} {name fresh : String} {columns more : List String}
  {rows rows' : List (List String)} {index : Nat}

theorem Valid.position?_eq_some_iff (h : table.Valid) :
    table.position? name = some index ↔ table.NamedAt name index := by
  constructor
  · exact lower_of_position?
  · intro hindex
    cases hfound : table.position? name with
    | none => exact absurd (List.mem_of_getElem? hindex) (position?_eq_none_iff.1 hfound)
    | some found =>
      have hlt := (List.getElem?_eq_some_iff.1 hindex).1
      rw [(List.getElem?_inj hlt h.distinctNames).1 (hindex.trans (lower_of_position? hfound).symm)]

/-- Which place is found does not depend on the rows. -/
theorem position?_rows (rows rows' : List (List String)) :
    (Table.mk columns rows).position? name = (Table.mk columns rows').position? name :=
  rfl

theorem position?_append_left (h : (Table.mk columns rows).position? name = some index) :
    (Table.mk (columns ++ more) rows').position? name = some index := by
  rw [position?, List.findIdx?_append]
  rw [position?] at h
  rw [h]
  rfl

theorem position?_append_right (hleft : Text.lower name ∉ columns.map Text.lower)
    (h : (Table.mk more rows).position? name = some index) :
    (Table.mk (columns ++ more) rows').position? name = some (columns.length + index) := by
  have hnone : (Table.mk columns []).position? name = none := position?_eq_none_iff.2 hleft
  rw [position?] at hnone h
  rw [position?, List.findIdx?_append, hnone, h, Nat.add_comm]
  rfl

/-- The place that a name leads to is the only one that goes by it. -/
theorem Valid.lower_not_mem_eraseIdx (h : table.Valid)
    (hindex : table.position? name = some index) :
    Text.lower name ∉ (table.columns.eraseIdx index).map Text.lower := by
  intro hmem
  obtain ⟨column, hcolumn, hlower⟩ := List.mem_map.1 hmem
  obtain ⟨place, hne, hplace⟩ := List.mem_eraseIdx_iff_getElem?.1 hcolumn
  have hnamed : table.NamedAt name place := by
    rw [NamedAt, List.getElem?_map, hplace, Option.map_some, hlower]
  have hfound := h.position?_eq_some_iff.2 hnamed
  rw [hindex] at hfound
  exact hne (Option.some.inj hfound).symm

/-- A new name takes the place of the one that stood there. -/
theorem lower_mem_set_iff (h : index < columns.length) :
    Text.lower name ∈ (columns.set index fresh).map Text.lower ↔
      Text.lower name = Text.lower fresh ∨
        Text.lower name ∈ (columns.eraseIdx index).map Text.lower := by
  rw [((List.set_perm_cons_eraseIdx h fresh).map Text.lower).mem_iff, List.map_cons, List.mem_cons]

/-- A column under a name that is new is found under it. -/
theorem position?_set (hfresh : Text.lower fresh ∉ columns.map Text.lower)
    (h : index < columns.length) :
    (Table.mk (columns.set index fresh) rows).position? fresh = some index := by
  refine List.findIdx?_eq_some_iff_getElem.2 ⟨by simpa using h, by simp [sameName], ?_⟩
  intro other hother
  rw [List.getElem_set_ne (by omega)]
  simp only [sameName, Bool.not_eq_true, beq_eq_false_iff_ne, ne_eq]
  intro hsame
  exact hfresh (hsame ▸ List.mem_map_of_mem (List.getElem_mem _))

end CaseScript.Table
