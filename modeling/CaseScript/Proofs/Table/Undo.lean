import CaseScript.Proofs.Table.Edit

/-!
# Edits that are taken back

Every edit of columns is taken back by another edit.  The second one looks its column up in another
header than the first, so the point of each proof is that it finds the very column that the first
one has touched.

* Adding: `removeColumn_of_addColumn`.
* Renaming: `renameColumn_of_renameColumn`.
* Moving: `exchange_exchange` and `moveColumn_opposite`.  At the edge of the table a move does
  nothing while the move back does, which `exchange_ne` tells from the table as it was;
  `moveColumn_back_iff` says what is left.

`columnEdits_undone` is the result.
-/

namespace CaseScript

/-- The other way. -/
def Direction.opposite : Direction → Direction
  | left => right
  | right => left

namespace Table

variable {table added renamed : Table} {name column other stored : String} {index target : Nat}
  {direction : Direction}

theorem map_map_eq_self {α β : Type} {xs : List α} {f : α → β} {g : β → α}
    (h : ∀ x ∈ xs, g (f x) = x) : (xs.map f).map g = xs := by
  rw [List.map_map]
  exact (List.map_congr_left h).trans (List.map_id xs)

/-! ## Adding -/

theorem eraseIdx_append_last {α : Type} (xs : List α) (x : α) :
    (xs ++ [x]).eraseIdx xs.length = xs := by
  rw [List.eraseIdx_append_of_length_le (Nat.le_refl _), Nat.sub_self, List.eraseIdx_cons_zero,
    List.append_nil]

/-- The new column is the only one of its name, so it is the one that is removed. -/
theorem removeColumn_of_addColumn {fill : Option String} (h : table.Valid)
    (hadd : table.addColumn name fill = .ok added) (hsame : sameName other name = true) :
    added.removeColumn other = .ok table := by
  have hadded := h.addColumn hadd
  obtain ⟨-, rfl⟩ := addColumn_eq_ok_iff.1 hadd
  have hindex := hadded.position?_eq_some_iff.2 (namedAt_append_last (sameName_iff.1 hsame))
  refine removeColumn_eq_ok_iff.2 ⟨_, hindex, ?_⟩
  have hrows : (table.rows.map (· ++ [fill.getD ""])).map (·.eraseIdx table.columns.length) =
      table.rows := by
    refine map_map_eq_self fun row hrow => ?_
    rw [← h.rowWidths row hrow, eraseIdx_append_last]
  rw [eraseIdx_append_last, hrows]

/-! ## Renaming -/

/-- The column is found under its new name, and no other column has got the old one. -/
theorem renameColumn_of_renameColumn (h : table.Valid)
    (hrename : table.renameColumn column name = .ok renamed)
    (hindex : table.position? column = some index) (hstored : table.columns[index]? = some stored) :
    renamed.renameColumn name stored = .ok table := by
  have hrenamed := h.renameColumn hrename
  obtain ⟨found, hfound, -, rfl⟩ := renameColumn_eq_ok_iff.1 hrename
  obtain rfl : found = index := Option.some.inj (hfound.symm.trans hindex)
  obtain ⟨hlt, rfl⟩ := List.getElem?_eq_some_iff.1 hstored
  refine renameColumn_eq_ok_iff.2 ⟨found, ?_, fun taken htaken => ?_, ?_⟩
  · exact hrenamed.position?_eq_some_iff.2 (namedAt_set_self rfl hlt)
  · -- a column of the old name that is not the renamed one was there before
    by_contra hne
    have hbefore : table.NamedAt table.columns[found] taken := by
      have hafter := hrenamed.position?_eq_some_iff.1 htaken
      rw [NamedAt, List.map_set, List.getElem?_set_ne (Ne.symm hne)] at hafter
      exact hafter
    have hself : table.NamedAt table.columns[found] found := by
      rw [NamedAt, List.getElem?_map, hstored, Option.map_some]
    have htwice := (h.position?_eq_some_iff.2 hbefore).symm.trans (h.position?_eq_some_iff.2 hself)
    exact hne (Option.some.inj htwice)
  · rw [List.set_set, List.set_getElem_self]

/-! ## Moving -/

theorem exchange_exchange {α : Type} {xs : List α} {i j : Nat} (hi : i < xs.length)
    (hj : j < xs.length) : exchange (exchange xs i j) j i = xs := by
  have hlength := (exchange_perm xs i j).length_eq
  refine List.ext_getElem? fun k => ?_
  rw [getElem?_exchange (by omega) (by omega), getElem?_exchange hi hj, Equiv.swap_comm j i,
    Equiv.swap_apply_self]

theorem exchange_ne {α : Type} {xs : List α} {i j : Nat} (hxs : xs.Nodup) (hi : i < xs.length)
    (hj : j < xs.length) (hne : i ≠ j) : exchange xs i j ≠ xs := by
  intro h
  have hplace := getElem?_exchange hi hj i
  rw [h, Equiv.swap_apply_left] at hplace
  exact hne ((List.getElem?_inj hi hxs).1 hplace)

theorem moveColumn_of_neighbour (hindex : table.position? name = some index)
    (htarget : table.neighbour? index direction = some target) :
    table.moveColumn name direction =
      .ok ⟨exchange table.columns index target, table.rows.map (exchange · index target)⟩ :=
  moveColumn_eq_ok_iff.2 ⟨index, hindex, by rw [htarget]⟩

theorem moveColumn_of_edge (hindex : table.position? name = some index)
    (hedge : table.neighbour? index direction = none) :
    table.moveColumn name direction = .ok table :=
  moveColumn_eq_ok_iff.2 ⟨index, hindex, by rw [hedge]⟩

theorem neighbour?_opposite {columns : List String} {rows : List (List String)}
    (hlength : columns.length = table.columns.length) (hindex : index < table.columns.length)
    (htarget : table.neighbour? index direction = some target) :
    Table.neighbour? ⟨columns, rows⟩ target direction.opposite = some index := by
  cases direction with
  | left =>
    simp only [neighbour?, beq_iff_eq, Option.ite_none_left_eq_some, Option.some.injEq] at htarget
    simp only [Direction.opposite, neighbour?, hlength]
    rw [if_pos (by omega)]
    congr
    omega
  | right =>
    simp only [neighbour?, Option.ite_none_right_eq_some, Option.some.injEq] at htarget
    simp only [Direction.opposite, neighbour?, beq_iff_eq]
    rw [if_neg (by omega)]
    congr
    omega

/-- The column is found at its new place, and the move back exchanges the same two places. -/
theorem moveColumn_opposite (h : table.Valid) (hindex : table.position? name = some index)
    (htarget : table.neighbour? index direction = some target) :
    (table.moveColumn name direction >>= fun moved =>
      moved.moveColumn name direction.opposite) = .ok table := by
  have hlt := lt_of_position? hindex
  obtain ⟨htargetLt, -⟩ := neighbour?_eq_some htarget hlt
  have hmove := moveColumn_of_neighbour hindex htarget
  have hmoved := h.moveColumn hmove
  have hnamed : Table.NamedAt ⟨exchange table.columns index target,
      table.rows.map (exchange · index target)⟩ name (Equiv.swap index target index) :=
    (h.position?_eq_some_iff.1 hindex).exchange hlt htargetLt
  rw [Equiv.swap_apply_left] at hnamed
  rw [hmove]
  show Table.moveColumn ⟨_, _⟩ name direction.opposite = .ok table
  rw [moveColumn_of_neighbour (hmoved.position?_eq_some_iff.2 hnamed)
    (neighbour?_opposite (exchange_perm _ _ _).length_eq hlt htarget)]
  have hrows : (table.rows.map (exchange · index target)).map (exchange · target index) =
      table.rows := by
    refine map_map_eq_self fun row hrow => ?_
    have hwidth := h.rowWidths row hrow
    exact exchange_exchange (by omega) (by omega)
  rw [exchange_exchange hlt htargetLt, hrows]

/-- A move and the move back leave the table as it was, except at its edge, where only the move back
does something.  A single column stands at both edges. -/
theorem moveColumn_back_iff (h : table.Valid) (hindex : table.position? name = some index) :
    (table.moveColumn name direction >>= fun moved =>
        moved.moveColumn name direction.opposite) = .ok table ↔
      (table.neighbour? index direction).isSome ∨ table.columns.length = 1 := by
  have hlt := lt_of_position? hindex
  cases htarget : table.neighbour? index direction with
  | some target => exact iff_of_true (moveColumn_opposite h hindex htarget) (.inl rfl)
  | none =>
    rw [moveColumn_of_edge hindex htarget]
    show table.moveColumn name direction.opposite = .ok table ↔ _
    cases hback : table.neighbour? index direction.opposite with
    | some target =>
      obtain ⟨htargetLt, hnext⟩ := neighbour?_eq_some hback hlt
      rw [moveColumn_of_neighbour hindex hback]
      refine iff_of_false (fun hsame => ?_) ?_
      · exact exchange_ne h.distinctNames.of_map hlt htargetLt (by omega)
          (congrArg Table.columns (Except.ok.inj hsame))
      · simp only [Option.isSome_none, Bool.false_eq_true, false_or]
        omega
    | none =>
      refine iff_of_true (moveColumn_of_edge hindex hback) (.inr ?_)
      -- a column without a neighbour on either side is the only one
      cases direction
      all_goals
        simp only [neighbour?, Direction.opposite, ite_eq_left_iff, ite_eq_right_iff, beq_iff_eq,
          reduceCtorEq, imp_false, Nat.not_lt, not_not] at htarget hback
        omega

theorem isSome_neighbour?_left (table : Table) :
    (table.neighbour? index .left).isSome ↔ 0 < index := by
  by_cases h : index = 0
  · simp [neighbour?, h]
  · simp [neighbour?, h, Nat.pos_of_ne_zero h]

theorem isSome_neighbour?_right (table : Table) :
    (table.neighbour? index .right).isSome ↔ index + 1 < table.columns.length := by
  by_cases h : index + 1 < table.columns.length
  · simp [neighbour?, h]
  · simp [neighbour?, h]

/-! ## The result -/

/-- A column that has been added is removed under every spelling of its name.  A column that has
been renamed gets its stored spelling back.  A column that has been moved is moved back, exactly
unless it stands at an edge of a table of several columns, which stops the first move and not the
second one. -/
theorem columnEdits_undone (h : table.Valid) :
    (∀ name fill added, table.addColumn name fill = .ok added →
      ∀ other, sameName other name = true → added.removeColumn other = .ok table) ∧
    (∀ column name renamed, table.renameColumn column name = .ok renamed →
      ∃ index stored, table.position? column = some index ∧
        table.columns[index]? = some stored ∧ renamed.renameColumn name stored = .ok table) ∧
    ∀ name index, table.position? name = some index →
      ((table.moveColumn name .right >>= fun moved => moved.moveColumn name .left) = .ok table ↔
        index + 1 < table.columns.length ∨ table.columns.length = 1) ∧
      ((table.moveColumn name .left >>= fun moved => moved.moveColumn name .right) = .ok table ↔
        0 < index ∨ table.columns.length = 1) := by
  refine ⟨fun name fill added hadd other hsame => ?_, fun column name renamed hrename => ?_,
    fun name index hindex => ⟨?_, ?_⟩⟩
  · exact removeColumn_of_addColumn h hadd hsame
  · obtain ⟨index, hindex, -⟩ := renameColumn_eq_ok_iff.1 hrename
    have hstored := List.getElem?_eq_getElem (lt_of_position? hindex)
    exact ⟨index, _, hindex, hstored, renameColumn_of_renameColumn h hrename hindex hstored⟩
  · rw [← isSome_neighbour?_right table]
    exact moveColumn_back_iff h hindex
  · rw [← isSome_neighbour?_left table]
    exact moveColumn_back_iff h hindex

/-- A column that is added in small letters and removed in capitals, one that gets another spelling
of its own name and back, and one that moves past its neighbour and back. -/
theorem columnEdits_undone_of_capitals :
    let table : Table := ⟨["A", "b"], [["1", "2"], ["3", "4"]]⟩
    let added : Table := ⟨["A", "b", "c"], [["1", "2", "x"], ["3", "4", "x"]]⟩
    let renamed : Table := ⟨["a", "b"], [["1", "2"], ["3", "4"]]⟩
    table.Valid ∧
      (table.addColumn "c" (some "x") = .ok added ∧ added.removeColumn "C" = .ok table) ∧
      (table.renameColumn "A" "a" = .ok renamed ∧ renamed.renameColumn "a" "A" = .ok table) ∧
      (table.moveColumn "a" .right >>= fun moved => moved.moveColumn "a" .left) = .ok table ∧
      (table.moveColumn "a" .left >>= fun moved => moved.moveColumn "a" .right) ≠ .ok table := by
  intro table added renamed
  have h : table.Valid := by decide +kernel
  have hadd : table.addColumn "c" (some "x") = .ok added := by decide +kernel
  have hrename : table.renameColumn "A" "a" = .ok renamed := by decide +kernel
  have hindex : table.position? "a" = some 0 := by decide +kernel
  obtain ⟨hadded, hrenamed, hmoved⟩ := columnEdits_undone h
  obtain ⟨index, stored, hplace, hstored, hback⟩ := hrenamed "A" "a" renamed hrename
  obtain ⟨hright, hleft⟩ := hmoved "a" 0 hindex
  refine ⟨h, ⟨hadd, hadded "c" _ added hadd "C" (by decide +kernel)⟩, ⟨hrename, ?_⟩,
    hright.2 (.inl (by decide)), fun hsame => absurd (hleft.1 hsame) (by decide)⟩
  have hzero : table.position? "A" = some 0 := by decide +kernel
  rw [hzero, Option.some.injEq] at hplace
  rw [← hplace] at hstored
  cases hstored
  exact hback

end Table

end CaseScript
