import CaseScript.Proofs.Table.FilterFirst
import CaseScript.Proofs.Table.Product
import Mathlib.Data.List.Induction

/-!
# Repeated rows

`distinct` goes through the rows of a table from the top and passes over those that it has met
before.  This file says which rows are left, and that it makes no difference whether rows are passed
over before or after a filter, and before or after a product.

There are four groups.

* `FirstsOf` says which rows are left and in which order.  By `FirstsOf.unique` no other list fits.
* One row after the other.  `FirstsOf.again` and `FirstsOf.new` are the two steps of the walk
  through the rows, and `firstsOf_eraseDups` is the whole walk.
* Rows kept and rows combined.  `FirstsOf.filter` and `FirstsOf.besides` carry the description
  through a filter and a product: `idxOf_filter_lt` and `idxOf_besides` say where rows first stand
  in them.
* `distinct_keeps_firsts` is the result.
-/

namespace CaseScript.Table

/-- The rows that are left when a row that stood before is passed over.  They stand in the order in
which they first stood. -/
structure FirstsOf (rows kept : List (List String)) : Prop where
  mem_iff : ∀ row, row ∈ kept ↔ row ∈ rows
  ordered : kept.Pairwise fun row later => rows.idxOf row < rows.idxOf later

variable {rows kept left right keptLeft keptRight : List (List String)} {row l r : List String}
  {width : Nat}

theorem FirstsOf.nodup (h : FirstsOf rows kept) : kept.Nodup := by
  refine h.ordered.imp fun hlt hsame => ?_
  rw [hsame] at hlt
  exact Nat.lt_irrefl _ hlt

/-- The description leaves no choice. -/
theorem FirstsOf.unique {other : List (List String)} (h : FirstsOf rows kept)
    (hother : FirstsOf rows other) : kept = other := by
  have hperm : kept.Perm other := by
    refine (List.perm_ext_iff_of_nodup h.nodup hother.nodup).2 fun row => ?_
    rw [h.mem_iff, hother.mem_iff]
  refine hperm.eq_of_pairwise ?_ h.ordered hother.ordered
  intro row later _ _ hlt hgt
  exact absurd hgt (Nat.lt_asymm hlt)

/-- Of different rows all are left. -/
theorem FirstsOf.self (h : rows.Nodup) : FirstsOf rows rows where
  mem_iff _ := Iff.rfl
  ordered := by
    rw [List.pairwise_iff_getElem]
    intro i j hi hj hij
    rwa [h.idxOf_getElem, h.idxOf_getElem]

/-! ## One row after the other -/

/-- Rows to come do not change where a row first stood. -/
theorem FirstsOf.ordered_append (h : FirstsOf rows kept) (more : List (List String)) :
    kept.Pairwise fun row later => (rows ++ more).idxOf row < (rows ++ more).idxOf later := by
  refine h.ordered.imp_of_mem fun hfirst hlater hlt => ?_
  rwa [List.idxOf_append_of_mem ((h.mem_iff _).1 hfirst),
    List.idxOf_append_of_mem ((h.mem_iff _).1 hlater)]

/-- A row that stood before is passed over. -/
theorem FirstsOf.again (h : FirstsOf rows kept) (hrow : row ∈ rows) :
    FirstsOf (rows ++ [row]) kept where
  mem_iff other := by
    rw [h.mem_iff, List.mem_append, List.mem_singleton]
    constructor
    · exact .inl
    · intro hother
      rcases hother with hother | rfl
      · exact hother
      · exact hrow
  ordered := h.ordered_append [row]

/-- A row that is new is left, behind the others. -/
theorem FirstsOf.new (h : FirstsOf rows kept) (hrow : row ∉ rows) :
    FirstsOf (rows ++ [row]) (kept ++ [row]) where
  mem_iff other := by rw [List.mem_append, List.mem_append, h.mem_iff]
  ordered := by
    rw [List.pairwise_append]
    refine ⟨h.ordered_append [row], List.pairwise_singleton _ _, ?_⟩
    intro first hfirst later hlater
    have hmem : first ∈ rows := (h.mem_iff first).1 hfirst
    rw [List.mem_singleton.1 hlater, List.idxOf_append_of_mem hmem,
      List.idxOf_append_of_notMem hrow]
    exact Nat.lt_of_lt_of_le (List.idxOf_lt_length_of_mem hmem) (Nat.le_add_right _ _)

/-- After each row the rows that are left are the firsts of those that were met. -/
theorem firstsOf_eraseDups (rows : List (List String)) : FirstsOf rows rows.eraseDups := by
  -- From the end, since the walk decides on a row by the rows above it.
  induction rows using List.reverseRecOn with
  | nil => exact .self List.nodup_nil
  | append_singleton rows row ih =>
    rw [List.eraseDups_append]
    by_cases hrow : row ∈ rows
    · have hnone : [row].removeAll rows = [] := by simp [List.removeAll, hrow]
      rw [hnone, List.eraseDups_nil, List.append_nil]
      exact ih.again hrow
    · have hone : [row].removeAll rows = [row] := by simp [List.removeAll, hrow]
      rw [hone]
      exact ih.new hrow

theorem FirstsOf.eq_eraseDups (h : FirstsOf rows kept) : rows.eraseDups = kept :=
  (firstsOf_eraseDups rows).unique h

/-! ## Rows kept and rows combined -/

/-- Rows that a filter keeps first stand in the order in which they first stood. -/
theorem idxOf_filter_lt {p : List String → Bool} {later : List String} (hrow : p row = true)
    (h : rows.idxOf row < rows.idxOf later) :
    (rows.filter p).idxOf row < (rows.filter p).idxOf later := by
  induction rows with
  | nil => simp at h
  | cons head rows ih =>
    by_cases hlaterHead : head = later
    · simp [hlaterHead] at h
    · by_cases hhead : head = row
      · subst hhead
        rw [List.filter_cons_of_pos hrow, List.idxOf_cons_self, List.idxOf_cons_ne _ hlaterHead]
        exact Nat.succ_pos _
      · rw [List.idxOf_cons_ne _ hhead, List.idxOf_cons_ne _ hlaterHead] at h
        have hlt := ih (Nat.lt_of_succ_lt_succ h)
        by_cases hkeep : p head = true
        · rw [List.filter_cons_of_pos hkeep, List.idxOf_cons_ne _ hhead,
            List.idxOf_cons_ne _ hlaterHead]
          exact Nat.succ_lt_succ hlt
        · rwa [List.filter_cons_of_neg hkeep]

theorem FirstsOf.filter (h : FirstsOf rows kept) (p : List String → Bool) :
    FirstsOf (rows.filter p) (kept.filter p) where
  mem_iff row := by rw [List.mem_filter, List.mem_filter, h.mem_iff]
  ordered := by
    refine (h.ordered.filter p).imp_of_mem fun hfirst _ hlt => ?_
    exact idxOf_filter_lt (List.mem_filter.1 hfirst).2 hlt

/-- A row of a product first stands where both its halves first stand: left rows of one width meet
no row of another left row. -/
theorem idxOf_besides (hwidth : ∀ l ∈ left, l.length = width) (hl : l ∈ left) (hr : r ∈ right) :
    (besides left right).idxOf (l ++ r) = left.idxOf l * right.length + right.idxOf r := by
  induction left with
  | nil => cases hl
  | cons head left ih =>
    obtain ⟨hhead, hleft⟩ := List.forall_mem_cons.1 hwidth
    rw [besides_cons]
    by_cases hsame : head = l
    · subst hsame
      have hmem : head ++ r ∈ right.map (head ++ ·) := List.mem_map_of_mem hr
      rw [List.idxOf_append_of_mem hmem, List.idxOf_cons_self, Nat.zero_mul, Nat.zero_add,
        List.idxOf, List.findIdx_map]
      congr 1
      funext other
      simp
    · have hrest : l ∈ left := (List.mem_cons.1 hl).resolve_left (Ne.symm hsame)
      have hnot : l ++ r ∉ right.map (head ++ ·) := by
        intro hmem
        obtain ⟨other, -, hother⟩ := List.mem_map.1 hmem
        exact hsame (List.append_inj_left hother (hhead.trans (hleft l hrest).symm))
      rw [List.idxOf_append_of_notMem hnot, ih hleft hrest, List.length_map,
        List.idxOf_cons_ne _ hsame, Nat.succ_mul]
      omega

/-- Of two rows of a product that comes first whose left half comes first, and of rows with one left
half that comes first whose right half does. -/
theorem FirstsOf.besides (hleft : FirstsOf left keptLeft) (hright : FirstsOf right keptRight)
    (hwidth : ∀ l ∈ left, l.length = width) :
    FirstsOf (besides left right) (besides keptLeft keptRight) where
  mem_iff row := by simp only [mem_besides, hleft.mem_iff, hright.mem_iff]
  ordered := by
    have hplace : ∀ l ∈ keptLeft, ∀ r ∈ keptRight,
        (Table.besides left right).idxOf (l ++ r) =
          left.idxOf l * right.length + right.idxOf r := fun l hl r hr =>
      idxOf_besides hwidth ((hleft.mem_iff l).1 hl) ((hright.mem_iff r).1 hr)
    refine List.pairwise_flatMap.2 ⟨fun l hl => ?_, ?_⟩
    -- With one left row the right rows decide.
    · rw [List.pairwise_map]
      refine hright.ordered.imp_of_mem fun hfirst hlater hlt => ?_
      rw [hplace l hl _ hfirst, hplace l hl _ hlater]
      exact Nat.add_lt_add_left hlt _
    -- With two left rows these decide: all rows of the first stand before those of the second.
    · refine hleft.ordered.imp_of_mem fun {l} {l'} hl hl' hlt => ?_
      intro first hfirst later hlater
      obtain ⟨r, hr, rfl⟩ := List.mem_map.1 hfirst
      obtain ⟨r', hr', rfl⟩ := List.mem_map.1 hlater
      rw [hplace l hl r hr, hplace l' hl' r' hr']
      have hr : right.idxOf r < right.length :=
        List.idxOf_lt_length_of_mem ((hright.mem_iff r).1 hr)
      calc left.idxOf l * right.length + right.idxOf r
          < left.idxOf l * right.length + right.length := Nat.add_lt_add_left hr _
        _ = (left.idxOf l + 1) * right.length := (Nat.succ_mul _ _).symm
        _ ≤ left.idxOf l' * right.length := Nat.mul_le_mul_right _ hlt
        _ ≤ left.idxOf l' * right.length + right.idxOf r' := Nat.le_add_right _ _

/-! ## Tables -/

/-- Which rows a test keeps does not depend on rows that stood before. -/
theorem distinct_keepWhere (table : Table) (index : Nat) (keep : String → Bool) :
    (table.keepWhere index keep).distinct = table.distinct.keepWhere index keep :=
  congrArg (Table.mk table.columns) ((firstsOf_eraseDups table.rows).filter _).eq_eraseDups

theorem filter_of_position?_eq_none [RegexLibrary] {table : Table} {column : String}
    (h : table.position? column = none) (operator : Operator) (values : List String)
    (negate : Bool) :
    table.filter column operator values negate = .error (.columnNotFound column) := by
  rw [Table.filter, require, h]
  rfl

theorem filter_distinct [RegexLibrary] (table : Table) (column : String) (operator : Operator)
    (values : List String) (negate : Bool) :
    table.distinct.filter column operator values negate =
      (do return (← table.filter column operator values negate).distinct) := by
  cases hindex : table.position? column with
  | none =>
    have hdistinct : table.distinct.position? column = none := hindex
    rw [filter_of_position?_eq_none hindex, filter_of_position?_eq_none hdistinct]
    rfl
  | some index =>
    have hdistinct : table.distinct.position? column = some index := hindex
    rw [filter_eq hindex, filter_eq hdistinct]
    cases values.mapM (Matcher.ofValue operator) with
    | error error => rfl
    | ok matchers => exact congrArg Except.ok (distinct_keepWhere table index _).symm

/-- The left rows have one width, so rows of the product are equal only where both halves are. -/
theorem eraseDups_besides {left : Table} (hleft : left.Valid) (right : Table) :
    (besides left.rows right.rows).eraseDups = besides left.distinct.rows right.distinct.rows :=
  ((firstsOf_eraseDups left.rows).besides (firstsOf_eraseDups right.rows)
    hleft.rowWidths).eq_eraseDups

theorem cross_distinct {left : Table} (hleft : left.Valid) (right : Table) :
    left.distinct.cross right.distinct = (do return (← left.cross right).distinct) := by
  cases hcollision : left.collision? right none with
  | none =>
    have happart : left.Apart right := collision?_none_eq_none_iff_apart.1 hcollision
    have hdistinct : left.distinct.Apart right.distinct := happart
    rw [cross_of_apart happart, cross_of_apart hdistinct, ← eraseDups_besides hleft]
    rfl
  | some name =>
    have hdistinct : left.distinct.collision? right.distinct none = some name := hcollision
    rw [cross_of_collision hcollision, cross_of_collision hdistinct]
    rfl

/-! ## The result -/

/-- `distinct` keeps the first of equal rows, in their order, so that a second time it changes
nothing.  Repeated rows can be dropped before a filter or after it, and from the factors of a
product or from the product, with the same table or error, whichever patterns are refused. -/
theorem distinct_keeps_firsts [RegexLibrary] :
    (∀ table : Table, table.distinct.columns = table.columns ∧ table.distinct.rows.Nodup ∧
      FirstsOf table.rows table.distinct.rows ∧ table.distinct.distinct = table.distinct) ∧
    (∀ (table : Table) (column : String) (operator : Operator) (values : List String)
        (negate : Bool),
      table.distinct.filter column operator values negate =
        (do return (← table.filter column operator values negate).distinct)) ∧
    ∀ left right : Table, left.Valid →
      left.distinct.cross right.distinct = (do return (← left.cross right).distinct) := by
  refine ⟨fun table => ?_, filter_distinct, fun left right hleft => cross_distinct hleft right⟩
  have hfirsts := firstsOf_eraseDups table.rows
  refine ⟨rfl, hfirsts.nodup, hfirsts, ?_⟩
  exact congrArg (Table.mk table.columns) (FirstsOf.self hfirsts.nodup).eq_eraseDups

/-- Both factors repeat a row. -/
theorem distinct_keeps_firsts_of_both_factors :
    let left : Table := ⟨["a"], [["1"], ["2"], ["1"]]⟩
    let right : Table := ⟨["b"], [["x"], ["y"], ["x"]]⟩
    let product : Table := ⟨["a", "b"], [["1", "x"], ["1", "y"], ["2", "x"], ["2", "y"]]⟩
    left.Valid ∧ left.distinct.cross right.distinct = .ok product ∧
      left.distinct.cross right.distinct = (do return (← left.cross right).distinct) := by
  intro left right product
  have hleft : left.Valid := by decide +kernel
  exact ⟨hleft, by decide +kernel, distinct_keeps_firsts.2.2 left right hleft⟩

/-- Repeated rows cannot be dropped before a join: its keys are equal in other capitals too, and
only the left one is kept. -/
example :
    let left : Table := ⟨["k"], [["A"]]⟩
    let right : Table := ⟨["k", "r"], [["a", "1"], ["A", "1"]]⟩
    left.distinct.join right.distinct "k" ≠
      (left.join right "k").map Table.distinct := by
  decide +kernel

end CaseScript.Table
