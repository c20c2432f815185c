import CaseScript.Table.Columns
import CaseScript.Table.Combine
import CaseScript.Table.Filter

/-!
# Operations that succeed

For each operation on tables one lemma says when it succeeds and what it then gives.  Later proofs
cite these lemmas and never open an operation.

* New tables: `withColumns_eq_ok_iff`.
* Columns: `removeColumn_eq_ok_iff`, `renameColumn_eq_ok_iff`, `moveColumn_eq_ok_iff` and
  `addColumn_eq_ok_iff`.
* Rows: `filter_eq_ok_iff`.
* Two tables: `cross_eq_ok_iff`, `join_eq_ok_iff` and `union_eq_ok_iff`.
-/

namespace CaseScript

theorem except_bind_eq_ok_iff {ε α β : Type} {first : Except ε α} {next : α → Except ε β}
    {result : β} :
    (first >>= next) = .ok result ↔ ∃ value, first = .ok value ∧ next value = .ok result := by
  cases first with
  | error error => simp [bind, Except.bind]
  | ok value => simp [bind, Except.bind]

theorem mapError_eq_ok_iff {ε ε' α : Type} {f : ε → ε'} {x : Except ε α} {value : α} :
    x.mapError f = .ok value ↔ x = .ok value := by
  cases x with
  | error error => exact ⟨nofun, nofun⟩
  | ok found =>
    change Except.ok found = Except.ok value ↔ Except.ok found = Except.ok value
    rw [Except.ok.injEq, Except.ok.injEq]

theorem mapM_eq_some_iff {α β : Type} {f : α → Option β} {xs : List α} {ys : List β} :
    xs.mapM f = some ys ↔ xs.map f = ys.map some := by
  induction xs generalizing ys with
  | nil => cases ys <;> simp
  | cons x xs ih =>
    rw [List.mapM_cons]
    simp only [bind, Option.bind_eq_some_iff, pure, Option.some.injEq, ih, List.map_cons]
    constructor
    · intro h
      rcases h with ⟨y, hy, rest, hrest, rfl⟩
      rw [hy, hrest, List.map_cons]
    · intro h
      cases ys with
      | nil => cases h
      | cons y ys =>
        obtain ⟨hy, hys⟩ := List.cons.inj h
        exact ⟨y, hy, ys, hys, rfl⟩

namespace Table

variable {table left right other result : Table} {name column : String}

theorem require_eq_ok_iff {index : Nat} :
    table.require name = .ok index ↔ table.position? name = some index := by
  unfold require
  cases table.position? name <;> simp

theorem position?_eq_none_iff :
    table.position? name = none ↔ Text.lower name ∉ table.columns.map Text.lower := by
  rw [position?, List.findIdx?_eq_none_iff, List.mem_map]
  simp [sameName]

/-! ## New tables -/

theorem pushColumn_eq_ok_iff :
    table.pushColumn name = .ok result ↔
      Text.lower name ∉ table.columns.map Text.lower ∧
        result = ⟨table.columns ++ [name], table.rows⟩ := by
  rw [← position?_eq_none_iff, pushColumn]
  cases table.position? name with
  | none => simp [eq_comm]
  | some index => simp

theorem nodup_append_singleton_iff {names : List String} :
    ((names ++ [name]).map Text.lower).Nodup ↔
      Text.lower name ∉ names.map Text.lower ∧ (names.map Text.lower).Nodup := by
  rw [List.map_append, List.map_singleton, List.nodup_append]
  constructor
  · intro h
    rcases h with ⟨hnames, -, hne⟩
    exact ⟨fun hmem => hne _ hmem _ (by simp) rfl, hnames⟩
  · intro h
    rcases h with ⟨hnew, hnames⟩
    refine ⟨hnames, by simp, ?_⟩
    rintro taken hmem _ hname rfl
    rw [List.mem_singleton] at hname
    exact hnew (hname ▸ hmem)

/-- Columns are appended in order, each with a name that is new. -/
theorem foldlM_pushColumn_eq_ok_iff {names : List String}
    (htable : (table.columns.map Text.lower).Nodup) :
    names.foldlM pushColumn table = .ok result ↔
      ((table.columns ++ names).map Text.lower).Nodup ∧
        result = ⟨table.columns ++ names, table.rows⟩ := by
  induction names generalizing table with
  | nil => simpa [pure, Except.pure, eq_comm] using fun _ => htable
  | cons name names ih =>
    have hnames : table.columns ++ name :: names = table.columns ++ [name] ++ names := by simp
    rw [List.foldlM_cons, except_bind_eq_ok_iff, hnames]
    constructor
    · intro h
      rcases h with ⟨grown, hpush, hrest⟩
      obtain ⟨hnew, rfl⟩ := pushColumn_eq_ok_iff.1 hpush
      exact (ih (nodup_append_singleton_iff.2 ⟨hnew, htable⟩)).1 hrest
    · intro h
      rcases h with ⟨hnodup, rfl⟩
      have hgrown : ((table.columns ++ [name]).map Text.lower).Nodup := by
        refine List.Sublist.nodup ?_ hnodup
        exact (List.sublist_append_left _ _).map Text.lower
      refine ⟨⟨table.columns ++ [name], table.rows⟩, ?_, (ih hgrown).2 ⟨hnodup, rfl⟩⟩
      exact pushColumn_eq_ok_iff.2 ⟨(nodup_append_singleton_iff.1 hgrown).1, rfl⟩

theorem withColumns_eq_ok_iff {names : List String} :
    withColumns names = .ok result ↔ (names.map Text.lower).Nodup ∧ result = ⟨names, []⟩ := by
  have hblank : (blank.columns.map Text.lower).Nodup := List.nodup_nil
  exact foldlM_pushColumn_eq_ok_iff hblank

/-! ## Columns -/

theorem removeColumn_eq_ok_iff :
    table.removeColumn name = .ok result ↔
      ∃ index, table.position? name = some index ∧
        result = ⟨table.columns.eraseIdx index, table.rows.map (·.eraseIdx index)⟩ := by
  simp only [removeColumn, except_bind_eq_ok_iff, require_eq_ok_iff, pure, Except.pure,
    Except.ok.injEq, eq_comm (b := result)]

/-- A column may take a name that no other column has. -/
theorem renameColumn_eq_ok_iff :
    table.renameColumn column name = .ok result ↔
      ∃ index, table.position? column = some index ∧
        (∀ taken, table.position? name = some taken → taken = index) ∧
        result = ⟨table.columns.set index name, table.rows⟩ := by
  simp only [renameColumn, except_bind_eq_ok_iff, require_eq_ok_iff]
  refine exists_congr fun index => and_congr_right fun _ => ?_
  cases table.position? name with
  | none => simp [pure, Except.pure, eq_comm]
  | some taken =>
    by_cases h : taken = index
    · simp [h, pure, Except.pure, eq_comm]
    · simp [h]

theorem moveColumn_eq_ok_iff {direction : Direction} :
    table.moveColumn name direction = .ok result ↔
      ∃ index, table.position? name = some index ∧
        result = match table.neighbour? index direction with
          | none => table
          | some target =>
            ⟨exchange table.columns index target, table.rows.map (exchange · index target)⟩ := by
  simp only [moveColumn, except_bind_eq_ok_iff, require_eq_ok_iff]
  refine exists_congr fun index => and_congr_right fun _ => ?_
  cases table.neighbour? index direction with
  | none => simp [pure, Except.pure, eq_comm]
  | some target => simp [pure, Except.pure, eq_comm]

theorem addColumn_eq_ok_iff {fill : Option String} :
    table.addColumn name fill = .ok result ↔
      table.position? name = none ∧
        result = ⟨table.columns ++ [name], table.rows.map (· ++ [fill.getD ""])⟩ := by
  unfold addColumn
  cases table.position? name with
  | none => simp [eq_comm]
  | some index => simp

/-! ## Rows -/

theorem filter_eq_ok_iff [RegexLibrary] {operator : Operator} {values : List String}
    {negate : Bool} :
    table.filter column operator values negate = .ok result ↔
      ∃ index matchers, table.position? column = some index ∧
        values.mapM (Matcher.ofValue operator) = .ok matchers ∧
        result = ⟨table.columns, table.rows.filter fun row =>
          matchers.any (Matcher.accepts (row.getD index "")) != negate⟩ := by
  simp only [filter, except_bind_eq_ok_iff, require_eq_ok_iff, pure, Except.pure,
    Except.ok.injEq, eq_comm (b := result)]
  constructor
  · intro h
    rcases h with ⟨index, hi, matchers, hm, h⟩
    exact ⟨index, matchers, hi, hm, h⟩
  · intro h
    rcases h with ⟨index, matchers, hi, hm, h⟩
    exact ⟨index, hi, matchers, hm, h⟩

/-! ## Two tables -/

theorem checkCollisions_eq_ok_iff {passOver : Option Nat} {value : Unit} :
    left.checkCollisions right passOver = .ok value ↔ left.collision? right passOver = none := by
  unfold checkCollisions
  cases left.collision? right passOver <;> simp

theorem cross_eq_ok_iff :
    left.cross right = .ok result ↔
      left.collision? right none = none ∧
        result = ⟨left.columns ++ right.columns,
          left.rows.flatMap fun l => right.rows.map fun r => l ++ r⟩ := by
  simp only [cross, except_bind_eq_ok_iff, checkCollisions_eq_ok_iff, pure, Except.pure,
    Except.ok.injEq, exists_const, eq_comm (b := result)]

theorem RowIndex.rows_push (key : Nat) (index : RowIndex) (row : List String) (name : String) :
    (push key index row).rows name =
      index.rows name ++ [row].filter fun row => Text.lower (row.getD key "") == name := by
  unfold push rows
  rw [Std.ExtTreeMap.getD_insert]
  by_cases h : Text.lower (row.getD key "") = name
  · rw [if_pos (Std.LawfulEqCmp.compare_eq_iff_eq.2 h), List.filter_cons_of_pos (by simpa using h),
      List.filter_nil, h]
  · rw [if_neg (mt Std.LawfulEqCmp.compare_eq_iff_eq.1 h),
      List.filter_cons_of_neg (by simpa using h), List.filter_nil, List.append_nil]

/-- The index gives the rows with a key in their order. -/
theorem RowIndex.rows_ofRows (key : Nat) (rows : List (List String)) (name : String) :
    (ofRows key rows).rows name = rows.filter fun row => Text.lower (row.getD key "") == name := by
  have hfold : ∀ index : RowIndex, (rows.foldl (push key) index).rows name =
      index.rows name ++ rows.filter fun row => Text.lower (row.getD key "") == name := by
    induction rows with
    | nil => simp
    | cons row rows ih =>
      intro index
      rw [List.foldl_cons, ih, rows_push, List.append_assoc, ← List.filter_append,
        List.singleton_append]
  rw [ofRows, hfold, RowIndex.rows, Std.ExtTreeMap.getD_empty, List.nil_append]

theorem join_eq_ok_iff :
    left.join right column = .ok result ↔
      ∃ leftKey rightKey, left.position? column = some leftKey ∧
        right.position? column = some rightKey ∧
        left.collision? right (some rightKey) = none ∧
        result = ⟨left.columns ++ right.columns.eraseIdx rightKey,
          left.rows.flatMap fun l =>
            ((RowIndex.ofRows rightKey right.rows).rows
              (Text.lower (l.getD leftKey ""))).map fun r => l ++ r.eraseIdx rightKey⟩ := by
  simp only [join, except_bind_eq_ok_iff, require_eq_ok_iff, checkCollisions_eq_ok_iff, pure,
    Except.pure, Except.ok.injEq, eq_comm (b := result)]
  constructor
  · intro h
    rcases h with ⟨leftKey, hl, rightKey, hr, _, hc, h⟩
    exact ⟨leftKey, rightKey, hl, hr, hc, h⟩
  · intro h
    rcases h with ⟨leftKey, rightKey, hl, hr, hc, h⟩
    exact ⟨leftKey, hl, rightKey, hr, (), hc, h⟩

/-- A blank table takes over the other one; otherwise both have as many columns, and each column of
the first has its place in the second. -/
theorem union_eq_ok_iff :
    table.union other = .ok result ↔
      table.isBlank = true ∧ result = other ∨
      table.isBlank = false ∧ table.columns.length = other.columns.length ∧
        ∃ places, table.columns.mapM other.position? = some places ∧
          result = ⟨table.columns,
            table.rows ++ other.rows.map fun row => places.map fun place => row.getD place ""⟩ := by
  unfold union
  cases table.isBlank with
  | true => simp [eq_comm]
  | false =>
    by_cases hlen : table.columns.length = other.columns.length
    · cases table.columns.mapM other.position? with
      | none => simp [hlen]
      | some places => simp [hlen, eq_comm]
    · simp [hlen]

end Table

end CaseScript
