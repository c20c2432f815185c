import CaseScript.Proofs.Table.Valid

/-!
# Places within bounds

Operations take a place past the end of a list as an empty cell or as nothing to do.  The operations
of this file stop there instead, and on valid tables they never do: each gives what the operation
without checks gives.

* Lists: `Checked.get`, `Checked.erase`, `Checked.set` and `Checked.exchange` stop past the end.
* Columns: `checked_removeColumn`, `checked_renameColumn`, `checked_moveColumn`.
* Rows and cells: `checked_filter`, `checked_columnValues`, `checked_cell?`.
* Two tables: `checked_join` and `checked_union`.
-/

namespace CaseScript

/-- Why a checked operation stops. -/
inductive Halt where
  /-- A list has no element at a place. -/
  | outOfBounds
  /-- The operation fails without the checks too. -/
  | failed (error : TableError)
  deriving DecidableEq

namespace Checked

variable {α β : Type}

/-! ## Lists -/

/-- The element at a place. -/
def get (xs : List α) (index : Nat) : Except Halt α :=
  match xs[index]? with
  | some x => .ok x
  | none => .error .outOfBounds

/-- The list without the element at a place. -/
def erase (xs : List α) (index : Nat) : Except Halt (List α) :=
  if index < xs.length then .ok (xs.eraseIdx index) else .error .outOfBounds

/-- The list with another element at a place. -/
def set (xs : List α) (index : Nat) (x : α) : Except Halt (List α) :=
  if index < xs.length then .ok (xs.set index x) else .error .outOfBounds

/-- The list with the elements at two places exchanged. -/
def exchange (xs : List α) (i j : Nat) : Except Halt (List α) := do
  let a ← get xs i
  let b ← get xs j
  return (xs.set i b).set j a

variable {xs : List α} {i j : Nat}

theorem get_of_lt (h : i < xs.length) (default : α) : get xs i = .ok (xs.getD i default) := by
  rw [get, List.getElem?_eq_getElem h, List.getD_eq_getElem?_getD, List.getElem?_eq_getElem h]
  rfl

theorem erase_of_lt (h : i < xs.length) : erase xs i = .ok (xs.eraseIdx i) := if_pos h

theorem set_of_lt (h : i < xs.length) (x : α) : set xs i x = .ok (xs.set i x) := if_pos h

theorem exchange_of_lt (hi : i < xs.length) (hj : j < xs.length) :
    exchange xs i j = .ok (Table.exchange xs i j) := by
  unfold exchange Table.exchange get
  rw [List.getElem?_eq_getElem hi, List.getElem?_eq_getElem hj]
  rfl

theorem mapM_eq_ok {f : α → Except Halt β} {g : α → β} (h : ∀ x ∈ xs, f x = .ok (g x)) :
    xs.mapM f = .ok (xs.map g) := by
  induction xs with
  | nil => rfl
  | cons x xs ih =>
    obtain ⟨hx, hxs⟩ := List.forall_mem_cons.1 h
    rw [List.mapM_cons, hx, ih hxs]
    rfl

theorem flatten_map_ite (p : α → Bool) (xs : List α) :
    (xs.map fun x => if p x then [x] else []).flatten = xs.filter p := by
  induction xs with
  | nil => rfl
  | cons x xs ih => cases h : p x <;> simp [h, ih]

/-! ## Columns -/

/-- `Table.removeColumn` with checks. -/
def removeColumn (table : Table) (name : String) : Except Halt Table := do
  let index ← (table.require name).mapError .failed
  let columns ← erase table.columns index
  let rows ← table.rows.mapM (erase · index)
  return ⟨columns, rows⟩

/-- `Table.renameColumn` with checks. -/
def renameColumn (table : Table) (column name : String) : Except Halt Table := do
  let index ← (table.require column).mapError .failed
  if (table.position? name).any (· != index) then .error (.failed (.columnAlreadyExists name))
  else
    let columns ← set table.columns index name
    return ⟨columns, table.rows⟩

/-- `Table.moveColumn` with checks. -/
def moveColumn (table : Table) (name : String) (direction : Direction) : Except Halt Table := do
  let index ← (table.require name).mapError .failed
  match table.neighbour? index direction with
  | none => return table
  | some target =>
    let columns ← exchange table.columns index target
    let rows ← table.rows.mapM (exchange · index target)
    return ⟨columns, rows⟩

/-! ## Rows and cells -/

/-- The row, if the filter keeps it. -/
def filterRow (matchers : List Matcher) (negate : Bool) (index : Nat) (row : List String) :
    Except Halt (List (List String)) := do
  let cell ← get row index
  return if matchers.any (Matcher.accepts cell) != negate then [row] else []

/-- `Table.filter` with checks. -/
def filter [RegexLibrary] (table : Table) (column : String) (operator : Operator)
    (values : List String) (negate : Bool) : Except Halt Table := do
  let index ← (table.require column).mapError .failed
  let matchers ← (values.mapM (Matcher.ofValue operator)).mapError .failed
  let rows ← table.rows.mapM (filterRow matchers negate index)
  return ⟨table.columns, rows.flatten⟩

/-- `Table.columnValues` with checks. -/
def columnValues (table : Table) (name : String) : Except Halt (List String) := do
  let index ← (table.require name).mapError .failed
  table.rows.mapM (get · index)

/-- `Table.cell?` with checks. -/
def cell? (table : Table) (row : Nat) (name : String) : Except Halt (Option String) :=
  match table.position? name, table.rows[row]? with
  | some index, some cells => do return some (← get cells index)
  | _, _ => .ok none

/-! ## Two tables -/

/-- The places of the keys that are equal to a key in lower case. -/
def placesOf (keys : List String) (key : String) : List Nat :=
  (keys.zipIdx.filter fun entry => Text.lower entry.1 == Text.lower key).map (·.2)

/-- A left row beside each right row that has its key, where `keys` are the keys of the right
rows. -/
def joinRow (right : Table) (leftKey rightKey : Nat) (keys l : List String) :
    Except Halt (List (List String)) := do
  let key ← get l leftKey
  (placesOf keys key).mapM fun place => do
    let r ← get right.rows place
    return l ++ r.eraseIdx rightKey

/-- `Table.join` with checks.  Right rows are found by their places. -/
def join (left right : Table) (column : String) : Except Halt Table := do
  let leftKey ← (left.require column).mapError .failed
  let rightKey ← (right.require column).mapError .failed
  (left.checkCollisions right (some rightKey)).mapError .failed
  let keys ← right.rows.mapM (get · rightKey)
  let rows ← left.rows.mapM (joinRow right leftKey rightKey keys)
  return ⟨left.columns ++ right.columns.eraseIdx rightKey, rows.flatten⟩

/-- `Table.union` with checks. -/
def union (table other : Table) : Except Halt Table :=
  if table.isBlank then .ok other
  else
    let mismatch := TableError.schemaMismatch table.columns other.columns
    if table.columns.length != other.columns.length then .error (.failed mismatch)
    else match table.columns.mapM other.position? with
      | none => .error (.failed mismatch)
      | some places => do
        let rows ← other.rows.mapM fun row => places.mapM (get row ·)
        return ⟨table.columns, table.rows ++ rows⟩

end Checked

/-! ## No place is out of bounds -/

section Agreement

variable {table left right other : Table} {name column : String}

/-- Two computations that fail in one way agree if they agree on what follows. -/
theorem agree_bind {α β : Type} {first : Except TableError α} {checked : α → Except Halt β}
    {plain : α → Except TableError β}
    (h : ∀ value, first = .ok value → checked value = (plain value).mapError .failed) :
    (first.mapError .failed >>= checked) = (first >>= plain).mapError .failed := by
  cases first with
  | error error => rfl
  | ok value => exact h value rfl

/-- A column that is found has a cell in every row. -/
theorem Table.Valid.lt_of_require (h : table.Valid) {index : Nat}
    (hindex : table.require name = .ok index) :
    index < table.columns.length ∧ ∀ row ∈ table.rows, index < row.length := by
  have hlt := lt_of_position? (require_eq_ok_iff.1 hindex)
  refine ⟨hlt, fun row hrow => ?_⟩
  rw [h.rowWidths row hrow]
  exact hlt

theorem checked_removeColumn (h : table.Valid) :
    Checked.removeColumn table name = (table.removeColumn name).mapError .failed := by
  refine agree_bind fun index hindex => ?_
  obtain ⟨hcolumns, hrows⟩ := h.lt_of_require hindex
  have hcells : table.rows.mapM (Checked.erase · index) =
      .ok (table.rows.map (·.eraseIdx index)) :=
    Checked.mapM_eq_ok fun row hrow => Checked.erase_of_lt (hrows row hrow)
  rw [Checked.erase_of_lt hcolumns, hcells]
  rfl

theorem checked_renameColumn :
    Checked.renameColumn table column name = (table.renameColumn column name).mapError .failed := by
  refine agree_bind fun index hindex => ?_
  have hlt := Table.lt_of_position? (Table.require_eq_ok_iff.1 hindex)
  rw [Checked.set_of_lt hlt]
  split <;> rfl

theorem checked_moveColumn {direction : Direction} (h : table.Valid) :
    Checked.moveColumn table name direction =
      (table.moveColumn name direction).mapError .failed := by
  refine agree_bind fun index hindex => ?_
  obtain ⟨hcolumns, -⟩ := h.lt_of_require hindex
  cases htarget : table.neighbour? index direction with
  | none => rfl
  | some target =>
    have hlt := (Table.neighbour?_eq_some htarget hcolumns).1
    have hcells : table.rows.mapM (Checked.exchange · index target) =
        .ok (table.rows.map (Table.exchange · index target)) := by
      refine Checked.mapM_eq_ok fun row hrow => ?_
      have hwidth := h.rowWidths row hrow
      exact Checked.exchange_of_lt (by omega) (by omega)
    dsimp only
    rw [Checked.exchange_of_lt hcolumns hlt, hcells]
    rfl

theorem checked_filter [RegexLibrary] {operator : Operator} {values : List String}
    {negate : Bool} (h : table.Valid) :
    Checked.filter table column operator values negate =
      (table.filter column operator values negate).mapError .failed := by
  refine agree_bind fun index hindex => agree_bind fun matchers _ => ?_
  obtain ⟨-, hrows⟩ := h.lt_of_require hindex
  have hcells : table.rows.mapM (Checked.filterRow matchers negate index) =
      .ok (table.rows.map fun row =>
        if matchers.any (Matcher.accepts (row.getD index "")) != negate then [row] else []) := by
    refine Checked.mapM_eq_ok fun row hrow => ?_
    rw [Checked.filterRow, Checked.get_of_lt (hrows row hrow) ""]
    rfl
  rw [hcells]
  show Except.ok (Table.mk _ (List.flatten _)) = Except.ok (Table.mk _ _)
  rw [Checked.flatten_map_ite]

theorem checked_columnValues (h : table.Valid) :
    Checked.columnValues table name = (table.columnValues name).mapError .failed := by
  refine agree_bind fun index hindex => ?_
  obtain ⟨-, hrows⟩ := h.lt_of_require hindex
  exact Checked.mapM_eq_ok fun row hrow => Checked.get_of_lt (hrows row hrow) ""

theorem checked_cell? (h : table.Valid) (row : Nat) :
    Checked.cell? table row name = .ok (table.cell? row name) := by
  unfold Checked.cell? Table.cell?
  cases hindex : table.position? name with
  | none => rfl
  | some index =>
    cases hrow : table.rows[row]? with
    | none => rfl
    | some cells =>
      have hwidth := h.rowWidths cells (List.mem_of_getElem? hrow)
      have hlt := Table.lt_of_position? hindex
      dsimp only
      rw [Checked.get_of_lt (by omega) ""]
      rfl

/-! ### Two tables -/

/-- The rows at the places of a key are the rows that have it. -/
theorem mapM_placesOf {β : Type} (rows : List (List String)) (cell : List String → String)
    (key : String) (build : List String → β) :
    ((Checked.placesOf (rows.map cell) key).mapM fun place => do
      let row ← Checked.get rows place
      return build row) =
      .ok ((rows.filter fun row => Text.lower (cell row) == Text.lower key).map build) := by
  have hplaces : Checked.placesOf (rows.map cell) key =
      (rows.zipIdx.filter fun entry => Text.lower (cell entry.1) == Text.lower key).map (·.2) := by
    rw [Checked.placesOf, List.zipIdx_map, List.filter_map, List.map_map]
    rfl
  have hrows : (rows.filter fun row => Text.lower (cell row) == Text.lower key) =
      (rows.zipIdx.filter fun entry => Text.lower (cell entry.1) == Text.lower key).map (·.1) := by
    conv_lhs => rw [← List.zipIdx_map_fst 0 rows]
    rw [List.filter_map]
    rfl
  rw [hplaces, hrows, List.mapM_map, List.map_map]
  refine Checked.mapM_eq_ok fun entry hentry => ?_
  -- a place stands beside the row that it is the place of
  have hget := List.mem_zipIdx_iff_getElem?.1 (List.mem_filter.1 hentry).1
  show (do let row ← Checked.get rows entry.2; return build row : Except Halt β) = _
  rw [Checked.get, hget]
  rfl

theorem checked_join (hleft : left.Valid) (hright : right.Valid) :
    Checked.join left right column = (left.join right column).mapError .failed := by
  refine agree_bind fun leftKey hleftKey => agree_bind fun rightKey hrightKey =>
    agree_bind fun _ _ => ?_
  obtain ⟨-, hleftCells⟩ := hleft.lt_of_require hleftKey
  obtain ⟨-, hrightCells⟩ := hright.lt_of_require hrightKey
  have hkeys : right.rows.mapM (Checked.get · rightKey) =
      .ok (right.rows.map fun r => r.getD rightKey "") :=
    Checked.mapM_eq_ok fun row hrow => Checked.get_of_lt (hrightCells row hrow) ""
  have hrows : left.rows.mapM
      (Checked.joinRow right leftKey rightKey (right.rows.map fun r => r.getD rightKey "")) =
      .ok (left.rows.map fun l =>
        ((Table.RowIndex.ofRows rightKey right.rows).rows (Text.lower (l.getD leftKey ""))).map
          fun r => l ++ r.eraseIdx rightKey) := by
    refine Checked.mapM_eq_ok fun l hl => ?_
    rw [Checked.joinRow, Checked.get_of_lt (hleftCells l hl) "", Table.RowIndex.rows_ofRows]
    exact mapM_placesOf right.rows _ _ _
  rw [hkeys]
  show (left.rows.mapM (Checked.joinRow right leftKey rightKey _) >>= fun rows =>
    Except.ok (Table.mk (left.columns ++ right.columns.eraseIdx rightKey) rows.flatten)) = _
  rw [hrows]
  rfl

theorem checked_union (h : other.Valid) :
    Checked.union table other = (table.union other).mapError .failed := by
  unfold Checked.union Table.union
  split
  · rfl
  · split
    · rfl
    · cases hplaces : table.columns.mapM other.position? with
      | none => rfl
      | some places =>
        have hlt : ∀ row ∈ other.rows, ∀ place ∈ places, place < row.length := by
          intro row hrow place hplace
          obtain ⟨name, -, hname⟩ := (Table.mapM_eq_some hplaces).2 place hplace
          rw [h.rowWidths row hrow]
          exact Table.lt_of_position? hname
        have hrows : (other.rows.mapM fun row => places.mapM (Checked.get row ·)) =
            .ok (other.rows.map fun row => places.map fun place => row.getD place "") :=
          Checked.mapM_eq_ok fun row hrow => Checked.mapM_eq_ok fun place hplace =>
            Checked.get_of_lt (hlt row hrow place hplace) ""
        dsimp only
        rw [hrows]
        rfl

end Agreement

end CaseScript
