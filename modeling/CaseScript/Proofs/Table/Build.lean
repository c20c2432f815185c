import CaseScript.Proofs.Table.Operation

/-!
# Tables that are built

Columns are appended one by one, each checked against the columns before it, and then the rows, each
checked against the header.  This file says what comes of all the checks together.

* `FirstRepeat` and `FirstMisfit` name the column and the row at which building stops.
* `foldlM_eq_error_iff`: a sequence of steps fails where one step fails behind others that succeed.
* `withColumns_eq_error_iff` for the columns, `foldlM_pushRow_eq_ok_iff` and
  `foldlM_pushRow_eq_error_iff` for the rows.
* `ofRows_eq_ok_iff`: columns and rows are put together when they make a valid table.
  `ofRows_decides` adds what is reported otherwise.
-/

namespace CaseScript.Table

/-- The name is the first one that goes by the name of an earlier one. -/
def FirstRepeat (names : List String) (name : String) : Prop :=
  ∃ before after, names = before ++ name :: after ∧ (before.map Text.lower).Nodup ∧
    Text.lower name ∈ before.map Text.lower

/-- The row at a place is the first one of another width. -/
def FirstMisfit (width : Nat) (rows : List (List String)) (place : Nat) (row : List String) :
    Prop :=
  ∃ before after, rows = before ++ row :: after ∧ before.length = place ∧
    (∀ other ∈ before, other.length = width) ∧ row.length ≠ width

variable {table result : Table} {name : String} {names row : List String}
  {rows : List (List String)} {error : TableError}

/-! ## Steps -/

/-- A sequence of steps fails where one of them fails and those before it succeed. -/
theorem foldlM_eq_error_iff {ε α β : Type} {step : β → α → Except ε β} {xs : List α} {start : β}
    {error : ε} :
    xs.foldlM step start = .error error ↔
      ∃ before x after reached, xs = before ++ x :: after ∧
        before.foldlM step start = .ok reached ∧ step reached x = .error error := by
  induction xs generalizing start with
  | nil => simp [pure, Except.pure]
  | cons x xs ih =>
    rw [List.foldlM_cons]
    cases hstep : step start x with
    | error other =>
      show Except.error other = .error error ↔ _
      constructor
      · intro h
        exact ⟨[], x, xs, start, rfl, rfl, by rw [hstep, h]⟩
      · rintro ⟨before, y, after, reached, hxs, hbefore, hfail⟩
        cases before with
        | nil =>
          obtain ⟨rfl, -⟩ := List.cons.inj hxs
          cases hbefore
          exact hstep.symm.trans hfail
        | cons first before =>
          obtain ⟨rfl, -⟩ := List.cons.inj hxs
          rw [List.foldlM_cons, hstep] at hbefore
          cases hbefore
    | ok next =>
      show xs.foldlM step next = .error error ↔ _
      rw [ih]
      constructor
      · rintro ⟨before, y, after, reached, rfl, hbefore, hfail⟩
        refine ⟨x :: before, y, after, reached, rfl, ?_, hfail⟩
        rw [List.foldlM_cons, hstep]
        exact hbefore
      · rintro ⟨before, y, after, reached, hxs, hbefore, hfail⟩
        cases before with
        | nil =>
          obtain ⟨rfl, -⟩ := List.cons.inj hxs
          cases hbefore
          rw [hstep] at hfail
          cases hfail
        | cons first before =>
          obtain ⟨rfl, rfl⟩ := List.cons.inj hxs
          rw [List.foldlM_cons, hstep] at hbefore
          exact ⟨before, y, after, reached, rfl, hbefore, hfail⟩

theorem pushColumn_eq_error_iff :
    table.pushColumn name = .error error ↔
      Text.lower name ∈ table.columns.map Text.lower ∧ error = .columnAlreadyExists name := by
  rw [← Classical.not_not (a := Text.lower name ∈ _), ← position?_eq_none_iff, pushColumn]
  cases table.position? name with
  | none => simp
  | some index => simp [eq_comm]

theorem pushRow_eq_error_iff :
    table.pushRow row = .error error ↔
      row.length ≠ table.columns.length ∧
        error = .rowWidthMismatch table.rows.length table.columns.length row.length := by
  by_cases h : row.length = table.columns.length
  · rw [pushRow, if_pos (beq_iff_eq.2 h)]
    simp [h]
  · rw [pushRow, if_neg (by simpa using h), Except.error.injEq, eq_comm, and_iff_right h]

/-! ## Columns -/

theorem withColumns_eq_error_iff :
    withColumns names = .error error ↔
      ∃ name, FirstRepeat names name ∧ error = .columnAlreadyExists name := by
  rw [withColumns, foldlM_eq_error_iff]
  constructor
  · rintro ⟨before, name, after, reached, hnames, hbefore, hfail⟩
    obtain ⟨hdistinct, rfl⟩ := withColumns_eq_ok_iff.1 hbefore
    obtain ⟨hrepeated, rfl⟩ := pushColumn_eq_error_iff.1 hfail
    exact ⟨name, ⟨before, after, hnames, hdistinct, hrepeated⟩, rfl⟩
  · rintro ⟨name, ⟨before, after, hnames, hdistinct, hrepeated⟩, rfl⟩
    exact ⟨before, name, after, ⟨before, []⟩, hnames, withColumns_eq_ok_iff.2 ⟨hdistinct, rfl⟩,
      pushColumn_eq_error_iff.2 ⟨hrepeated, rfl⟩⟩

theorem exists_withColumns_eq_error_iff :
    (∃ error, withColumns names = .error error) ↔ ¬ (names.map Text.lower).Nodup := by
  cases hnames : withColumns names with
  | error error =>
    refine iff_of_true ⟨error, rfl⟩ fun hdistinct => ?_
    rw [withColumns_eq_ok_iff.2 ⟨hdistinct, rfl⟩] at hnames
    cases hnames
  | ok table =>
    refine iff_of_false nofun (not_not_intro ?_)
    exact (withColumns_eq_ok_iff.1 hnames).1

/-! ## Rows -/

theorem foldlM_pushRow_eq_ok_iff :
    rows.foldlM pushRow table = .ok result ↔
      (∀ row ∈ rows, row.length = table.columns.length) ∧
        result = ⟨table.columns, table.rows ++ rows⟩ := by
  induction rows generalizing table with
  | nil => simp [pure, Except.pure, eq_comm]
  | cons row rows ih =>
    rw [List.foldlM_cons, except_bind_eq_ok_iff, List.forall_mem_cons]
    by_cases hwidth : row.length = table.columns.length
    · simp [pushRow, hwidth, ih]
    · simp [pushRow, hwidth]

/-- Rows are counted from the first one in the table on. -/
theorem foldlM_pushRow_eq_error_iff :
    rows.foldlM pushRow table = .error error ↔
      ∃ place row, FirstMisfit table.columns.length rows place row ∧
        error = .rowWidthMismatch (table.rows.length + place) table.columns.length row.length := by
  rw [foldlM_eq_error_iff]
  constructor
  · rintro ⟨before, row, after, reached, hrows, hbefore, hfail⟩
    obtain ⟨hwidths, rfl⟩ := foldlM_pushRow_eq_ok_iff.1 hbefore
    obtain ⟨hwidth, rfl⟩ := pushRow_eq_error_iff.1 hfail
    refine ⟨before.length, row, ⟨before, after, hrows, rfl, hwidths, hwidth⟩, ?_⟩
    rw [List.length_append]
  · rintro ⟨_, row, ⟨before, after, hrows, rfl, hwidths, hwidth⟩, rfl⟩
    refine ⟨before, row, after, ⟨table.columns, table.rows ++ before⟩, hrows,
      foldlM_pushRow_eq_ok_iff.2 ⟨hwidths, rfl⟩, pushRow_eq_error_iff.2 ⟨hwidth, ?_⟩⟩
    rw [List.length_append]

/-! ## Columns and rows -/

/-- Columns and rows are put together when they make a valid table. -/
theorem ofRows_eq_ok_iff :
    ofRows names rows = .ok table ↔ table = ⟨names, rows⟩ ∧ table.Valid := by
  simp only [ofRows, except_bind_eq_ok_iff, withColumns_eq_ok_iff, foldlM_pushRow_eq_ok_iff]
  constructor
  · rintro ⟨header, ⟨hnames, rfl⟩, hwidths, rfl⟩
    exact ⟨rfl, hnames, hwidths⟩
  · rintro ⟨rfl, hvalid⟩
    exact ⟨_, ⟨hvalid.distinctNames, rfl⟩, hvalid.rowWidths, rfl⟩

/-- A fault of the columns comes before every fault of the rows. -/
theorem ofRows_eq_error_iff :
    ofRows names rows = .error error ↔
      withColumns names = .error error ∨
        withColumns names = .ok ⟨names, []⟩ ∧
          rows.foldlM pushRow ⟨names, []⟩ = .error error := by
  unfold ofRows
  cases hnames : withColumns names with
  | error other =>
    show Except.error other = .error error ↔ _
    simp
  | ok header =>
    obtain ⟨-, rfl⟩ := withColumns_eq_ok_iff.1 hnames
    show rows.foldlM pushRow _ = .error error ↔ _
    simp

/-- Columns and rows make a table exactly when no two names are the same and every row has one cell
for each of them.  Otherwise the first repeated name is reported as it is spelled, or the first row
of another width where the names are distinct. -/
theorem ofRows_decides (names : List String) (rows : List (List String)) :
    (∀ table, ofRows names rows = .ok table ↔
      (names.map Text.lower).Nodup ∧ (∀ row ∈ rows, row.length = names.length) ∧
        table = ⟨names, rows⟩) ∧
    ∀ error, ofRows names rows = .error error ↔
      (∃ name, FirstRepeat names name ∧ error = .columnAlreadyExists name) ∨
      (names.map Text.lower).Nodup ∧ ∃ place row, FirstMisfit names.length rows place row ∧
        error = .rowWidthMismatch place names.length row.length := by
  constructor
  · intro table
    rw [ofRows_eq_ok_iff]
    constructor
    · rintro ⟨rfl, hvalid⟩
      exact ⟨hvalid.distinctNames, hvalid.rowWidths, rfl⟩
    · rintro ⟨hnames, hwidths, rfl⟩
      exact ⟨rfl, hnames, hwidths⟩
  · intro error
    have hdistinct : withColumns names = .ok ⟨names, []⟩ ↔ (names.map Text.lower).Nodup := by
      rw [withColumns_eq_ok_iff, and_iff_left rfl]
    rw [ofRows_eq_error_iff, withColumns_eq_error_iff, hdistinct, foldlM_pushRow_eq_error_iff]
    simp only [List.length_nil, Nat.zero_add]

/-- The names are at fault here as well as a row; of the names the third one is the first to repeat
another. -/
example : ofRows ["a", "b", "A", "B"] [["1"]] = .error (.columnAlreadyExists "A") := by
  rfl

end CaseScript.Table
