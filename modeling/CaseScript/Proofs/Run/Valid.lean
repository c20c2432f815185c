import CaseScript.Proofs.Table.Bounds
import CaseScript.Proofs.World

/-!
# Runs keep tables valid

Whatever a program does, every table that a run holds or hands to its host is valid, as long as the
tables at its start and those that the host gives are.  So no operation of the run asks a row or a
header for a place that it does not have.

There are three groups.

* States.  `RunState.Valid`, and `RunState.Valid.edit` for one edit.
* Bounds.  `Checked.edit` and `RunState.Valid.inBounds`.
* Runs.  `Action.apply_ensures` for one action, `Program.valid_runFrom` for a program, and
  `Program.execute_keeps_valid`, the result.
-/

namespace CaseScript

variable {σ : Type}

/-! ## States -/

/-- The table is the active one or a stored one. -/
def RunState.Holds (state : RunState) (table : Table) : Prop :=
  table = state.active ∨ ∃ name, state.scopes.get? name = some table

/-- Every table of the state is valid. -/
def RunState.Valid (state : RunState) : Prop := ∀ table, state.Holds table → table.Valid

theorem RunState.Valid.active {state : RunState} (h : state.Valid) : state.active.Valid :=
  h state.active (.inl rfl)

theorem RunState.Valid.get {state : RunState} {name : String} {table : Table} (h : state.Valid)
    (hget : state.scopes.get name = .ok table) : table.Valid :=
  h table (.inr ⟨name, Scopes.get_eq_ok_iff.1 hget⟩)

theorem RunState.valid_empty : RunState.empty.Valid := by
  rintro table (rfl | ⟨name, hget⟩)
  · exact Table.valid_blank
  · simp [empty, Scopes.empty, Scopes.get?] at hget

/-- A valid table may take the place of the active one. -/
theorem RunState.Valid.withActive {state : RunState} {table : Table} (h : state.Valid)
    (htable : table.Valid) : RunState.Valid { state with active := table } := by
  rintro other (rfl | hstored)
  · exact htable
  · exact h other (.inr hstored)

/-- What is stored after an edit was stored or active before it. -/
theorem Action.holds_of_stored [RegexLibrary] {action : Action} {state next : RunState}
    {name : String} {table : Table} (h : action.edit state = .ok next)
    (hget : next.scopes.get? name = some table) : state.Holds table := by
  rcases Action.scopes_edit h with ⟨-, hscopes⟩ | ⟨target, stored, -, hstored, hscopes⟩
  · rw [hscopes] at hget
    exact .inr ⟨name, hget⟩
  · rw [hscopes, Scopes.get?_insert] at hget
    split at hget
    · cases hget
      rcases hstored with rfl | ⟨source, hsource⟩
      · exact .inl rfl
      · exact .inr ⟨source, hsource⟩
    · exact .inr ⟨name, hget⟩

/-- An operation that gives a valid table may give the active one. -/
theorem RunState.valid_active_of_bind {state next : RunState} {operation : Except TableError Table}
    (htable : ∀ table, operation = .ok table → table.Valid)
    (h : (do return { state with active := ← operation }) = Except.ok next) :
    next.active.Valid := by
  obtain ⟨table, hoperation, h⟩ := except_bind_eq_ok_iff.1 h
  cases h
  exact htable table hoperation

/-- An edit makes a valid table active, or leaves the active one. -/
theorem Action.valid_active_of_edit [RegexLibrary] {action : Action} {state next : RunState}
    (h : action.edit state = .ok next) (hstate : state.Valid) : next.active.Valid := by
  have hactive := hstate.active
  cases action with
  | load | save | scope =>
    cases h
    exact hactive
  | distinct =>
    cases h
    exact hactive.distinct
  | remove column => exact RunState.valid_active_of_bind (fun _ => hactive.removeColumn) h
  | rename column name => exact RunState.valid_active_of_bind (fun _ => hactive.renameColumn) h
  | move column direction => exact RunState.valid_active_of_bind (fun _ => hactive.moveColumn) h
  | filter column operator values negate =>
    exact RunState.valid_active_of_bind (fun _ => hactive.filter) h
  | add column fill => exact RunState.valid_active_of_bind (fun _ => hactive.addColumn) h
  | copy source target =>
    obtain ⟨scopes, -, h⟩ := except_bind_eq_ok_iff.1 h
    cases h
    exact hactive
  | cross first second key =>
    obtain ⟨left, hleft, h⟩ := except_bind_eq_ok_iff.1 h
    obtain ⟨right, hright, h⟩ := except_bind_eq_ok_iff.1 h
    have hleft := hstate.get hleft
    have hright := hstate.get hright
    cases key with
    | none => exact RunState.valid_active_of_bind (fun _ => hleft.cross hright) h
    | some column => exact RunState.valid_active_of_bind (fun _ => hleft.join hright) h
  | merge name =>
    obtain ⟨stored, hstored, h⟩ := except_bind_eq_ok_iff.1 h
    exact RunState.valid_active_of_bind (fun _ => hactive.union (hstate.get hstored)) h

theorem RunState.Valid.edit [RegexLibrary] {action : Action} {state next : RunState}
    (hstate : state.Valid) (h : action.edit state = .ok next) : next.Valid := by
  rintro table (rfl | ⟨name, hget⟩)
  · exact Action.valid_active_of_edit h hstate
  · exact hstate table (Action.holds_of_stored h hget)

/-! ## Bounds -/

/-- `Action.edit` with checks. -/
def Checked.edit [RegexLibrary] (state : RunState) : Action → Except Halt RunState
  | .remove column => do return { state with active := ← removeColumn state.active column }
  | .rename column name => do
    return { state with active := ← renameColumn state.active column name }
  | .move column direction => do
    return { state with active := ← moveColumn state.active column direction }
  | .filter column operator values negate => do
    return { state with active := ← filter state.active column operator values negate }
  | .cross first second (some column) => do
    let left ← (state.scopes.get first).mapError .failed
    let right ← (state.scopes.get second).mapError .failed
    return { state with active := ← join left right column }
  | .merge name => do
    let stored ← (state.scopes.get name).mapError .failed
    return { state with active := ← union state.active stored }
  | action => (action.edit state).mapError .failed

/-- No operation on the tables of the state asks for a place out of bounds: with checks each does
what it does without. -/
structure RunState.InBounds [RegexLibrary] (state : RunState) : Prop where
  edit : ∀ action : Action, Checked.edit state action = (action.edit state).mapError .failed
  columnValues : ∀ table, state.Holds table → ∀ name,
    Checked.columnValues table name = (table.columnValues name).mapError .failed
  cell? : ∀ table, state.Holds table → ∀ row name,
    Checked.cell? table row name = .ok (table.cell? row name)

/-- Agreement on a table is agreement on the state with the table. -/
theorem agree_active {state : RunState} {checked : Except Halt Table}
    {plain : Except TableError Table} (h : checked = plain.mapError .failed) :
    (do return { state with active := ← checked } : Except Halt RunState) =
      (do return { state with active := ← plain } : Except TableError RunState).mapError
        .failed := by
  rw [h]
  cases plain <;> rfl

theorem RunState.Valid.checked_edit [RegexLibrary] {state : RunState} (h : state.Valid)
    (action : Action) :
    Checked.edit state action = (action.edit state).mapError .failed := by
  have hactive := h.active
  cases action with
  | remove column => exact agree_active (checked_removeColumn hactive)
  | rename column name => exact agree_active checked_renameColumn
  | move column direction => exact agree_active (checked_moveColumn hactive)
  | filter column operator values negate => exact agree_active (checked_filter hactive)
  | merge name =>
    exact agree_bind fun stored hstored => agree_active (checked_union (h.get hstored))
  | cross first second key =>
    cases key with
    | none => rfl
    | some column =>
      exact agree_bind fun left hleft => agree_bind fun right hright =>
        agree_active (checked_join (h.get hleft) (h.get hright))
  | load | save | distinct | scope | copy | add => rfl

theorem RunState.Valid.inBounds [RegexLibrary] {state : RunState} (h : state.Valid) :
    state.InBounds where
  edit := h.checked_edit
  columnValues table htable _ := checked_columnValues (h table htable)
  cell? table htable row _ := checked_cell? (h table htable) row

/-! ## Runs -/

section Runs

variable [RegexLibrary]
variable {host : Host σ} {inv : σ → Prop} {state : RunState} {world : σ} (settings : Settings)

/-- One action takes valid tables to valid ones, whatever it asks of the host. -/
theorem Action.apply_ensures (hhost : host.Keeps inv) (hstate : state.Valid) (action : Action) :
    (action.apply host settings state).Ensures inv RunState.Valid := by
  intro world hworld
  cases hext : action.isExternal with
  | false =>
    rw [run_apply_inside _ _ _ _ hext]
    refine ⟨hworld, fun next h => ?_⟩
    exact hstate.edit (mapError_eq_ok_iff.1 h)
  | true =>
    cases action with
    | load source =>
      obtain ⟨hkept, htable⟩ := hhost.fetch settings source world hworld
      rw [run_apply_load]
      cases hrun : (source.fetch host settings).run world with
      | mk result after =>
        rw [hrun] at hkept htable
        cases result with
        | error error => exact ⟨hkept, by simp⟩
        | ok table =>
          refine ⟨hkept, ?_⟩
          rintro _ ⟨⟩
          exact hstate.withActive (htable table rfl)
    | save path =>
      obtain ⟨hkept, -⟩ := hhost.writeTable (settings.resolve ⟨path⟩) state.active hstate.active
        world hworld
      rw [run_apply_save]
      cases hrun : (host.writeTable (settings.resolve ⟨path⟩) state.active).run world with
      | mk result after =>
        rw [hrun] at hkept
        cases result with
        | error error => exact ⟨hkept, by simp⟩
        | ok value =>
          refine ⟨hkept, ?_⟩
          rintro _ ⟨⟩
          exact hstate
    | _ => simp [isExternal] at hext

theorem Program.valid_runFrom (hhost : host.Keeps inv) (hstate : state.Valid) (hworld : inv world)
    (index : Nat) (program : Program) :
    (program.runFrom host settings index state world).state.Valid ∧
      inv (program.runFrom host settings index state world).world := by
  induction program generalizing index state world with
  | nil => exact ⟨hstate, hworld⟩
  | cons action program ih =>
    obtain ⟨hkept, hnext⟩ := action.apply_ensures settings hhost hstate world hworld
    unfold runFrom
    cases hrun : (action.apply host settings state).run world with
    | mk result after =>
      rw [hrun] at hkept hnext
      cases result with
      | error cause => exact ⟨hstate, hkept⟩
      | ok next => exact ih (hnext next rfl) hkept (index + 1)

theorem Program.valid_execute (hhost : host.Keeps inv) (hstate : state.Valid) (hworld : inv world)
    (program : Program) :
    (program.execute host settings state world).state.Valid ∧
      inv (program.execute host settings state world).world := by
  unfold execute
  dsimp only
  split
  · exact ⟨hstate, hworld⟩
  · exact Program.valid_runFrom settings hhost hstate hworld 0 program

/-- A run hands its host valid tables only, and ends in a state of valid tables; and so does every
start of it, which leaves its tables within bounds for whatever comes next. -/
theorem Program.execute_keeps_valid (hhost : host.Keeps inv) (hstate : state.Valid)
    (hworld : inv world) (program : Program) :
    (program.execute host settings state world).state.Valid ∧
    (∃ handed, (∀ table ∈ handed, table.Valid) ∧
      program.execute host.noting settings state (world, []) =
        let outcome := program.execute host settings state world
        ⟨outcome.state, (outcome.world, handed), outcome.error⟩) ∧
    ∀ done rest, program = done ++ rest →
      (runFrom host settings 0 done state world).state.Valid ∧
        (runFrom host settings 0 done state world).state.InBounds := by
  refine ⟨(valid_execute settings hhost hstate hworld program).1, ?_, ?_⟩
  · obtain ⟨handed, hrun⟩ := program.execute_noting host settings state world
    have hstart : inv (world, ([] : List Table)).1 ∧
        ∀ table ∈ (world, ([] : List Table)).2, table.Valid := ⟨hworld, by simp⟩
    obtain ⟨-, -, hhanded⟩ := valid_execute settings hhost.noting hstate hstart program
    rw [hrun] at hhanded
    exact ⟨handed, hhanded, hrun⟩
  · rintro done rest -
    have hvalid := (valid_runFrom settings hhost hstate hworld 0 done).1
    exact ⟨hvalid, hvalid.inBounds⟩

end Runs

/-- A table from a shelf is stored, renamed, joined with itself and saved. -/
theorem Program.execute_keeps_valid_of_shelf :
    let world : World := ⟨⟨∅, []⟩, Shelf.empty.insert ⟨"in"⟩ ⟨["a", "b"], [["1", "2"]]⟩, []⟩
    let program : Program :=
      [.load (.file "in"), .scope "s", .rename "b" "B", .cross "s" "s" (some "a"), .save "out"]
    world.Shelved ∧
      (program.execute (World.host .shelf .unavailable) {} .empty world).state.Valid := by
  intro world program
  have hworld : world.Shelved := by
    intro path table hget
    rw [Shelf.get?_insert] at hget
    split at hget
    · cases hget
      decide
    · simp [Shelf.get?, Shelf.empty] at hget
  have hservice : ∀ call table, QueryService.unavailable.answer call = .ok table → table.Valid := by
    rintro call table ⟨⟩
  have hhost := World.host_keeps .shelf hservice
  exact ⟨hworld, (Program.execute_keeps_valid {} hhost RunState.valid_empty hworld program).1⟩

end CaseScript
