import CaseScript.Proofs.Run.Compose

/-!
# Runs in place

`Action.apply` gives a new state or none.  Here an action changes the tables of a run in place, one
assignment at a time, and a failure undoes no assignment that was made before it.  Both come to the
same, because every action makes its assignment last, after everything that can fail.

There are two groups.

* Actions.  `Action.perform` is one action in place, and `Action.run_perform` says that it does what
  `Action.apply` does and leaves the tables alone where it fails.
* Programs.  `Program.perform` is a run in place, and `Program.run_perform` says that it is the run.
-/

namespace CaseScript

variable {σ α : Type}

/-- A computation on the tables of a run and on the world.  A failure undoes no change of either. -/
abbrev InPlace (σ α : Type) := Effect (RunState × σ) StepError α

/-! ## Actions -/

namespace InPlace

/-- The tables as they are. -/
def tables : InPlace σ RunState := do
  return (← get).1

/-- Puts a table in the place of the active one. -/
def setActive (table : Table) : InPlace σ Unit :=
  modify fun place => ({ place.1 with active := table }, place.2)

/-- Stores a table under a name. -/
def store (name : String) (table : Table) : InPlace σ Unit :=
  modify fun place => ({ place.1 with scopes := place.1.scopes.insert name table }, place.2)

/-- The value of a computation on tables. -/
def value (result : Except TableError α) : InPlace σ α :=
  liftExcept (result.mapError StepError.table)

/-- The answer of the host. -/
def ask (effect : Effect σ SourceError α) : InPlace σ α :=
  ExceptT.mk fun place =>
    ((effect.run place.2).1.mapError StepError.source, (place.1, (effect.run place.2).2))

/-- Puts what an operation makes of the active table in its place. -/
def editActive (operation : Table → Except TableError Table) : InPlace σ Unit := do
  let table ← value (operation (← tables).active)
  setActive table

section Equations

variable {β : Type} (state : RunState) (world : σ)

@[simp] theorem run_tables_bind (next : RunState → InPlace σ β) :
    ExceptT.run (tables >>= next) (state, world) = (next state).run (state, world) :=
  Effect.run_bind tables next (state, world)

@[simp] theorem run_value_bind (result : Except TableError α) (next : α → InPlace σ β) :
    ExceptT.run (value result >>= next) (state, world) =
      match result with
      | .ok found => (next found).run (state, world)
      | .error error => (.error (.table error), (state, world)) := by
  rw [Effect.run_bind, value, Effect.run_liftExcept]
  cases result <;> rfl

@[simp] theorem run_ask (effect : Effect σ SourceError α) :
    ExceptT.run (ask effect : InPlace σ α) (state, world) =
      ((effect.run world).1.mapError StepError.source, (state, (effect.run world).2)) := rfl

/-- Nothing is put in the place of the active table where the operation fails. -/
theorem run_editActive (operation : Table → Except TableError Table) :
    ExceptT.run (editActive operation : InPlace σ Unit) (state, world) =
      match (do return { state with active := ← operation state.active }) with
      | .ok next => (.ok (), (next, world))
      | .error error => (.error (.table error), (state, world)) := by
  rw [editActive, run_tables_bind, run_value_bind]
  cases operation state.active <;> rfl

end Equations

end InPlace

open InPlace

/-- An action in place. -/
def Action.perform [RegexLibrary] (host : Host σ) (settings : Settings) : Action → InPlace σ Unit
  | load source => do
    let table ← ask (source.fetch host settings)
    setActive table
  | remove column => editActive fun table => table.removeColumn column
  | rename column name => editActive fun table => table.renameColumn column name
  | move column direction => editActive fun table => table.moveColumn column direction
  | filter column operator values negate =>
    editActive fun table => table.filter column operator values negate
  | distinct => do setActive (← tables).active.distinct
  | scope name => do store name (← tables).active
  | cross first second key => do
    let left ← value ((← tables).scopes.get first)
    let right ← value ((← tables).scopes.get second)
    match key with
    | none => editActive fun _ => left.cross right
    | some column => editActive fun _ => left.join right column
  | save path => do ask (host.writeTable (settings.resolve ⟨path⟩) (← tables).active)
  | copy source target => do
    let table ← value ((← tables).scopes.get source)
    store target table
  | add column fill => editActive fun table => table.addColumn column fill
  | merge name => do
    let stored ← value ((← tables).scopes.get name)
    editActive fun table => table.union stored

section Steps

variable [RegexLibrary]
variable (host : Host σ) (settings : Settings) (state : RunState) (world : σ)

/-- What stays inside ends in place as the edit of the state says. -/
theorem Action.run_perform_inside {action : Action} (h : action.isExternal = false) :
    (action.perform host settings).run (state, world) =
      match action.edit state with
      | .ok next => (.ok (), (next, world))
      | .error error => (.error (.table error), (state, world)) := by
  cases action with
  | load | save => cases h
  | distinct | scope => rfl
  | remove column => exact run_editActive state world fun table => table.removeColumn column
  | rename column name =>
    exact run_editActive state world fun table => table.renameColumn column name
  | move column direction =>
    exact run_editActive state world fun table => table.moveColumn column direction
  | filter column operator values negate =>
    exact run_editActive state world fun table => table.filter column operator values negate
  | add column fill => exact run_editActive state world fun table => table.addColumn column fill
  | copy source target =>
    rw [perform, edit, Scopes.copy, run_tables_bind, run_value_bind]
    cases state.scopes.get source <;> rfl
  | merge name =>
    rw [perform, edit, run_tables_bind, run_value_bind]
    cases state.scopes.get name with
    | error error => rfl
    | ok stored => exact run_editActive state world fun table => table.union stored
  | cross first second key =>
    rw [perform, edit, run_tables_bind, run_value_bind]
    cases state.scopes.get first with
    | error error => rfl
    | ok left =>
      dsimp only
      rw [run_tables_bind, run_value_bind]
      cases state.scopes.get second with
      | error error => rfl
      | ok right =>
        cases key with
        | none => exact run_editActive state world fun _ => left.cross right
        | some column => exact run_editActive state world fun _ => left.join right column

/-- An action in place does what it does to a state that is passed on, and where it fails it leaves
the tables as they were. -/
theorem Action.run_perform (action : Action) :
    (action.perform host settings).run (state, world) =
      match (action.apply host settings state).run world with
      | (.ok next, after) => (.ok (), (next, after))
      | (.error cause, after) => (.error cause, (state, after)) := by
  cases hext : action.isExternal with
  | false =>
    rw [run_perform_inside host settings state world hext,
      run_apply_inside host settings state world hext]
    cases action.edit state <;> rfl
  | true =>
    cases action with
    | load source =>
      rw [run_apply_load, perform, Effect.run_bind, run_ask]
      rcases (source.fetch host settings).run world with ⟨_ | _, _⟩ <;> rfl
    | save path =>
      rw [run_apply_save, perform, run_tables_bind, run_ask]
      rcases (host.writeTable (settings.resolve ⟨path⟩) state.active).run world with
        ⟨_ | _, _⟩ <;> rfl
    | _ => cases hext

end Steps

/-! ## Programs -/

namespace Program

/-- A run in place of a program of which `index` actions have run already. -/
def performFrom [RegexLibrary] (host : Host σ) (settings : Settings) (index : Nat) :
    Program → Effect (RunState × σ) RunError Unit
  | [] => pure ()
  | action :: program => do
    (action.perform host settings).adapt (RunError.ofStep index action)
    performFrom host settings (index + 1) program

/-- A run in place. -/
def perform [RegexLibrary] (host : Host σ) (settings : Settings) (program : Program) :
    Effect (RunState × σ) RunError Unit := do
  match program.fault? settings (← get).1.scopes with
  | some fault => throw fault
  | none => program.performFrom host settings 0

end Program

/-- The end of a run as the end of a run in place. -/
def Outcome.inPlace (outcome : Outcome σ) : Except RunError Unit × (RunState × σ) :=
  (match outcome.error with
    | none => .ok ()
    | some error => .error error,
    (outcome.state, outcome.world))

section Programs

variable [RegexLibrary] (host : Host σ) (settings : Settings)

theorem Program.run_performFrom (index : Nat) (program : Program) (state : RunState) (world : σ) :
    (program.performFrom host settings index).run (state, world) =
      (program.runFrom host settings index state world).inPlace := by
  induction program generalizing index state world with
  | nil => rfl
  | cons action program ih =>
    rw [performFrom, runFrom, Effect.run_bind, Effect.run_adapt, Action.run_perform]
    rcases (action.apply host settings state).run world with ⟨cause | next, after⟩
    · rfl
    · exact ih (index + 1) next after

/-- A run in place ends where the run ends, with the tables as they are passed on. -/
theorem Program.run_perform (program : Program) (state : RunState) (world : σ) :
    (program.perform host settings).run (state, world) =
      (program.execute host settings state world).inPlace := by
  have hstart : (program.perform host settings).run (state, world) =
      ExceptT.run (match program.fault? settings state.scopes with
        | some fault => throw fault
        | none => program.performFrom host settings 0) (state, world) :=
    Effect.run_bind get _ (state, world)
  rw [hstart, execute_eq]
  cases program.fault? settings state.scopes with
  | some fault => rfl
  | none => exact run_performFrom host settings 0 program state world

end Programs

end CaseScript
