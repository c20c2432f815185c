import CaseScript.Proofs.Table.Operation
import CaseScript.Run.Program

/-!
# What one action does

An action either stays inside or asks the host.  This file says once what a step of each kind does,
so that no later proof opens `Action.apply` or `Action.edit`.

There are three groups.

* Effects.  `Effect.run_bind` and the lemmas beside it run a computation over a world.
* Steps.  `Action.run_apply_load`, `Action.run_apply_save` and `Action.run_apply_inside` are the
  equations of a step, `Action.run_apply_eq_ok` and `Action.run_apply_eq_error` say what can have
  happened from how it ended, and `Action.scopes_edit` says what an edit does to the scopes.
* Settings.  `Program.runFrom_checkScopes`: only the start of a run asks whether scopes are to be
  checked.
-/

namespace CaseScript

variable {σ ε α β : Type}

/-! ## Effects -/

namespace Effect

@[simp] theorem run_pure (value : α) (world : σ) :
    ExceptT.run (pure value : Effect σ ε α) world = (.ok value, world) := rfl

theorem run_bind (first : Effect σ ε α) (next : α → Effect σ ε β) (world : σ) :
    (first >>= next).run world =
      match first.run world with
      | (.ok value, world) => (next value).run world
      | (.error error, world) => (.error error, world) := by
  rw [ExceptT.run_bind]
  change (match (first.run world) with
    | (result, world) => (match result with
      | .ok value => (next value).run
      | .error error => pure (.error error)) world) = _
  rcases first.run world with ⟨_ | _, _⟩ <;> rfl

@[simp] theorem run_adapt {ε' : Type} (effect : Effect σ ε α) (wrap : ε → ε') (world : σ) :
    (effect.adapt wrap).run world =
      ((effect.run world).1.mapError wrap, (effect.run world).2) := rfl

@[simp] theorem run_liftExcept (result : Except ε α) (world : σ) :
    ExceptT.run (liftExcept result : Effect σ ε α) world = (result, world) := by
  cases result <;> rfl

end Effect

/-! ## Steps -/

section Steps

variable [RegexLibrary]
variable (host : Host σ) (settings : Settings) (state : RunState) (world : σ)

/-- A load makes the table of its source active. -/
theorem Action.run_apply_load (source : Source) :
    ((load source).apply host settings state).run world =
      match (source.fetch host settings).run world with
      | (.ok table, world) => (.ok { state with active := table }, world)
      | (.error error, world) => (.error (.source error), world) := by
  rw [apply, Effect.run_bind, Effect.run_adapt]
  rcases (source.fetch host settings).run world with ⟨_ | _, _⟩ <;> rfl

/-- A save hands the active table to the host and changes no table. -/
theorem Action.run_apply_save (path : String) :
    ((save path).apply host settings state).run world =
      match (host.writeTable (settings.resolve ⟨path⟩) state.active).run world with
      | (.ok _, world) => (.ok state, world)
      | (.error error, world) => (.error (.source error), world) := by
  rw [apply, Effect.run_bind, Effect.run_adapt]
  rcases (host.writeTable (settings.resolve ⟨path⟩) state.active).run world with ⟨_ | _, _⟩ <;> rfl

/-- Every other action edits the tables and leaves the world alone. -/
theorem Action.run_apply_inside {action : Action} (h : action.isExternal = false) :
    (action.apply host settings state).run world =
      ((action.edit state).mapError .table, world) := by
  cases action with
  | load | save => simp [isExternal] at h
  | _ => rw [apply, Effect.run_liftExcept] <;> simp

end Steps

section Endings

variable [RegexLibrary]
variable {host : Host σ} {settings : Settings} {state next : RunState} {world after : σ}
  {action : Action}

/-- The three ways in which a step succeeds. -/
theorem Action.run_apply_eq_ok
    (h : (action.apply host settings state).run world = (.ok next, after)) :
    (∃ source table, action = .load source ∧
        (source.fetch host settings).run world = (.ok table, after) ∧
        next = { state with active := table }) ∨
      (∃ path value, action = .save path ∧
        (host.writeTable (settings.resolve ⟨path⟩) state.active).run world = (.ok value, after) ∧
        next = state) ∨
      action.isExternal = false ∧ action.edit state = .ok next ∧ after = world := by
  cases hext : action.isExternal with
  | false =>
    rw [run_apply_inside host settings state world hext] at h
    cases he : action.edit state with
    | error error =>
      rw [he] at h
      cases h
    | ok edited =>
      rw [he] at h
      cases h
      exact .inr (.inr ⟨rfl, rfl, rfl⟩)
  | true =>
    cases action with
    | load source =>
      rw [run_apply_load] at h
      split at h
      · rename_i table after' hfetch
        cases h
        exact .inl ⟨source, table, rfl, hfetch, rfl⟩
      · cases h
    | save path =>
      rw [run_apply_save] at h
      split at h
      · rename_i value after' hwrite
        cases h
        exact .inr (.inl ⟨path, value, rfl, hwrite, rfl⟩)
      · cases h
    | _ => simp [isExternal] at hext

/-- A step fails outside with an error of the host, or inside with an error of the tables. -/
theorem Action.run_apply_eq_error {cause : StepError}
    (h : (action.apply host settings state).run world = (.error cause, after)) :
    (action.isExternal = true ∧ ∃ error, cause = .source error) ∨
      action.isExternal = false ∧ after = world ∧
        ∃ error, cause = .table error ∧ action.edit state = .error error := by
  cases hext : action.isExternal with
  | false =>
    rw [run_apply_inside host settings state world hext] at h
    cases he : action.edit state with
    | ok edited =>
      rw [he] at h
      cases h
    | error error =>
      rw [he] at h
      cases h
      exact .inr ⟨rfl, rfl, error, rfl, rfl⟩
  | true =>
    cases action with
    | load source =>
      rw [run_apply_load] at h
      split at h
      · cases h
      · cases h
        exact .inl ⟨rfl, _, rfl⟩
    | save path =>
      rw [run_apply_save] at h
      split at h
      · cases h
      · cases h
        exact .inl ⟨rfl, _, rfl⟩
    | _ => simp [isExternal] at hext

end Endings

/-- An edit stores the active table or a stored one under the name that the action writes, and
leaves every other scope alone. -/
theorem Action.scopes_edit [RegexLibrary] {action : Action} {state next : RunState}
    (h : action.edit state = .ok next) :
    action.scopeWrite = none ∧ next.scopes = state.scopes ∨
      ∃ name table, action.scopeWrite = some name ∧
        (table = state.active ∨ ∃ source, state.scopes.get? source = some table) ∧
        next.scopes = state.scopes.insert name table := by
  cases action with
  | load | save | distinct =>
    cases h
    exact .inl ⟨rfl, rfl⟩
  | scope name =>
    cases h
    exact .inr ⟨name, state.active, rfl, .inl rfl, rfl⟩
  | copy source target =>
    obtain ⟨scopes, hcopy, h⟩ := except_bind_eq_ok_iff.1 h
    obtain ⟨table, hget, hscopes⟩ := except_bind_eq_ok_iff.1 hcopy
    cases h
    cases hscopes
    exact .inr ⟨target, table, rfl, .inr ⟨source, Scopes.get_eq_ok_iff.1 hget⟩, rfl⟩
  | cross first second key =>
    obtain ⟨left, -, h⟩ := except_bind_eq_ok_iff.1 h
    obtain ⟨right, -, h⟩ := except_bind_eq_ok_iff.1 h
    cases key with
    | none | some =>
      obtain ⟨table, -, h⟩ := except_bind_eq_ok_iff.1 h
      cases h
      exact .inl ⟨rfl, rfl⟩
  | merge name =>
    obtain ⟨stored, -, h⟩ := except_bind_eq_ok_iff.1 h
    obtain ⟨table, -, h⟩ := except_bind_eq_ok_iff.1 h
    cases h
    exact .inl ⟨rfl, rfl⟩
  | remove | rename | move | filter | add =>
    obtain ⟨table, -, h⟩ := except_bind_eq_ok_iff.1 h
    cases h
    exact .inl ⟨rfl, rfl⟩

/-! ## Settings -/

/-- A step does not ask whether scopes are to be checked. -/
theorem Action.apply_checkScopes [RegexLibrary] (host : Host σ) (settings : Settings)
    (check : Bool) (state : RunState) (action : Action) :
    action.apply host { settings with checkScopes := check } state =
      action.apply host settings state := by
  cases action with
  | load source => cases source <;> rfl
  | _ => rfl

/-- Once it has started, a run does not ask whether scopes are to be checked. -/
theorem Program.runFrom_checkScopes [RegexLibrary] (host : Host σ) (settings : Settings)
    (check : Bool) (index : Nat) (program : Program) (state : RunState) (world : σ) :
    runFrom host { settings with checkScopes := check } index program state world =
      runFrom host settings index program state world := by
  induction program generalizing index state world with
  | nil => rfl
  | cons action program ih =>
    rw [runFrom, runFrom, Action.apply_checkScopes]
    rcases (action.apply host settings state).run world with ⟨_ | next, after⟩
    · rfl
    · exact ih (index + 1) next after

end CaseScript
