import CaseScript.Proofs.Run.Compose

/-!
# Footprints of runs

What a run does depends on the active table and on the scopes that its actions say they look up, and
it changes no scopes but those that its actions say they store.

There are four groups.

* Agreement.  `RunState.Agrees` compares two states on some names, `Alike` the ends of two steps.
* Actions.  `Action.edit_alike` and `Action.run_apply_alike`: from states that agree on what an
  action looks up it ends alike, and the states then agree on what it stores as well.
  `Action.get?_of_run_apply`: every other scope stays as it was.
* Runs.  `Program.carriedOut` gives the actions that a run carries out.  `Program.runFrom_agrees`
  and `Program.get?_runFrom` carry both facts through a run.
* The result.  `Program.execute_footprint`.
-/

namespace CaseScript

variable {σ ε α : Type}

/-! ## Agreement -/

/-- The states have the same active table and the same scopes under the names. -/
structure RunState.Agrees (names : List String) (first second : RunState) : Prop where
  active : first.active = second.active
  scopes : ∀ name ∈ names, first.scopes.get? name = second.scopes.get? name

/-- Two steps fail with the same error, or give states that agree. -/
inductive Alike (names : List String) : Except ε RunState → Except ε RunState → Prop where
  | ok {first second : RunState} : first.Agrees names second → Alike names (.ok first) (.ok second)
  | error (error : ε) : Alike names (.error error) (.error error)

namespace RunState.Agrees

variable {names : List String} {first second : RunState}

theorem get (h : first.Agrees names second) {name : String} (hname : name ∈ names) :
    first.scopes.get name = second.scopes.get name := by
  rw [Scopes.get, Scopes.get, h.scopes name hname]

theorem mono {fewer : List String} (h : first.Agrees names second)
    (hsub : ∀ name ∈ fewer, name ∈ names) : first.Agrees fewer second :=
  ⟨h.active, fun name hname => h.scopes name (hsub name hname)⟩

theorem withActive (h : first.Agrees names second) (table : Table) :
    RunState.Agrees names { first with active := table } { second with active := table } :=
  ⟨rfl, h.scopes⟩

/-- A table that both states store under a name they have in common from then on. -/
theorem insert (h : first.Agrees names second) (name : String) (table : Table) :
    RunState.Agrees (name :: names) { first with scopes := first.scopes.insert name table }
      { second with scopes := second.scopes.insert name table } := by
  refine ⟨h.active, ?_⟩
  intro other hother
  rw [Scopes.get?_insert, Scopes.get?_insert]
  split
  · rfl
  · rename_i hne
    rcases List.mem_cons.1 hother with heq | hother
    · exact absurd heq.symm hne
    · exact h.scopes other hother

end RunState.Agrees

theorem alike_bind {names : List String} {result : Except ε α} {next next' : α → Except ε RunState}
    (h : ∀ value, Alike names (next value) (next' value)) :
    Alike names (result >>= next) (result >>= next') := by
  cases result with
  | error error => exact .error error
  | ok value => exact h value

/-! ## Actions -/

section Steps

variable {names : List String} {first second : RunState}

/-- An operation on the active table looks up no scope. -/
theorem alike_active (h : first.Agrees names second)
    (operation : Table → Except TableError Table) :
    Alike names (do return { first with active := ← operation first.active })
      (do return { second with active := ← operation second.active }) := by
  rw [h.active]
  exact alike_bind fun table => .ok (h.withActive table)

/-- From states that agree on what an action looks up, the action ends alike. -/
theorem Action.edit_alike [RegexLibrary] (h : first.Agrees names second) {action : Action}
    (hreads : ∀ name ∈ action.scopeReads, name ∈ names) :
    Alike (action.scopeWrite.toList ++ names) (action.edit first) (action.edit second) := by
  cases action with
  | load | save => exact .ok h
  | remove column => exact alike_active h fun table => table.removeColumn column
  | rename column name => exact alike_active h fun table => table.renameColumn column name
  | move column direction => exact alike_active h fun table => table.moveColumn column direction
  | filter column operator values negate =>
    exact alike_active h fun table => table.filter column operator values negate
  | add column fill => exact alike_active h fun table => table.addColumn column fill
  | distinct => exact alike_active h fun table => .ok table.distinct
  | scope name =>
    have hinsert := h.insert name second.active
    rw [h.active] at hinsert
    rw [edit, edit, h.active]
    exact .ok hinsert
  | cross left right key =>
    rw [edit, edit, h.get (hreads left (by simp [scopeReads])),
      h.get (hreads right (by simp [scopeReads]))]
    refine alike_bind fun left => alike_bind fun right => ?_
    cases key with
    | none => exact alike_active h fun _ => left.cross right
    | some column => exact alike_active h fun _ => left.join right column
  | copy source target =>
    rw [edit, edit, Scopes.copy, Scopes.copy, h.get (hreads source (by simp [scopeReads]))]
    cases second.scopes.get source with
    | error error => exact .error error
    | ok table => exact .ok (h.insert target table)
  | merge name =>
    rw [edit, edit, h.get (hreads name (by simp [scopeReads]))]
    exact alike_bind fun stored => alike_active h fun table => table.union stored

theorem Alike.mapError {first second : Except ε RunState} {ε' : Type} (wrap : ε → ε')
    (h : Alike names first second) :
    Alike names (first.mapError wrap) (second.mapError wrap) := by
  cases h with
  | ok h => exact .ok h
  | error error => exact .error (wrap error)

/-- From states that agree on what an action looks up, the action does the same to the world and
ends alike, whatever it asks of the host. -/
theorem Action.run_apply_alike [RegexLibrary] (host : Host σ) (settings : Settings)
    (h : first.Agrees names second) {action : Action}
    (hreads : ∀ name ∈ action.scopeReads, name ∈ names) (world : σ) :
    ∃ result result' after, (action.apply host settings first).run world = (result, after) ∧
      (action.apply host settings second).run world = (result', after) ∧
      Alike (action.scopeWrite.toList ++ names) result result' := by
  cases hext : action.isExternal with
  | false =>
    rw [run_apply_inside _ _ _ _ hext, run_apply_inside _ _ _ _ hext]
    exact ⟨_, _, world, rfl, rfl, (edit_alike h hreads).mapError StepError.table⟩
  | true =>
    cases action with
    | load source =>
      rw [run_apply_load, run_apply_load]
      rcases (source.fetch host settings).run world with ⟨error | table, after⟩
      · exact ⟨_, _, after, rfl, rfl, .error _⟩
      · exact ⟨_, _, after, rfl, rfl, .ok (h.withActive table)⟩
    | save path =>
      rw [run_apply_save, run_apply_save, h.active]
      rcases (host.writeTable (settings.resolve ⟨path⟩) second.active).run world with
        ⟨error | _, after⟩
      · exact ⟨_, _, after, rfl, rfl, .error _⟩
      · exact ⟨_, _, after, rfl, rfl, .ok h⟩
    | _ => cases hext

/-- An action leaves every scope alone but the one that it says it stores. -/
theorem Action.get?_of_run_apply [RegexLibrary] {host : Host σ} {settings : Settings}
    {state next : RunState} {world after : σ} {action : Action}
    (h : (action.apply host settings state).run world = (.ok next, after)) {name : String}
    (hname : action.scopeWrite ≠ some name) :
    next.scopes.get? name = state.scopes.get? name := by
  rcases run_apply_eq_ok h with ⟨source, table, rfl, -, rfl⟩ | ⟨path, -, rfl, -, rfl⟩ |
    ⟨-, hedit, -⟩
  · rfl
  · rfl
  · rcases scopes_edit hedit with ⟨-, hscopes⟩ | ⟨target, table, hwrite, -, hscopes⟩
    · rw [hscopes]
    · have hne : target ≠ name := fun heq => hname (by rw [hwrite, heq])
      rw [hscopes, Scopes.get?_insert, if_neg hne]

end Steps

/-! ## Runs -/

namespace Program

/-- The scopes that the actions of a program look up. -/
def scopeReads (program : Program) : List String := program.flatMap Action.scopeReads

/-- The scopes that the actions of a program store. -/
def scopeWrites (program : Program) : List String :=
  program.flatMap fun action => action.scopeWrite.toList

@[simp] theorem scopeWrites_cons (action : Action) (program : Program) :
    scopeWrites (action :: program) = action.scopeWrite.toList ++ program.scopeWrites := rfl

/-- The actions before the one that an error names; all of them where there is no error. -/
def upTo (program : Program) : Option RunError → Program
  | none => program
  | some error => program.take error.index

@[simp] theorem upTo_later (action : Action) (program : Program) (error : Option RunError) :
    upTo (action :: program) (error.map (·.later 1)) = action :: program.upTo error := by
  cases error <;> rfl

section Runs

variable (host : Host σ) (settings : Settings)

/-- The actions that a run carries out: those before the one that fails, and none where the check
beforehand stops the run. -/
def carriedOut [RegexLibrary] (program : Program) (state : RunState) (world : σ) : Program :=
  match program.fault? settings state.scopes with
  | some _ => []
  | none => program.upTo (program.execute host settings state world).error

/-- Runs from states that agree on what the program looks up end alike, and their last states then
agree on what was stored as well. -/
theorem runFrom_agrees [RegexLibrary] {names : List String} {program : Program}
    {first second : RunState} (h : first.Agrees names second)
    (hreads : ∀ name ∈ program.scopeReads, name ∈ names) (world : σ) :
    let left := program.runFrom host settings 0 first world
    let right := program.runFrom host settings 0 second world
    left.error = right.error ∧ left.world = right.world ∧
      left.state.Agrees ((program.upTo left.error).scopeWrites ++ names) right.state := by
  induction program generalizing names first second world with
  | nil => exact ⟨rfl, rfl, h⟩
  | cons action program ih =>
    -- the names in common grow by what the action stores, and a later action may look these up
    have haction : ∀ name ∈ action.scopeReads, name ∈ names := by
      intro name hname
      exact hreads name (List.mem_append_left _ hname)
    have hprogram : ∀ name ∈ Program.scopeReads program,
        name ∈ action.scopeWrite.toList ++ names := by
      intro name hname
      exact List.mem_append_right _ (hreads name (List.mem_append_right _ hname))
    obtain ⟨result, result', after, hfirst, hsecond, halike⟩ :=
      Action.run_apply_alike host settings h haction world
    cases halike with
    | error cause =>
      rw [runFrom, runFrom, hfirst, hsecond]
      exact ⟨rfl, rfl, h⟩
    | @ok next next' hnext =>
      rw [runFrom_cons_ok host settings hfirst, runFrom_cons_ok host settings hsecond]
      obtain ⟨herror, hworld, hstate⟩ := ih hnext hprogram after
      refine ⟨?_, hworld, ?_⟩
      · simp only [Outcome.later, herror]
      · simp only [Outcome.later, upTo_later]
        refine hstate.mono ?_
        intro name hname
        rw [scopeWrites_cons, List.append_assoc] at hname
        rcases List.mem_append.1 hname with hname | hname
        · exact List.mem_append_right _ (List.mem_append_left _ hname)
        · rcases List.mem_append.1 hname with hname | hname
          · exact List.mem_append_left _ hname
          · exact List.mem_append_right _ (List.mem_append_right _ hname)

/-- A run leaves every scope alone that none of the actions it carries out stores. -/
theorem get?_runFrom [RegexLibrary] {program : Program} {state : RunState} {world : σ}
    {name : String}
    (h : name ∉ (program.upTo (program.runFrom host settings 0 state world).error).scopeWrites) :
    (program.runFrom host settings 0 state world).state.scopes.get? name =
      state.scopes.get? name := by
  induction program generalizing state world with
  | nil => rfl
  | cons action program ih =>
    cases hstep : (action.apply host settings state).run world with
    | mk result after =>
      cases result with
      | error cause => rw [runFrom, hstep]
      | ok next =>
        rw [runFrom_cons_ok host settings hstep] at h ⊢
        simp only [Outcome.later, upTo_later, scopeWrites_cons, List.mem_append, not_or] at h ⊢
        obtain ⟨haction, hprogram⟩ := h
        rw [ih hprogram]
        refine Action.get?_of_run_apply hstep ?_
        intro hwrite
        rw [hwrite] at haction
        exact haction (by simp)

variable {host settings}

theorem carriedOut_of_fault?_eq_some [RegexLibrary] {program : Program} {state : RunState}
    {fault : RunError} (world : σ) (h : program.fault? settings state.scopes = some fault) :
    program.carriedOut host settings state world = [] := by
  rw [carriedOut, h]

theorem carriedOut_of_fault?_eq_none [RegexLibrary] {program : Program} {state : RunState}
    (world : σ) (h : program.fault? settings state.scopes = none) :
    program.carriedOut host settings state world =
      program.upTo (program.execute host settings state world).error := by
  rw [carriedOut, h]

/-- The check beforehand asks only for the scopes that the program looks up. -/
theorem fault?_congr {program : Program} {first second : RunState}
    (h : first.Agrees program.scopeReads second) :
    program.fault? settings first.scopes = program.fault? settings second.scopes := by
  unfold fault?
  split
  · refine unknownScope?_congr ?_
    intro action haction name hname
    have hread : name ∈ program.scopeReads := List.mem_flatMap.2 ⟨action, haction, hname⟩
    rw [Scopes.contains_names, Scopes.contains_names, Scopes.contains_eq_isSome_get?,
      Scopes.contains_eq_isSome_get?, h.scopes name hread]
  · rfl

end Runs

/-! ## The result -/

/-- What a program says it looks up and stores is all that it does with scopes.  From two states
with the same active table and the same scopes under the names that the program looks up, it carries
out the same actions, ends with the same error or none and the same active table, and does the same
to the world; the scopes that the actions carried out store are then the same too.  Every other
scope is in each of the runs as it was. -/
theorem execute_footprint [RegexLibrary] {host : Host σ} {settings : Settings} {program : Program}
    {first second : RunState} (h : first.Agrees program.scopeReads second) (world : σ) :
    let left := program.execute host settings first world
    let right := program.execute host settings second world
    let done := program.carriedOut host settings first world
    program.carriedOut host settings second world = done ∧
      left.error = right.error ∧ left.world = right.world ∧
      left.state.active = right.state.active ∧
      (∀ name ∈ done.scopeWrites, left.state.scopes.get? name = right.state.scopes.get? name) ∧
      ∀ name, name ∉ done.scopeWrites →
        left.state.scopes.get? name = first.scopes.get? name ∧
          right.state.scopes.get? name = second.scopes.get? name := by
  intro left right done
  have hfault : program.fault? settings first.scopes = program.fault? settings second.scopes :=
    fault?_congr h
  cases hfirst : program.fault? settings first.scopes with
  | some fault =>
    have hsecond := hfault.symm.trans hfirst
    have hleft : left = ⟨first, world, some fault⟩ := execute_of_fault?_eq_some world hfirst
    have hright : right = ⟨second, world, some fault⟩ := execute_of_fault?_eq_some world hsecond
    have hdone : done = [] := carriedOut_of_fault?_eq_some world hfirst
    have hdone' : program.carriedOut host settings second world = [] :=
      carriedOut_of_fault?_eq_some world hsecond
    rw [hleft, hright, hdone, hdone']
    refine ⟨rfl, rfl, rfl, h.active, ?_, ?_⟩
    · intro name hname
      cases hname
    · intro name _
      exact ⟨rfl, rfl⟩
  | none =>
    have hsecond := hfault.symm.trans hfirst
    have hleft : left = program.runFrom host settings 0 first world :=
      execute_of_fault?_eq_none world hfirst
    have hright : right = program.runFrom host settings 0 second world :=
      execute_of_fault?_eq_none world hsecond
    have hdone : done = program.upTo left.error := carriedOut_of_fault?_eq_none world hfirst
    have hdone' : program.carriedOut host settings second world = program.upTo right.error :=
      carriedOut_of_fault?_eq_none world hsecond
    obtain ⟨herror, hworld, hstate⟩ :=
      runFrom_agrees host settings h (fun _ hname => hname) world
    rw [hdone, hdone', hleft, hright, ← herror]
    refine ⟨rfl, rfl, hworld, hstate.active, ?_, ?_⟩
    · intro name hname
      exact hstate.scopes name (List.mem_append_left _ hname)
    · intro name hname
      refine ⟨get?_runFrom host settings hname, get?_runFrom host settings ?_⟩
      rw [← herror]
      exact hname

/-- The states differ in a scope that the program stores and in one that it never names: the first
one is the same after the runs, and the second one stays as it was. -/
theorem execute_footprint_of_copy :
    let host := World.host .shelf .unavailable
    let world : World := ⟨⟨∅, []⟩, .empty, []⟩
    let program : Program := [.copy "a" "b", .merge "a", .remove "x"]
    let table : Table := ⟨["x", "y"], [["1", "2"]]⟩
    let other : Table := ⟨["z"], []⟩
    let first : RunState := ⟨table, .ofList [("a", table)]⟩
    let second : RunState := ⟨table, .ofList [("a", table), ("b", other), ("c", other)]⟩
    let left := program.execute host {} first world
    let right := program.execute host {} second world
    first.Agrees program.scopeReads second ∧
      first.scopes.get? "b" = none ∧ second.scopes.get? "b" = some other ∧
      left.error = right.error ∧ left.state.active = right.state.active ∧
      left.state.scopes.get? "b" = right.state.scopes.get? "b" ∧
      right.state.scopes.get? "c" = second.scopes.get? "c" := by
  intro host world program table other first second left right
  have hagree : first.Agrees program.scopeReads second := ⟨rfl, by decide⟩
  obtain ⟨-, herror, -, hactive, hstored, hkept⟩ := execute_footprint hagree world
  refine ⟨hagree, by decide, by decide, herror, hactive, hstored "b" (by decide), ?_⟩
  exact (hkept "c" (by decide)).2

end Program

end CaseScript
