import CaseScript.Proofs.Run.Step

/-!
# Scopes that are checked beforehand

`Program.unknownScope?` looks at a program alone and at the names that are taken at its start.  This
file compares its answer with what the program does when it runs.

There are four groups.

* Operations on tables never fail for want of a scope (`findsScopes_filter` and the lemmas around
  it).
* What an action looks up is what it reads: `Action.edit_of_missing` and `Action.edit_of_present`.
* `Action.contains_of_run_apply`: what an action stores is what it says it stores.
* The run.  `Knows` is the invariant: the known names are the taken names.
  `Program.runFrom_checked` and `Program.runFrom_fault` carry it through a run, and
  `Program.execute_scopeCheck` is the result.
-/

namespace CaseScript

variable {σ : Type}

/-! ## Operations on tables -/

/-- The computation does not fail for want of a scope. -/
def FindsScopes {α : Type} (result : Except TableError α) : Prop :=
  ∀ name, result ≠ .error (.scopeNotFound name)

theorem findsScopes_ok {α : Type} (value : α) : FindsScopes (.ok value) := by
  intro name h
  cases h

theorem FindsScopes.bind {α β : Type} {first : Except TableError α}
    {next : α → Except TableError β} (hf : FindsScopes first)
    (hn : ∀ value, FindsScopes (next value)) : FindsScopes (first >>= next) := by
  intro name h
  cases first with
  | error error =>
    cases h
    exact hf name rfl
  | ok value => exact hn value name h

namespace Table

theorem findsScopes_require (table : Table) (name : String) : FindsScopes (table.require name) := by
  intro scope h
  unfold require at h
  split at h <;> cases h

theorem findsScopes_removeColumn (table : Table) (name : String) :
    FindsScopes (table.removeColumn name) :=
  (table.findsScopes_require name).bind fun _ => findsScopes_ok _

theorem findsScopes_renameColumn (table : Table) (column name : String) :
    FindsScopes (table.renameColumn column name) := by
  refine (table.findsScopes_require column).bind fun index => ?_
  intro scope h
  split at h <;> cases h

theorem findsScopes_moveColumn (table : Table) (name : String) (direction : Direction) :
    FindsScopes (table.moveColumn name direction) := by
  refine (table.findsScopes_require name).bind fun index => ?_
  split
  · exact findsScopes_ok _
  · exact findsScopes_ok _

theorem findsScopes_addColumn (table : Table) (name : String) (fill : Option String) :
    FindsScopes (table.addColumn name fill) := by
  intro scope h
  unfold addColumn at h
  split at h <;> cases h

theorem findsScopes_matchers [RegexLibrary] (operator : Operator) (values : List String) :
    FindsScopes (values.mapM (Matcher.ofValue operator)) := by
  induction values with
  | nil => exact findsScopes_ok _
  | cons value values ih =>
    rw [List.mapM_cons]
    refine FindsScopes.bind ?_ fun _ => ih.bind fun _ => findsScopes_ok _
    intro scope h
    cases operator with
    | equal => cases h
    | like =>
      simp only [Matcher.ofValue] at h
      split at h <;> cases h

theorem findsScopes_filter [RegexLibrary] (table : Table) (column : String) (operator : Operator)
    (values : List String) (negate : Bool) :
    FindsScopes (table.filter column operator values negate) :=
  (table.findsScopes_require column).bind fun _ =>
    (findsScopes_matchers operator values).bind fun _ => findsScopes_ok _

theorem findsScopes_checkCollisions (left right : Table) (passOver : Option Nat) :
    FindsScopes (left.checkCollisions right passOver) := by
  intro scope h
  unfold checkCollisions at h
  split at h <;> cases h

theorem findsScopes_cross (left right : Table) : FindsScopes (left.cross right) :=
  (left.findsScopes_checkCollisions right none).bind fun _ => findsScopes_ok _

theorem findsScopes_join (left right : Table) (column : String) :
    FindsScopes (left.join right column) :=
  (left.findsScopes_require column).bind fun _ =>
    (right.findsScopes_require column).bind fun _ =>
      (left.findsScopes_checkCollisions right _).bind fun _ => findsScopes_ok _

theorem findsScopes_union (table other : Table) : FindsScopes (table.union other) := by
  intro scope h
  unfold union at h
  repeat' split at h
  all_goals cases h

end Table

/-! ## What an action looks up -/

/-- The first scope that an action looks up and that is not there. -/
def Action.missing? (scopes : Scopes) (action : Action) : Option String :=
  action.scopeReads.find? fun name => !scopes.contains name

/-- The first missing name is the one in front, or the first among the others. -/
theorem find?_missing_cons_iff {scopes : Scopes} {name missing : String} {names : List String} :
    (name :: names).find? (fun name => !scopes.contains name) = some missing ↔
      scopes.contains name = false ∧ name = missing ∨
        scopes.contains name = true ∧
          names.find? (fun name => !scopes.contains name) = some missing := by
  cases h : scopes.contains name <;> simp [h]

/-- An action that looks up a missing scope fails on the first one. -/
theorem Action.edit_of_missing [RegexLibrary] {state : RunState} {action : Action} {name : String}
    (h : action.missing? state.scopes = some name) :
    action.edit state = .error (.scopeNotFound name) := by
  cases action with
  | cross first second key =>
    simp only [edit]
    rcases find?_missing_cons_iff.1 h with ⟨hfirst, rfl⟩ | ⟨hfirst, h⟩
    · rw [Scopes.get_of_not_contains hfirst]
      rfl
    obtain ⟨left, hleft⟩ := Scopes.get_of_contains hfirst
    rcases find?_missing_cons_iff.1 h with ⟨hsecond, rfl⟩ | ⟨-, h⟩
    · rw [hleft, Scopes.get_of_not_contains hsecond]
      rfl
    · cases h
  | copy source target =>
    rcases find?_missing_cons_iff.1 h with ⟨hsource, rfl⟩ | ⟨-, h⟩
    · simp only [edit, Scopes.copy]
      rw [Scopes.get_of_not_contains hsource]
      rfl
    · cases h
  | merge scope =>
    rcases find?_missing_cons_iff.1 h with ⟨hscope, rfl⟩ | ⟨-, h⟩
    · simp only [edit]
      rw [Scopes.get_of_not_contains hscope]
      rfl
    · cases h
  | _ => simp [missing?, scopeReads] at h

theorem findsScopes_get {scopes : Scopes} {name : String} (h : scopes.contains name = true) :
    FindsScopes (scopes.get name) := by
  obtain ⟨table, ht⟩ := Scopes.get_of_contains h
  rw [ht]
  exact findsScopes_ok table

/-- An action whose scopes are all there does not fail for want of one. -/
theorem Action.edit_of_present [RegexLibrary] {state : RunState} {action : Action}
    (h : action.missing? state.scopes = none) : FindsScopes (action.edit state) := by
  have hread : ∀ name ∈ action.scopeReads, FindsScopes (state.scopes.get name) := by
    intro name hname
    exact findsScopes_get (by simpa using List.find?_eq_none.1 h name hname)
  cases action with
  | load | save | distinct | scope => exact findsScopes_ok _
  | remove column =>
    exact (state.active.findsScopes_removeColumn column).bind fun _ => findsScopes_ok _
  | rename column name =>
    exact (state.active.findsScopes_renameColumn column name).bind fun _ => findsScopes_ok _
  | move column direction =>
    exact (state.active.findsScopes_moveColumn column direction).bind fun _ => findsScopes_ok _
  | filter column operator values negate =>
    exact (state.active.findsScopes_filter column operator values negate).bind fun _ =>
      findsScopes_ok _
  | cross first second key =>
    refine (hread first (by simp [scopeReads])).bind fun left => ?_
    refine (hread second (by simp [scopeReads])).bind fun right => ?_
    cases key with
    | none => exact (left.findsScopes_cross right).bind fun _ => findsScopes_ok _
    | some column => exact (left.findsScopes_join right column).bind fun _ => findsScopes_ok _
  | copy source target =>
    exact ((hread source (by simp [scopeReads])).bind fun _ => findsScopes_ok _).bind fun _ =>
      findsScopes_ok _
  | add column fill =>
    exact (state.active.findsScopes_addColumn column fill).bind fun _ => findsScopes_ok _
  | merge name =>
    exact (hread name (by simp [scopeReads])).bind fun table =>
      (state.active.findsScopes_union table).bind fun _ => findsScopes_ok _

section Steps

variable {host : Host σ} {settings : Settings} {state next : RunState} {world after : σ}
  {action : Action}

theorem Action.run_apply_of_missing [RegexLibrary] {name : String}
    (h : action.missing? state.scopes = some name) :
    (action.apply host settings state).run world =
      (.error (.table (.scopeNotFound name)), world) := by
  have hinside : action.isExternal = false := by
    cases action with
    | load | save => simp [missing?, scopeReads] at h
    | _ => rfl
  rw [run_apply_inside host settings state world hinside, edit_of_missing h]
  rfl

theorem Action.run_apply_of_present [RegexLibrary] (h : action.missing? state.scopes = none)
    (name : String) :
    (action.apply host settings state).run world ≠
      (.error (.table (.scopeNotFound name)), after) := by
  intro hrun
  rcases run_apply_eq_error hrun with ⟨-, error, he⟩ | ⟨-, -, error, he, hedit⟩
  · cases he
  · cases he
    exact edit_of_present h name hedit

/-! ## What an action stores -/

/-- After an action exactly the name that it writes is taken besides the names taken before. -/
theorem Action.contains_of_run_apply [RegexLibrary]
    (h : (action.apply host settings state).run world = (.ok next, after)) (name : String) :
    next.scopes.contains name =
      (action.scopeWrite.toList.contains name || state.scopes.contains name) := by
  rcases run_apply_eq_ok h with ⟨source, table, rfl, -, rfl⟩ | ⟨path, -, rfl, -, rfl⟩ |
    ⟨-, hedit, -⟩
  · simp [scopeWrite]
  · simp [scopeWrite]
  · rcases scopes_edit hedit with ⟨hw, hs⟩ | ⟨target, table, hw, -, hs⟩
    · simp [hw, hs]
    · rw [hw, hs, Scopes.contains_insert, Option.toList_some, List.contains_cons,
        List.contains_nil, Bool.or_false, BEq.comm]

/-! ## The run -/

/-- The known names are the taken names. -/
def Knows (known : List String) (scopes : Scopes) : Prop :=
  ∀ name, known.contains name = scopes.contains name

theorem knows_names (scopes : Scopes) : Knows scopes.names scopes := scopes.contains_names

theorem Knows.find? {known : List String} {scopes : Scopes} (h : Knows known scopes)
    (action : Action) :
    (action.scopeReads.find? fun name => !known.contains name) = action.missing? scopes := by
  simp only [Action.missing?, h _]

theorem Knows.step [RegexLibrary] {known : List String} (h : Knows known state.scopes)
    (hrun : (action.apply host settings state).run world = (.ok next, after)) :
    Knows (action.scopeWrite.toList ++ known) next.scopes := by
  intro name
  rw [Action.contains_of_run_apply hrun, List.contains_append, h name]

end Steps

/-- The error reports a scope that is not there. -/
def RunError.IsUnknownScope (error : RunError) : Prop :=
  ∃ name, error.cause = .table (.scopeNotFound name)

namespace Program

/-- A fault that is found beforehand names an action and the scope that it looks up in vain. -/
theorem unknownScope?_eq_some {known : List String} {index : Nat} {program : Program}
    {fault : RunError} (h : program.unknownScope? known index = some fault) :
    ∃ place action name, program[place]? = some action ∧ name ∈ action.scopeReads ∧
      fault = .ofStep (index + place) action (.table (.scopeNotFound name)) := by
  induction program generalizing known index with
  | nil => cases h
  | cons action program ih =>
    unfold unknownScope? at h
    split at h
    · rename_i name hfind
      cases h
      exact ⟨0, action, name, rfl, List.mem_of_find?_eq_some hfind, rfl⟩
    · obtain ⟨place, later, name, hplace, hname, rfl⟩ := ih h
      refine ⟨place + 1, later, name, by simpa using hplace, hname, ?_⟩
      rw [Nat.add_assoc, Nat.add_comm 1 place]

variable [RegexLibrary] {host : Host σ} {settings : Settings}

/-- A program without a fault never fails for want of a scope. -/
theorem runFrom_checked {known : List String} {index : Nat} {program : Program}
    {state : RunState} (world : σ) (hknown : Knows known state.scopes)
    (h : program.unknownScope? known index = none) :
    ∀ error, (program.runFrom host settings index state world).error = some error →
      ¬ error.IsUnknownScope := by
  induction program generalizing known index state world with
  | nil =>
    intro error he
    cases he
  | cons action program ih =>
    unfold unknownScope? at h
    rw [hknown.find?] at h
    split at h
    · cases h
    · rename_i hpresent
      rw [runFrom]
      split
      · rename_i next after hrun
        exact ih after (hknown.step hrun) h
      · rename_i cause after hrun
        rintro error ⟨⟩ ⟨name, hname⟩
        cases hname
        exact Action.run_apply_of_present hpresent name hrun

/-- A program with a fault fails there, or before that for another reason. -/
theorem runFrom_fault {known : List String} {index : Nat} {program : Program}
    {state : RunState} {fault : RunError} (world : σ) (hknown : Knows known state.scopes)
    (h : program.unknownScope? known index = some fault) :
    ∃ error, (program.runFrom host settings index state world).error = some error ∧
      (error = fault ∨ error.index < fault.index ∧ ¬ error.IsUnknownScope) := by
  induction program generalizing known index state world with
  | nil => cases h
  | cons action program ih =>
    unfold unknownScope? at h
    rw [hknown.find?] at h
    rw [runFrom]
    split at h
    · rename_i name hmissing
      cases h
      rw [Action.run_apply_of_missing hmissing]
      exact ⟨_, rfl, .inl rfl⟩
    · rename_i hpresent
      split
      · rename_i next after hrun
        exact ih after (hknown.step hrun) h
      · rename_i cause after hrun
        refine ⟨_, rfl, .inr ⟨?_, ?_⟩⟩
        · obtain ⟨place, later, name, -, -, rfl⟩ := unknownScope?_eq_some h
          simp only [RunError.ofStep]
          omega
        · intro h
          rcases h with ⟨name, hname⟩
          cases hname
          exact Action.run_apply_of_present hpresent name hrun

/-- Checking scopes beforehand and finding them missing on the way agree, on every program, from
every state and with every host.  Where the check finds nothing, the run is the same with and
without it and never fails for want of a scope.  Where it finds a fault, the checked run ends there
at once, with the state and the world as they were; the unchecked run ends with the same error,
or at an earlier action for another reason. -/
theorem execute_scopeCheck (host : Host σ) (settings : Settings) (program : Program)
    (state : RunState) (world : σ) :
    let checked := program.execute host { settings with checkScopes := true } state world
    let unchecked := program.execute host { settings with checkScopes := false } state world
    match program.unknownScope? state.scopes.names 0 with
    | none =>
      checked = unchecked ∧ ∀ error, unchecked.error = some error → ¬ error.IsUnknownScope
    | some fault =>
      (∃ action name, program[fault.index]? = some action ∧ name ∈ action.scopeReads ∧
        fault = .ofStep fault.index action (.table (.scopeNotFound name))) ∧
      checked = ⟨state, world, some fault⟩ ∧
      ∃ error, unchecked.error = some error ∧
        (error = fault ∨ error.index < fault.index ∧ ¬ error.IsUnknownScope) := by
  intro checked unchecked
  have hunchecked : unchecked = program.runFrom host settings 0 state world :=
    program.runFrom_checkScopes host settings false 0 state world
  cases h : program.unknownScope? state.scopes.names 0 with
  | none =>
    have hchecked : checked = program.runFrom host settings 0 state world := by
      simp only [checked, execute, if_true, h]
      exact program.runFrom_checkScopes host settings true 0 state world
    rw [hchecked, hunchecked]
    exact ⟨rfl, runFrom_checked world (knows_names _) h⟩
  | some fault =>
    refine ⟨?_, ?_, ?_⟩
    · obtain ⟨place, action, name, hplace, hname, rfl⟩ := unknownScope?_eq_some h
      rw [Nat.zero_add]
      exact ⟨action, name, hplace, hname, rfl⟩
    · simp only [checked, execute, if_true, h]
    · rw [hunchecked]
      exact runFrom_fault world (knows_names _) h

end Program

end CaseScript
