import CaseScript.Proofs.Run.ScopeCheck
import CaseScript.World
import Mathlib.Data.List.Find

/-!
# Programs one after the other

Running two programs as one is running the second from where the first one ends.  An error of the
second counts the actions of the first.

There are three groups.

* Places.  `RunError.later` and `Outcome.later` move the place of an error, and
  `Program.unknownScope?_later` and `Program.runFrom_later` say that the place at which a program
  starts does nothing else.
* Known names.  `Program.knownAfter` is what the check beforehand knows after a program,
  `Program.unknownScope?_append` cuts the check in two, `Program.unknownScope?_congr` says which
  names it looks at, and `Knows.runFrom` that after a run the known names are again the taken names.
* Runs.  `Program.runFrom_append` cuts a run in two, `Program.execute_append_eq` gives the whole
  outcome, and `Program.execute_append` is the result.
-/

namespace CaseScript

variable {σ : Type}

/-! ## Places -/

/-- The error of the same action with more actions before it. -/
def RunError.later (error : RunError) (count : Nat) : RunError :=
  { error with index := error.index + count }

/-- The outcome of the same actions with more actions before them. -/
def Outcome.later (outcome : Outcome σ) (count : Nat) : Outcome σ :=
  { outcome with error := outcome.error.map (·.later count) }

namespace Program

theorem unknownScope?_later (known : List String) (index count : Nat) (program : Program) :
    program.unknownScope? known (index + count) =
      (program.unknownScope? known index).map (·.later count) := by
  induction program generalizing known index with
  | nil => rfl
  | cons action program ih =>
    unfold unknownScope?
    split
    · rfl
    · rw [Nat.add_right_comm index count 1]
      exact ih _ (index + 1)

theorem runFrom_later [RegexLibrary] (host : Host σ) (settings : Settings) (index count : Nat)
    (program : Program) (state : RunState) (world : σ) :
    program.runFrom host settings (index + count) state world =
      (program.runFrom host settings index state world).later count := by
  induction program generalizing index state world with
  | nil => rfl
  | cons action program ih =>
    rw [runFrom, runFrom]
    rcases (action.apply host settings state).run world with ⟨cause | next, after⟩
    · rfl
    · dsimp only
      rw [Nat.add_right_comm index count 1]
      exact ih (index + 1) next after

theorem runFrom_cons_ok [RegexLibrary] (host : Host σ) (settings : Settings) {action : Action}
    {program : Program} {state next : RunState} {world after : σ}
    (h : (action.apply host settings state).run world = (.ok next, after)) :
    runFrom host settings 0 (action :: program) state world =
      (program.runFrom host settings 0 next after).later 1 := by
  rw [runFrom, h, ← runFrom_later]

/-- The place after a program, counted past its first action. -/
theorem place_cons (index : Nat) (action : Action) (program : Program) :
    index + (action :: program).length = index + 1 + program.length := by
  rw [List.length_cons]
  omega

/-! ## Known names -/

/-- The names that are known after a program. -/
def knownAfter (known : List String) (program : Program) : List String :=
  program.foldl (fun known action => action.scopeWrite.toList ++ known) known

/-- The check of two programs in a row: the second is checked with what the first stores. -/
theorem unknownScope?_append (known : List String) (index : Nat) (first second : Program) :
    unknownScope? known index (first ++ second) =
      match first.unknownScope? known index with
      | some fault => some fault
      | none => second.unknownScope? (knownAfter known first) (index + first.length) := by
  induction first generalizing known index with
  | nil => rfl
  | cons action first ih =>
    rw [List.cons_append, unknownScope?, unknownScope?]
    split
    · rfl
    · rw [place_cons]
      exact ih _ (index + 1)

/-- The check only asks for the names that the program looks up. -/
theorem unknownScope?_congr {known known' : List String} {index : Nat} {program : Program}
    (h : ∀ action ∈ program, ∀ name ∈ action.scopeReads,
      known.contains name = known'.contains name) :
    program.unknownScope? known index = program.unknownScope? known' index := by
  induction program generalizing known known' index with
  | nil => rfl
  | cons action program ih =>
    obtain ⟨haction, hprogram⟩ := List.forall_mem_cons.1 h
    have hfind : (action.scopeReads.find? fun name => !known.contains name) =
        action.scopeReads.find? fun name => !known'.contains name := by
      refine List.find?_congr ?_
      intro name hname
      rw [haction name hname]
    rw [unknownScope?, unknownScope?, hfind]
    split
    · rfl
    · refine ih ?_
      intro later hlater name hname
      rw [List.contains_append, List.contains_append, hprogram later hlater name hname]

end Program

section Runs

variable [RegexLibrary] {host : Host σ} {settings : Settings}

/-- After a run that does not fail the known names are again the taken names. -/
theorem Knows.runFrom {known : List String} {index : Nat} {program : Program} {state : RunState}
    {world : σ} (h : Knows known state.scopes)
    (hrun : (program.runFrom host settings index state world).error = none) :
    Knows (program.knownAfter known)
      (program.runFrom host settings index state world).state.scopes := by
  induction program generalizing known index state world with
  | nil => exact h
  | cons action program ih =>
    rw [Program.runFrom] at hrun ⊢
    cases hstep : (action.apply host settings state).run world with
    | mk result after =>
      rw [hstep] at hrun
      cases result with
      | error cause => cases hrun
      | ok next => exact ih (h.step hstep) hrun

end Runs

/-! ## Runs -/

namespace Program

section Outcomes

variable [RegexLibrary] (host : Host σ) (settings : Settings)

/-- The fault that is found beforehand, where the settings ask for the check. -/
def fault? (scopes : Scopes) (program : Program) : Option RunError :=
  if settings.checkScopes then program.unknownScope? scopes.names 0 else none

/-- A run is the check beforehand and, where that finds nothing, the actions one by one. -/
theorem execute_eq (program : Program) (state : RunState) (world : σ) :
    program.execute host settings state world =
      match program.fault? settings state.scopes with
      | some fault => ⟨state, world, some fault⟩
      | none => program.runFrom host settings 0 state world :=
  rfl

theorem runFrom_append (index : Nat) (first second : Program) (state : RunState) (world : σ) :
    runFrom host settings index (first ++ second) state world =
      let before := first.runFrom host settings index state world
      match before.error with
      | some _ => before
      | none => second.runFrom host settings (index + first.length) before.state before.world := by
  induction first generalizing index state world with
  | nil => rfl
  | cons action first ih =>
    rw [List.cons_append, runFrom, runFrom]
    rcases (action.apply host settings state).run world with ⟨cause | next, after⟩
    · rfl
    · rw [place_cons]
      exact ih (index + 1) next after

variable {host settings}

theorem execute_of_fault?_eq_none {program : Program} {state : RunState} (world : σ)
    (h : program.fault? settings state.scopes = none) :
    program.execute host settings state world = program.runFrom host settings 0 state world := by
  rw [execute_eq, h]

theorem execute_of_fault?_eq_some {program : Program} {state : RunState} {fault : RunError}
    (world : σ) (h : program.fault? settings state.scopes = some fault) :
    program.execute host settings state world = ⟨state, world, some fault⟩ := by
  rw [execute_eq, h]

/-- A run that does not fail was not stopped beforehand. -/
theorem fault?_eq_none_of_execute {program : Program} {state : RunState} {world : σ}
    (h : (program.execute host settings state world).error = none) :
    program.fault? settings state.scopes = none := by
  cases hfault : program.fault? settings state.scopes with
  | none => rfl
  | some fault =>
    rw [execute_of_fault?_eq_some world hfault] at h
    cases h

/-- The fault of two programs in a row, of which the first one runs to its end, is that of the
second, which is checked with the scopes that the first leaves behind. -/
theorem fault?_append {first : Program} {state : RunState} {world : σ} (second : Program)
    (h : (first.execute host settings state world).error = none) :
    fault? settings state.scopes (first ++ second) =
      (second.fault? settings (first.execute host settings state world).state.scopes).map
        (·.later first.length) := by
  have hfault := fault?_eq_none_of_execute h
  rw [execute_of_fault?_eq_none world hfault] at h ⊢
  unfold fault? at hfault ⊢
  split
  · rename_i hcheck
    rw [if_pos hcheck] at hfault
    -- the second is checked with the known names in the one run and the taken names in the other
    have hknown := (knows_names state.scopes).runFrom h
    rw [unknownScope?_append, hfault]
    dsimp only
    rw [← unknownScope?_later]
    refine unknownScope?_congr ?_
    intro action _ name _
    rw [hknown name, Scopes.contains_names]
  · rfl

/-- Two programs run as one: the second goes on where the first ends, unless the check beforehand
finds a fault of the second, and then not even the first one starts. -/
theorem execute_append_eq {first : Program} {state : RunState} {world : σ} (second : Program)
    (h : (first.execute host settings state world).error = none) :
    let before := first.execute host settings state world
    execute host settings (first ++ second) state world =
      match second.fault? settings before.state.scopes with
      | some fault => ⟨state, world, some (fault.later first.length)⟩
      | none =>
        (second.execute host settings before.state before.world).later first.length := by
  intro before
  have hfault : fault? settings state.scopes (first ++ second) =
      (second.fault? settings before.state.scopes).map (·.later first.length) :=
    fault?_append second h
  cases hsecond : second.fault? settings before.state.scopes with
  | some fault =>
    rw [hsecond] at hfault
    exact execute_of_fault?_eq_some world hfault
  | none =>
    rw [hsecond] at hfault
    have hbefore : before = first.runFrom host settings 0 state world :=
      execute_of_fault?_eq_none world (fault?_eq_none_of_execute h)
    have herror : (first.runFrom host settings 0 state world).error = none := by
      rw [← hbefore]
      exact h
    rw [execute_of_fault?_eq_none world hfault, runFrom_append, hbefore]
    dsimp only
    rw [herror, ← hbefore, execute_of_fault?_eq_none before.world hsecond]
    exact runFrom_later host settings 0 first.length second before.state before.world

/-- Running two programs as one is running the second from where the first one ends: it succeeds
when the second does, with the same tables and the same world, and when the second fails, for
whatever reason, it fails with the same error, at a place that counts the actions of the first. -/
theorem execute_append {first : Program} {state : RunState} {world : σ} (second : Program)
    (h : (first.execute host settings state world).error = none) :
    let before := first.execute host settings state world
    let after := second.execute host settings before.state before.world
    let whole := execute host settings (first ++ second) state world
    (whole.error = none ↔ after.error = none) ∧
    (after.error = none → whole.state = after.state ∧ whole.world = after.world) ∧
    ∀ error, after.error = some error →
      whole.error = some ⟨error.index + first.length, error.action, error.cause⟩ := by
  intro before after whole
  have hwhole : whole = _ := execute_append_eq second h
  have herror : whole.error = after.error.map (·.later first.length) := by
    cases hsecond : second.fault? settings before.state.scopes with
    | some fault =>
      have hafter : after = ⟨before.state, before.world, some fault⟩ :=
        execute_of_fault?_eq_some before.world hsecond
      rw [hwhole, hsecond, hafter]
      rfl
    | none =>
      rw [hwhole, hsecond]
      rfl
  refine ⟨?_, ?_, ?_⟩
  · rw [herror, Option.map_eq_none_iff]
  · intro hafter
    rw [hwhole, fault?_eq_none_of_execute hafter]
    exact ⟨rfl, rfl⟩
  · intro error hafter
    rw [herror, hafter]
    rfl

end Outcomes

/-- A program that stores a scope is followed by one that looks up this scope and then, in vain,
another one: the check beforehand reports the second place as the third. -/
theorem execute_append_of_missing :
    let host := World.host .shelf .unavailable
    let first : Program := [.scope "a"]
    let second : Program := [.copy "a" "b", .merge "c"]
    let before := first.execute host {} .empty ⟨⟨∅, []⟩, .empty, []⟩
    before.error = none ∧
      (second.execute host {} before.state before.world).error =
        some (.ofStep 1 (.merge "c") (.table (.scopeNotFound "c"))) ∧
      (execute host {} (first ++ second) .empty ⟨⟨∅, []⟩, .empty, []⟩).error =
        some (.ofStep 2 (.merge "c") (.table (.scopeNotFound "c"))) := by
  intro host first second before
  have hbefore : before.error = none := rfl
  have hafter : (second.execute host {} before.state before.world).error =
      some (.ofStep 1 (.merge "c") (.table (.scopeNotFound "c"))) := by decide
  exact ⟨hbefore, hafter, (execute_append second hbefore).2.2 _ hafter⟩

end Program

end CaseScript
