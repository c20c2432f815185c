import CaseScript.Proofs.Run.InPlace
import CaseScript.Proofs.Syntax.RoundTrip
import CaseScript.World

/-!
# Failed runs

A run that fails names the action that failed and leaves the tables as the actions before it made
them.

There are two groups.

* Places.  `Program.runFrom_failure` cuts a failed run at the action that failed, and
  `Program.fault?_eq_some` and `Program.fault?_eq_none_of_append` say where the check beforehand
  stops a run and that it passes every start of a program that it passes.
* The result.  `Program.execute_failure`.
-/

namespace CaseScript

variable {σ : Type}

namespace Program

/-! ## Places -/

section Failures

variable {host : Host σ} {settings : Settings}

/-- A run that fails carries out the actions before the one that fails, and this one fails on what
they leave behind. -/
theorem runFrom_failure [RegexLibrary] {index : Nat} {program : Program} {state : RunState}
    {world : σ} {error : RunError}
    (h : (program.runFrom host settings index state world).error = some error) :
    let outcome := program.runFrom host settings index state world
    ∃ done action rest before, program = done ++ action :: rest ∧
      runFrom host settings index done state world = ⟨outcome.state, before, none⟩ ∧
      (action.apply host settings outcome.state).run before =
        (.error error.cause, outcome.world) ∧
      error = .ofStep (index + done.length) action error.cause := by
  induction program generalizing index state world with
  | nil => cases h
  | cons action program ih =>
    rw [runFrom] at h ⊢
    cases hstep : (action.apply host settings state).run world with
    | mk result after =>
      rw [hstep] at h
      cases result with
      | error cause =>
        cases h
        exact ⟨[], action, program, world, rfl, rfl, hstep, rfl⟩
      | ok next =>
        obtain ⟨done, failed, rest, before, hprogram, hdone, hfailed, herror⟩ := ih h
        refine ⟨action :: done, failed, rest, before, ?_, ?_, hfailed, ?_⟩
        · rw [hprogram, List.cons_append]
        · rw [runFrom, hstep]
          exact hdone
        · rw [place_cons]
          exact herror

/-- A fault that is found beforehand is that of an action of the program. -/
theorem fault?_eq_some {scopes : Scopes} {program : Program} {fault : RunError}
    (h : program.fault? settings scopes = some fault) :
    ∃ action, program[fault.index]? = some action ∧ fault.action = action.render := by
  unfold fault? at h
  split at h
  · obtain ⟨place, action, name, hplace, -, rfl⟩ := unknownScope?_eq_some h
    refine ⟨action, ?_, rfl⟩
    simpa [RunError.ofStep] using hplace
  · cases h

theorem fault?_eq_none_of_append {scopes : Scopes} {first second : Program}
    (h : fault? settings scopes (first ++ second) = none) :
    first.fault? settings scopes = none := by
  unfold fault? at h ⊢
  split
  · rename_i hcheck
    rw [if_pos hcheck, unknownScope?_append] at h
    cases hfirst : first.unknownScope? scopes.names 0 with
    | none => rfl
    | some fault =>
      rw [hfirst] at h
      cases h
  · rfl

/-- A run that fails although the check beforehand lets it start fails on the action at the place
that its error names, after the actions before it have run to their end. -/
theorem execute_failure_of_fault?_eq_none [RegexLibrary] {program : Program} {state : RunState}
    {world : σ} {error : RunError} (hfault : program.fault? settings state.scopes = none)
    (h : (program.execute host settings state world).error = some error) :
    let outcome := program.execute host settings state world
    ∃ action before, program[error.index]? = some action ∧ error.action = action.render ∧
      execute host settings (program.take error.index) state world =
        ⟨outcome.state, before, none⟩ ∧
      (action.apply host settings outcome.state).run before =
        (.error error.cause, outcome.world) := by
  rw [execute_of_fault?_eq_none world hfault] at h ⊢
  obtain ⟨done, action, rest, before, hprogram, hdone, hfailed, herror⟩ := runFrom_failure h
  have hindex : error.index = done.length := by
    rw [herror, Nat.zero_add]
    rfl
  have htake : program.take error.index = done := by
    rw [hindex, hprogram, List.take_left]
  have hstart : fault? settings state.scopes done = none := by
    rw [hprogram] at hfault
    exact fault?_eq_none_of_append hfault
  refine ⟨action, before, ?_, ?_, ?_, hfailed⟩
  · rw [hindex, hprogram, List.getElem?_append_right (Nat.le_refl _), Nat.sub_self]
    rfl
  · rw [herror]
    rfl
  · rw [htake, execute_of_fault?_eq_none world hstart]
    exact hdone

/-! ## The result -/

/-- A failed run names one of its actions, by place and as it is written.  Either the check
beforehand has stopped it and nothing has happened, or the actions before the named one run to their
end by themselves and leave the tables as the failed run does: the named action fails in place
without a change to the active table or to a scope.  Where the program was read from a script, the
written form reads back as the action. -/
theorem execute_failure [RegexLibrary] {program : Program} {state : RunState} {world : σ}
    {error : RunError}
    (h : (program.execute host settings state world).error = some error) :
    let outcome := program.execute host settings state world
    (program.perform host settings).run (state, world) =
        (.error error, (outcome.state, outcome.world)) ∧
      ∃ hplace : error.index < program.length,
        error.action = program[error.index].render ∧
        (program.fault? settings state.scopes = some error ∧ outcome.state = state ∧
            outcome.world = world ∨
          ∃ before,
            execute host settings (program.take error.index) state world =
              ⟨outcome.state, before, none⟩ ∧
            (program[error.index].perform host settings).run (outcome.state, before) =
              (.error error.cause, (outcome.state, outcome.world))) ∧
        ∀ source, Program.parse source = .ok program →
          Action.parse error.action = .ok program[error.index] := by
  intro outcome
  have hperform : (program.perform host settings).run (state, world) =
      (.error error, (outcome.state, outcome.world)) := by
    rw [run_perform]
    simp only [Outcome.inPlace, outcome, h]
  refine ⟨hperform, ?_⟩
  -- an action that was read is renderable, so its written form is read again
  have hparse : ∀ action ∈ program, ∀ source, Program.parse source = .ok program →
      Action.parse action.render = .ok action := fun action haction source hsource =>
    Action.parse_render (Program.renderable_of_parse hsource action haction)
  cases hfault : program.fault? settings state.scopes with
  | some fault =>
    have houtcome : outcome = ⟨state, world, some fault⟩ :=
      execute_of_fault?_eq_some world hfault
    have herror : fault = error := by
      have h : outcome.error = some error := h
      rw [houtcome] at h
      exact Option.some.inj h
    subst herror
    obtain ⟨action, hget, haction⟩ := fault?_eq_some hfault
    obtain ⟨hplace, rfl⟩ := List.getElem?_eq_some_iff.1 hget
    refine ⟨hplace, haction, .inl ⟨rfl, ?_, ?_⟩, ?_⟩
    · rw [houtcome]
    · rw [houtcome]
    · rw [haction]
      exact hparse _ (List.getElem_mem hplace)
  | none =>
    obtain ⟨action, before, hget, haction, hdone, hfailed⟩ :=
      execute_failure_of_fault?_eq_none hfault h
    obtain ⟨hplace, rfl⟩ := List.getElem?_eq_some_iff.1 hget
    refine ⟨hplace, haction, .inr ⟨before, hdone, ?_⟩, ?_⟩
    · rw [Action.run_perform, hfailed]
    · rw [haction]
      exact hparse _ (List.getElem_mem hplace)

end Failures

/-- The first of two scopes is there and the second is not: the two actions before run to their end,
the third one fails and leaves the active table and the scope alone. -/
theorem execute_failure_of_second_scope :
    let host := World.host .shelf .unavailable
    let settings : Settings := { checkScopes := false }
    let world : World := ⟨⟨∅, []⟩, .empty, []⟩
    let program : Program := [.add "a" none, .scope "s", .cross "s" "t" none]
    let error := RunError.ofStep 2 (.cross "s" "t" none) (.table (.scopeNotFound "t"))
    let outcome := program.execute host settings .empty world
    outcome.error = some error ∧ Program.parse program.render = .ok program ∧
      (∃ before,
        execute host settings [.add "a" none, .scope "s"] .empty world =
          ⟨outcome.state, before, none⟩ ∧
        ((Action.cross "s" "t" none).perform host settings).run (outcome.state, before) =
          (.error error.cause, (outcome.state, outcome.world))) ∧
      Action.parse error.action = .ok (.cross "s" "t" none) := by
  intro host settings world program error outcome
  have herror : outcome.error = some error := by decide
  have hparse : Program.parse program.render = .ok program := by
    refine Program.parse_render ?_
    intro action haction
    have hthree : action = .add "a" none ∨ action = .scope "s" ∨ action = .cross "s" "t" none := by
      simpa [program] using haction
    rcases hthree with rfl | rfl | rfl
    all_goals exact ⟨by simp [Action.literals, Quotable], by simp, by simp⟩
  obtain ⟨-, _, -, hleft, hread⟩ := execute_failure herror
  refine ⟨herror, hparse, ?_, hread program.render hparse⟩
  rcases hleft with ⟨hfault, -⟩ | hleft
  · cases hfault
  · exact hleft

end Program

end CaseScript
