import CaseScript.Proofs.Run.Compose
import CaseScript.Proofs.Run.Host

/-!
# Points of a run

A run passes a point before each of its actions and one at its end.

* `Program.point`: the tables, the world and the error at a point.
* `Program.point_zero`, `Program.point_succ` and the lemmas beside it go from point to point.
* `Program.point_eq_execute`: the last point, and every one with an error, is the end of the run.
-/

namespace CaseScript.Program

variable [RegexLibrary] {σ : Type} (host : Host σ) (settings : Settings)

/-- The run after its first actions, `count` of them; its end where it ends before. -/
def point (program : Program) (state : RunState) (world : σ) (count : Nat) : Outcome σ :=
  match program.fault? settings state.scopes with
  | some fault => ⟨state, world, some fault⟩
  | none => runFrom host settings 0 (program.take count) state world

section Steps

variable {host settings} {program : Program} {state : RunState} {world : σ} {count : Nat}

theorem point_of_fault?_eq_none (h : program.fault? settings state.scopes = none) :
    program.point host settings state world count =
      runFrom host settings 0 (program.take count) state world := by
  rw [point, h]

theorem point_of_fault?_eq_some {fault : RunError}
    (h : program.fault? settings state.scopes = some fault) :
    program.point host settings state world count = ⟨state, world, some fault⟩ := by
  rw [point, h]

/-- At the first point nothing has happened but the check beforehand. -/
theorem point_zero :
    program.point host settings state world 0 =
      ⟨state, world, program.fault? settings state.scopes⟩ := by
  cases hfault : program.fault? settings state.scopes with
  | some fault => exact point_of_fault?_eq_some hfault
  | none => exact point_of_fault?_eq_none hfault

theorem point_of_length_le (h : program.length ≤ count) :
    program.point host settings state world count =
      program.execute host settings state world := by
  cases hfault : program.fault? settings state.scopes with
  | some fault => rw [point_of_fault?_eq_some hfault, execute_of_fault?_eq_some world hfault]
  | none =>
    rw [point_of_fault?_eq_none hfault, execute_of_fault?_eq_none world hfault,
      List.take_of_length_le h]

theorem point_succ_of_getElem?_eq_none (h : program[count]? = none) :
    program.point host settings state world (count + 1) =
      program.point host settings state world count := by
  rw [point, point, List.take_add_one, h, Option.toList_none, List.append_nil]

/-- From one point to the next there is one more action, unless the run has ended. -/
theorem point_add_one {action : Action} (h : program[count]? = some action) :
    program.point host settings state world (count + 1) =
      let before := program.point host settings state world count
      match before.error with
      | some _ => before
      | none => runFrom host settings count [action] before.state before.world := by
  unfold point
  cases hfault : program.fault? settings state.scopes with
  | some fault => rfl
  | none =>
    have hlength : (program.take count).length = count :=
      List.length_take_of_le (Nat.le_of_lt (List.getElem?_eq_some_iff.1 h).1)
    have happend := runFrom_append host settings 0 (program.take count) [action] state world
    rw [hlength, Nat.zero_add] at happend
    dsimp only
    rw [List.take_add_one, h, Option.toList_some]
    exact happend

theorem point_succ_of_error {error : RunError}
    (h : (program.point host settings state world count).error = some error) :
    program.point host settings state world (count + 1) =
      program.point host settings state world count := by
  cases hget : program[count]? with
  | none => exact point_succ_of_getElem?_eq_none hget
  | some action =>
    rw [point_add_one hget]
    dsimp only
    rw [h]

/-- A run that has not failed goes on with the next action. -/
theorem point_succ {action : Action} (hget : program[count]? = some action)
    (h : (program.point host settings state world count).error = none) :
    program.point host settings state world (count + 1) =
      let before := program.point host settings state world count
      match (action.apply host settings before.state).run before.world with
      | (.ok next, after) => ⟨next, after, none⟩
      | (.error cause, after) => ⟨before.state, after, some (.ofStep count action cause)⟩ := by
  rw [point_add_one hget]
  dsimp only
  rw [h]
  rfl

/-- Nothing happens after a failure or after the last action. -/
theorem point_succ_of_ended
    (h : (program.point host settings state world count).error ≠ none ∨ program.length ≤ count) :
    program.point host settings state world (count + 1) =
      program.point host settings state world count := by
  rcases h with h | h
  · obtain ⟨error, herror⟩ := Option.ne_none_iff_exists'.1 h
    exact point_succ_of_error herror
  · exact point_succ_of_getElem?_eq_none (List.getElem?_eq_none h)

theorem point_of_ended {later : Nat}
    (h : (program.point host settings state world count).error ≠ none ∨ program.length ≤ count)
    (hlater : count ≤ later) :
    program.point host settings state world later =
      program.point host settings state world count := by
  induction later, hlater using Nat.le_induction with
  | base => rfl
  | succ later hlater ih =>
    rw [← ih] at h ⊢
    refine point_succ_of_ended (h.imp_right ?_)
    intro hcount
    exact Nat.le_trans hcount hlater

/-- A point with an error, or with no action left, is the end of the run. -/
theorem point_eq_execute
    (h : (program.point host settings state world count).error ≠ none ∨ program.length ≤ count) :
    program.point host settings state world count =
      program.execute host settings state world := by
  rcases Nat.le_total program.length count with hcount | hcount
  · exact point_of_length_le hcount
  · rw [← point_of_ended h hcount]
    exact point_of_length_le (Nat.le_refl _)

/-- What every request leaves stays up to every point. -/
theorem inv_point {inv : σ → Prop} (hhost : host.Preserves inv) (hworld : inv world) :
    inv (program.point host settings state world count).world := by
  unfold point
  split
  · exact hworld
  · exact hhost.runFrom settings hworld 0 _ state

end Steps

end CaseScript.Program
