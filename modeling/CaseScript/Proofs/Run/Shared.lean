import CaseScript.Proofs.Run.Shelf
import Mathlib.Logic.Function.Basic

/-!
# Runs that share a host

Several runs may take turns on one host that keeps its tables on a shelf.  Where no run saves to a
place that another one loads from or saves to, each run does what it does alone, however the turns
fall.

There are four groups.

* Places.  `Program.Apart` says that one program saves to no place of another one, and `Shelf.Agree`
  that two shelves hold the same at some places.
* Hosts.  `Host.Steady` says that what queries give does not depend on what runs change, and
  `Action.run_apply_agree` that an action cannot tell two worlds apart that agree on its place.
* Turns.  `Run` is a run between two of its turns.  `Run.step_agree` compares a turn with the run
  alone, `Run.getElem?_places_step` says what a turn leaves to the others.
* Schedules.  `Shared.play` gives turns to the runs in the order of a schedule.  `Shared.Follows`
  says that every run has got as far as it gets alone in the same number of turns,
  `Shared.Follows.step` keeps it over a turn and `Shared.Follows.play` over a schedule, and
  `Shared.play_apart` is the result.
-/

namespace CaseScript

variable {σ ν ε α β : Type}

/-! ## Places -/

/-- The place of a file, under whatever spelling. -/
abbrev Place := List Path.Component

section Places

variable (settings : Settings)

/-- The place that an action saves to. -/
def Action.savePlace? : Action → Option Place
  | save text => some (settings.resolve ⟨text⟩).components
  | _ => none

/-- The place that an action saves to or loads a table file from. -/
def Action.place? : Action → Option Place
  | save text => some (settings.resolve ⟨text⟩).components
  | load (.file text) => some (settings.resolve ⟨text⟩).components
  | _ => none

/-- An action of the program saves to the place. -/
def Program.SavesTo (program : Program) (place : Place) : Prop :=
  ∃ action ∈ program, action.savePlace? settings = some place

/-- The first program saves to no place which the second one saves to or loads from. -/
def Program.Apart (first second : Program) : Prop :=
  ∀ action ∈ first, ∀ other ∈ second, ∀ place ∈ action.savePlace? settings,
    other.place? settings ≠ some place

instance (first second : Program) : Decidable (first.Apart settings second) :=
  inferInstanceAs (Decidable (∀ action ∈ first, ∀ other ∈ second,
    ∀ place ∈ action.savePlace? settings, other.place? settings ≠ some place))

variable {settings}

theorem Action.place?_of_savePlace? {place : Place} {action : Action}
    (h : action.savePlace? settings = some place) : action.place? settings = some place := by
  cases action with
  | save text => exact h
  | _ => cases h

theorem Program.Apart.not_savesTo {first second : Program} (h : first.Apart settings second)
    {action : Action} (haction : action ∈ second) {place : Place}
    (hplace : action.place? settings = some place) : ¬ first.SavesTo settings place := by
  rintro ⟨saving, hsaving, hsave⟩
  exact h saving hsaving action haction place hsave hplace

end Places

namespace Shelf

/-- The shelves hold the same at some places. -/
def Agree (places : Place → Prop) (first second : Shelf) : Prop :=
  ∀ place, places place → first.places[place]? = second.places[place]?

variable {places : Place → Prop} {first second : Shelf} {path : Path}

theorem Agree.get? (h : Agree places first second) (hpath : places path.components) :
    first.get? path = second.get? path := by
  rw [Shelf.get?, Shelf.get?, h _ hpath]

theorem Agree.insert (h : Agree places first second) (hpath : places path.components)
    (table : Table) : Agree places (first.insert path table) (second.insert path table) := by
  intro place hplace
  rw [getElem?_places_insert, getElem?_places_insert, h _ hpath, h _ hplace]

/-- Shelves with the same at every place are one. -/
theorem Agree.eq (h : Agree (fun _ => True) first second) : first = second := by
  have hplaces : first.places = second.places :=
    Std.ExtTreeMap.ext_getElem? fun place => h place trivial
  cases first
  cases second
  exact congrArg Shelf.mk hplaces

end Shelf

/-! ## Hosts -/

/-- The computation leaves a part of the world, and this part settles what it gives. -/
structure Effect.Steady (effect : Effect σ ε α) (view : σ → ν) : Prop where
  left : ∀ world, view (effect.run world).2 = view world
  settled : ∀ world world', view world = view world' →
    (effect.run world).1 = (effect.run world').1

/-- No request changes a part of the world, and this part settles what queries give. -/
structure Host.Steady (host : Host σ) (view : σ → ν) : Prop where
  readTable : ∀ path world, view ((host.readTable path).run world).2 = view world
  writeTable : ∀ path table world, view ((host.writeTable path table).run world).2 = view world
  readQuery : ∀ path, (host.readQuery path).Steady view
  render : ∀ bindings text, (host.render bindings text).Steady view
  answer : ∀ call, (host.answer call).Steady view

section Steady

variable {host : Host σ} {view : σ → ν}

theorem Effect.steady_pure (value : α) : Steady (pure value : Effect σ ε α) view :=
  ⟨fun _ => rfl, fun _ _ _ => rfl⟩

theorem Effect.Steady.bind {first : Effect σ ε α} {next : α → Effect σ ε β}
    (hfirst : first.Steady view) (hnext : ∀ value, (next value).Steady view) :
    (first >>= next).Steady view := by
  constructor
  · intro world
    have hleft := hfirst.left world
    rw [run_bind]
    rcases hrun : first.run world with ⟨error | value, after⟩
    · rw [hrun] at hleft
      exact hleft
    · rw [hrun] at hleft
      exact ((hnext value).left after).trans hleft
  · intro world world' hview
    have hsettled := hfirst.settled world world' hview
    have hafter : view (first.run world).2 = view (first.run world').2 := by
      rw [hfirst.left, hfirst.left, hview]
    rw [run_bind, run_bind]
    rcases hrun : first.run world with ⟨result, after⟩
    rcases hrun' : first.run world' with ⟨result', after'⟩
    rw [hrun, hrun'] at hsettled hafter
    cases hsettled
    cases result with
    | error error => rfl
    | ok value => exact (hnext value).settled after after' hafter

theorem Host.Steady.ask (h : host.Steady view) (settings : Settings) (connection text : String) :
    (settings.ask host connection text).Steady view := by
  refine Effect.Steady.bind ?_ fun query => h.answer ⟨connection, query⟩
  unfold Settings.renderQuery
  split
  · exact Effect.steady_pure text
  · exact h.render settings.bindings text

theorem Host.Steady.preserves (h : host.Steady view) (seen : ν) :
    host.Preserves fun world => view world = seen where
  readTable path world hworld := ⟨(h.readTable path world).trans hworld, fun _ _ => trivial⟩
  writeTable path table world hworld :=
    ⟨(h.writeTable path table world).trans hworld, fun _ _ => trivial⟩
  readQuery path world hworld := ⟨((h.readQuery path).left world).trans hworld, fun _ _ => trivial⟩
  render bindings text world hworld :=
    ⟨((h.render bindings text).left world).trans hworld, fun _ _ => trivial⟩
  answer call world hworld := ⟨((h.answer call).left world).trans hworld, fun _ _ => trivial⟩

end Steady

/-- On a shelf, what queries give in a world in memory depends on its disk alone. -/
theorem World.host_steady (service : QueryService) :
    (World.host .shelf service).Steady World.disk where
  readTable path world := by rw [run_readTable]
  writeTable path table world := by
    rw [run_writeTable]
    rfl
  readQuery path := by
    constructor
    · intro world
      rw [run_readQuery]
    · intro world world' hdisk
      rw [run_readQuery, run_readQuery]
      dsimp only
      rw [World.query, World.query, hdisk]
  render bindings text := by
    constructor
    · intro world
      rw [run_render]
    · intro world world' hdisk
      rw [run_render, run_render]
  answer call := by
    constructor
    · intro world
      rw [run_answer]
    · intro world world' hdisk
      rw [run_answer, run_answer]

section Steps

variable {host : Host σ} {shelf : σ → Shelf} {view : σ → ν} {settings : Settings}
  {state : RunState} {world world' : σ} {action : Action}

/-- An action leaves every place to which it does not save. -/
theorem Host.OnShelf.getElem?_places_apply [RegexLibrary] (h : host.OnShelf shelf) {place : Place}
    (hplace : action.savePlace? settings ≠ some place) :
    (shelf ((action.apply host settings state).run world).2).places[place]? =
      (shelf world).places[place]? := by
  cases action with
  | save text =>
    obtain ⟨after, hrun, hafter⟩ := h.run_apply_save settings state world text
    rw [hrun]
    dsimp only
    rw [hafter, Shelf.getElem?_places_insert]
    exact if_neg fun hsame => hplace (congrArg some hsame)
  | _ => rw [h.shelf_apply settings state world (by simp)]

/-- A source gives the same in two worlds that give the same answers to queries and hold the same at
the place that it loads from. -/
theorem Source.fetch_agree (hshelf : host.OnShelf shelf) (hsteady : host.Steady view)
    {places : Place → Prop} (hview : view world = view world')
    (hplaces : (shelf world).Agree places (shelf world')) {source : Source}
    (hsource : ∀ place, (Action.load source).place? settings = some place → places place) :
    ((source.fetch host settings).run world).1 = ((source.fetch host settings).run world').1 := by
  cases source with
  | file text =>
    have hfile : ∀ world, ((Source.file text).fetch host settings).run world =
        ((shelf world).read (settings.resolve ⟨text⟩), world) := hshelf.readTable _
    rw [hfile, hfile]
    dsimp only
    rw [Shelf.read, Shelf.read, hplaces.get? (hsource _ rfl)]
  | queryFile path connection =>
    exact ((hsteady.readQuery _).bind fun text =>
      hsteady.ask settings connection text).settled world world' hview
  | queryText text connection =>
    exact (hsteady.ask settings connection text).settled world world' hview

/-- An action does the same in two worlds that give the same answers to queries and hold the same at
the place that it touches. -/
theorem Action.run_apply_agree [RegexLibrary] (hshelf : host.OnShelf shelf)
    (hsteady : host.Steady view) {places : Place → Prop} (hview : view world = view world')
    (hplaces : (shelf world).Agree places (shelf world'))
    (haction : ∀ place, action.place? settings = some place → places place) (state : RunState) :
    ((action.apply host settings state).run world).1 =
        ((action.apply host settings state).run world').1 ∧
      (shelf ((action.apply host settings state).run world).2).Agree places
        (shelf ((action.apply host settings state).run world').2) := by
  cases action with
  | save text =>
    obtain ⟨after, hrun, hafter⟩ := hshelf.run_apply_save settings state world text
    obtain ⟨after', hrun', hafter'⟩ := hshelf.run_apply_save settings state world' text
    rw [hrun, hrun']
    refine ⟨rfl, ?_⟩
    dsimp only
    rw [hafter, hafter']
    exact hplaces.insert (haction _ rfl) state.active
  | load source =>
    have hfetch := source.fetch_agree hshelf hsteady hview hplaces haction
    rw [hshelf.shelf_apply settings state world (by simp),
      hshelf.shelf_apply settings state world' (by simp), run_apply_load, run_apply_load]
    refine ⟨?_, hplaces⟩
    rcases hrun : (source.fetch host settings).run world with ⟨result, after⟩
    rcases hrun' : (source.fetch host settings).run world' with ⟨result', after'⟩
    rw [hrun, hrun'] at hfetch
    cases hfetch
    cases result <;> rfl
  | _ =>
    rw [run_apply_inside _ _ _ _ rfl, run_apply_inside _ _ _ _ rfl]
    exact ⟨rfl, hplaces⟩

end Steps

/-! ## Turns -/

/-- A run between two of its turns. -/
structure Run where
  state : RunState
  /-- The number of turns that it has had; the next one is for the action at this place. -/
  turns : Nat
  error : Option RunError

namespace Run

/-- A run before its first turn.  The check beforehand looks at nothing but the program and the
scopes of the run. -/
def start (settings : Settings) (program : Program) (state : RunState) : Run :=
  ⟨state, 0, program.fault? settings state.scopes⟩

/-- The run has failed or has come to the end of its program. -/
def Ended (program : Program) (run : Run) : Prop :=
  run.error ≠ none ∨ program.length ≤ run.turns

/-- A run has ended, or its next turn is for an action. -/
theorem ended_or (program : Program) (run : Run) :
    run.Ended program ∨ run.error = none ∧ ∃ action, program[run.turns]? = some action := by
  by_cases herror : run.error = none
  · rcases Nat.lt_or_ge run.turns program.length with hturns | hturns
    · exact .inr ⟨herror, program[run.turns], List.getElem?_eq_getElem hturns⟩
    · exact .inl (.inr hturns)
  · exact .inl (.inl herror)

/-- One turn: the next action, and nothing once the run has ended. -/
def step [RegexLibrary] (host : Host σ) (settings : Settings) (program : Program) (run : Run)
    (world : σ) : Run × σ :=
  match run.error, program[run.turns]? with
  | none, some action =>
    match (action.apply host settings run.state).run world with
    | (.ok next, after) => (⟨next, run.turns + 1, none⟩, after)
    | (.error cause, after) =>
      (⟨run.state, run.turns + 1, some (.ofStep run.turns action cause)⟩, after)
  | error, _ => (⟨run.state, run.turns + 1, error⟩, world)

/-- The run alone after a number of turns. -/
def ofPoint (outcome : Outcome σ) (turns : Nat) : Run := ⟨outcome.state, turns, outcome.error⟩

section Turns

variable [RegexLibrary]
variable {host : Host σ} {settings : Settings} {program : Program} {run : Run} {world : σ}

theorem step_of_ended (h : run.Ended program) :
    run.step host settings program world = (⟨run.state, run.turns + 1, run.error⟩, world) := by
  unfold step
  split
  · rename_i action herror hget
    rcases h with h | h
    · exact absurd herror h
    · rw [List.getElem?_eq_none h] at hget
      cases hget
  · rfl

theorem step_of_getElem? {action : Action} (herror : run.error = none)
    (hget : program[run.turns]? = some action) :
    run.step host settings program world =
      match (action.apply host settings run.state).run world with
      | (.ok next, after) => (⟨next, run.turns + 1, none⟩, after)
      | (.error cause, after) =>
        (⟨run.state, run.turns + 1, some (.ofStep run.turns action cause)⟩, after) := by
  unfold step
  rw [herror, hget]

/-- The world after a turn is the one before it or the one after an action of the program. -/
theorem world_step (host : Host σ) (settings : Settings) (program : Program) (run : Run)
    (world : σ) :
    (run.step host settings program world).2 = world ∨
      ∃ action ∈ program, (run.step host settings program world).2 =
        ((action.apply host settings run.state).run world).2 := by
  rcases run.ended_or program with hended | ⟨herror, action, hget⟩
  · rw [step_of_ended hended]
    exact .inl rfl
  · refine .inr ⟨action, List.mem_of_getElem? hget, ?_⟩
    rw [step_of_getElem? herror hget]
    rcases (action.apply host settings run.state).run world with ⟨_ | _, _⟩ <;> rfl

/-- A turn leaves every place to which the program does not save. -/
theorem getElem?_places_step {shelf : σ → Shelf} (h : host.OnShelf shelf) {place : Place}
    (hplace : ¬ program.SavesTo settings place) :
    (shelf (run.step host settings program world).2).places[place]? =
      (shelf world).places[place]? := by
  rcases world_step host settings program run world with hworld | ⟨action, haction, hworld⟩
  · rw [hworld]
  · rw [hworld]
    exact h.getElem?_places_apply fun hsave => hplace ⟨action, haction, hsave⟩

/-- A turn leaves what settles the answers to queries. -/
theorem view_step {view : σ → ν} (h : host.Steady view) :
    view (run.step host settings program world).2 = view world := by
  rcases world_step host settings program run world with hworld | ⟨action, -, hworld⟩
  · rw [hworld]
  · rw [hworld]
    exact (h.preserves (view world)).apply settings rfl run.state action

/-- A turn in a world that the run cannot tell from its own takes it where it gets alone. -/
theorem step_agree {shelf : σ → Shelf} {view : σ → ν} (hshelf : host.OnShelf shelf)
    (hsteady : host.Steady view) {places : Place → Prop} {state : RunState} {current : σ}
    {turns : Nat}
    (hview : view current = view (program.point host settings state world turns).world)
    (hplaces : (shelf current).Agree places
      (shelf (program.point host settings state world turns).world))
    (hprogram : ∀ action ∈ program, ∀ place, action.place? settings = some place → places place) :
    let before := ofPoint (program.point host settings state world turns) turns
    let after := program.point host settings state world (turns + 1)
    (before.step host settings program current).1 = ofPoint after (turns + 1) ∧
      (shelf (before.step host settings program current).2).Agree places (shelf after.world) := by
  dsimp only
  rcases (ofPoint (program.point host settings state world turns) turns).ended_or program with
    hended | ⟨herror, action, hget⟩
  · rw [step_of_ended hended, Program.point_succ_of_ended hended]
    exact ⟨rfl, hplaces⟩
  · have hget : program[turns]? = some action := hget
    obtain ⟨hresult, hagree⟩ := Action.run_apply_agree hshelf hsteady hview hplaces
      (hprogram action (List.mem_of_getElem? hget))
      (program.point host settings state world turns).state
    rw [step_of_getElem? herror hget, Program.point_succ hget herror]
    dsimp only [ofPoint]
    generalize (action.apply host settings _).run current = mine at hresult hagree ⊢
    generalize (action.apply host settings _).run _ = alone at hresult hagree ⊢
    obtain ⟨result, after⟩ := mine
    obtain ⟨result', after'⟩ := alone
    cases hresult
    cases result with
    | error cause => exact ⟨rfl, hagree⟩
    | ok next => exact ⟨rfl, hagree⟩

end Turns

end Run

/-! ## Schedules -/

/-- Several runs and the world that they share. -/
structure Shared (ι σ : Type) where
  runs : ι → Run
  world : σ

namespace Shared

section Schedules

variable [RegexLibrary] {ι : Type} (host : Host σ) (settings : Settings) (programs : ι → Program)

/-- All runs before their first turn. -/
def start (states : ι → RunState) (world : σ) : Shared ι σ :=
  ⟨fun i => Run.start settings (programs i) (states i), world⟩

variable [DecidableEq ι]

/-- A turn of one run. -/
def step (shared : Shared ι σ) (i : ι) : Shared ι σ :=
  let turn := (shared.runs i).step host settings (programs i) shared.world
  ⟨Function.update shared.runs i turn.1, turn.2⟩

/-- Turns in the order of a schedule. -/
def play (schedule : List ι) (shared : Shared ι σ) : Shared ι σ :=
  schedule.foldl (step host settings programs) shared

end Schedules

section Follows

variable [RegexLibrary] {ι : Type} {host : Host σ} {shelf : σ → Shelf} {view : σ → ν}
  {settings : Settings} {programs : ι → Program} {states : ι → RunState} {world : σ}

/-- No other program than the one of a run saves to the place. -/
def Own (settings : Settings) (programs : ι → Program) (i : ι) (place : Place) : Prop :=
  ∀ j, j ≠ i → ¬ (programs j).SavesTo settings place

/-- Every run has got as far as alone in as many turns: its tables and its error are the same, and
so are the places to which no other run saves.  Places to which no run saves are as at the start,
and so is what settles the answers to queries. -/
structure Follows (host : Host σ) (shelf : σ → Shelf) (view : σ → ν) (settings : Settings)
    (programs : ι → Program) (states : ι → RunState) (world : σ) (turns : ι → Nat)
    (shared : Shared ι σ) : Prop where
  run : ∀ i, shared.runs i =
    Run.ofPoint ((programs i).point host settings (states i) world (turns i)) (turns i)
  own : ∀ i, (shelf shared.world).Agree (Own settings programs i)
    (shelf ((programs i).point host settings (states i) world (turns i)).world)
  idle : (shelf shared.world).Agree (fun place => ∀ i, ¬ (programs i).SavesTo settings place)
    (shelf world)
  view : view shared.world = view world

theorem follows_start :
    Follows host shelf view settings programs states world (fun _ => 0)
      (start settings programs states world) where
  run i := by
    rw [Program.point_zero]
    rfl
  own i := by
    rw [Program.point_zero]
    exact fun _ _ => rfl
  idle _ _ := rfl
  view := rfl

/-- Once all runs have ended the shelf is settled: a place holds what the run alone leaves there
that saves to it, or what it held at the start. -/
theorem Follows.shelf_eq (hapart : ∀ i j, i ≠ j → (programs i).Apart settings (programs j))
    {turns turns' : ι → Nat} {shared shared' : Shared ι σ}
    (h : Follows host shelf view settings programs states world turns shared)
    (h' : Follows host shelf view settings programs states world turns' shared')
    (hended : ∀ i, (shared.runs i).Ended (programs i))
    (hended' : ∀ i, (shared'.runs i).Ended (programs i)) :
    shelf shared.world = shelf shared'.world := by
  refine Shelf.Agree.eq ?_
  intro place _
  by_cases hsaved : ∃ i, (programs i).SavesTo settings place
  · -- only one program saves to the place, and its run has ended as it does alone
    obtain ⟨i, hi⟩ := hsaved
    have hown : Own settings programs i place := by
      rintro j hj ⟨action, haction, hsave⟩
      exact (hapart i j (Ne.symm hj)).not_savesTo haction (Action.place?_of_savePlace? hsave) hi
    rw [h.own i place hown, h'.own i place hown]
    have hi := hended i
    have hi' := hended' i
    rw [h.run i] at hi
    rw [h'.run i] at hi'
    rw [Program.point_eq_execute hi, Program.point_eq_execute hi']
  · rw [h.idle place (not_exists.1 hsaved), h'.idle place (not_exists.1 hsaved)]

variable [DecidableEq ι]

/-- A turn of one run takes this run on and leaves the others where they are. -/
theorem Follows.step (hshelf : host.OnShelf shelf) (hsteady : host.Steady view)
    (hapart : ∀ i j, i ≠ j → (programs i).Apart settings (programs j)) {turns : ι → Nat}
    {shared : Shared ι σ}
    (h : Follows host shelf view settings programs states world turns shared) (i : ι) :
    Follows host shelf view settings programs states world
      (Function.update turns i (turns i + 1)) (shared.step host settings programs i) := by
  have hview : view shared.world =
      view ((programs i).point host settings (states i) world (turns i)).world := by
    rw [h.view]
    exact (Program.inv_point (hsteady.preserves (view world)) rfl).symm
  -- what this run loads and saves, no other run saves to
  have hprogram : ∀ action ∈ programs i, ∀ place, action.place? settings = some place →
      Own settings programs i place :=
    fun action haction place hplace j hj => (hapart j i hj).not_savesTo haction hplace
  obtain ⟨hrun, hown⟩ := Run.step_agree hshelf hsteady hview (h.own i) hprogram
  rw [← h.run i] at hrun hown
  constructor
  · intro j
    by_cases hj : j = i
    · subst hj
      simp only [Shared.step, Function.update_self]
      exact hrun
    · simp only [Shared.step, Function.update_of_ne hj]
      exact h.run j
  · intro j place hplace
    by_cases hj : j = i
    · subst hj
      rw [Function.update_self]
      exact hown place hplace
    · rw [Function.update_of_ne hj]
      exact (Run.getElem?_places_step hshelf (hplace i (Ne.symm hj))).trans (h.own j place hplace)
  · intro place hplace
    exact (Run.getElem?_places_step hshelf (hplace i)).trans (h.idle place hplace)
  · exact (Run.view_step hsteady).trans h.view

/-- Over a schedule each run has as many turns as the schedule gives it. -/
theorem Follows.play (hshelf : host.OnShelf shelf) (hsteady : host.Steady view)
    (hapart : ∀ i j, i ≠ j → (programs i).Apart settings (programs j)) {turns : ι → Nat}
    {shared : Shared ι σ} (schedule : List ι)
    (h : Follows host shelf view settings programs states world turns shared) :
    Follows host shelf view settings programs states world
      (fun i => turns i + schedule.count i) (shared.play host settings programs schedule) := by
  induction schedule generalizing turns shared with
  | nil => exact h
  | cons i schedule ih =>
    have hcounts : (fun j => Function.update turns i (turns i + 1) j + schedule.count j) =
        fun j => turns j + (i :: schedule).count j := by
      funext j
      by_cases hj : j = i
      · subst hj
        rw [Function.update_self, List.count_cons_self]
        omega
      · rw [Function.update_of_ne hj, List.count_cons_of_ne (Ne.symm hj)]
    have hrest := ih (h.step hshelf hsteady hapart i)
    rw [hcounts] at hrest
    exact hrest

/-- After a schedule each run has got as far as alone in the turns that it has had. -/
theorem follows_play (hshelf : host.OnShelf shelf) (hsteady : host.Steady view)
    (hapart : ∀ i j, i ≠ j → (programs i).Apart settings (programs j)) (schedule : List ι) :
    Follows host shelf view settings programs states world (fun i => schedule.count i)
      ((start settings programs states world).play host settings programs schedule) := by
  have hstart : Follows host shelf view settings programs states world (fun _ => 0)
      (start settings programs states world) := follows_start
  simpa using hstart.play hshelf hsteady hapart schedule

/-- Runs that share a host do not disturb each other, as long as none saves to a place which another
one saves to or loads from.  However their turns fall, a run that has ended has the tables and the
error of its run alone, the shelf is the same whenever all of them have ended, and a run has ended
once it has had as many turns as it has actions. -/
theorem play_apart (hshelf : host.OnShelf shelf) (hsteady : host.Steady view) (settings : Settings)
    (programs : ι → Program) (states : ι → RunState) (world : σ)
    (hapart : ∀ i j, i ≠ j → (programs i).Apart settings (programs j)) :
    let after := fun schedule =>
      (start settings programs states world).play host settings programs schedule
    (∀ schedule i, ((after schedule).runs i).Ended (programs i) →
      let alone := (programs i).execute host settings (states i) world
      ((after schedule).runs i).state = alone.state ∧
        ((after schedule).runs i).error = alone.error) ∧
    (∀ schedule schedule', (∀ i, ((after schedule).runs i).Ended (programs i)) →
      (∀ i, ((after schedule').runs i).Ended (programs i)) →
      shelf (after schedule).world = shelf (after schedule').world) ∧
    ∀ schedule i, (programs i).length ≤ schedule.count i →
      ((after schedule).runs i).Ended (programs i) := by
  intro after
  have hfollows : ∀ schedule, Follows host shelf view settings programs states world
      (fun i => schedule.count i) (after schedule) := follows_play hshelf hsteady hapart
  refine ⟨?_, ?_, ?_⟩
  · intro schedule i hended
    rw [(hfollows schedule).run i] at hended ⊢
    rw [Program.point_eq_execute hended]
    exact ⟨rfl, rfl⟩
  · intro schedule schedule' hended hended'
    exact (hfollows schedule).shelf_eq hapart (hfollows schedule') hended hended'
  · intro schedule i hturns
    rw [(hfollows schedule).run i]
    exact .inr hturns

end Follows

/-- One run copies a file while another one saves and then fails for want of a file: the one that
fails does so in the same way after the turns of the other one as alone, and the files are the same
as when it has its turns first. -/
theorem play_apart_of_failure :
    let host := World.host .shelf .unavailable
    let programs : Bool → Program
      | true => [.load (.file "cases.csv"), .save "copy.csv"]
      | false => [.save "notes.csv", .load (.file "gone.csv")]
    let world : World := ⟨⟨∅, []⟩, Shelf.empty.insert ⟨"cases.csv"⟩ Table.blank, []⟩
    let before := start {} programs (fun _ => RunState.empty) world
    let first := before.play host {} programs [true, true, false, false]
    let second := before.play host {} programs [false, true, false, true]
    host.OnShelf World.shelf ∧ host.Steady World.disk ∧
      (∀ i j, i ≠ j → (programs i).Apart {} (programs j)) ∧
      (first.runs false).error = ((programs false).execute host {} .empty world).error ∧
      (first.runs false).error ≠ none ∧
      first.world.shelf = second.world.shelf := by
  intro host programs world before first second
  have hshelf : host.OnShelf World.shelf := World.host_onShelf .unavailable
  have hsteady : host.Steady World.disk := World.host_steady .unavailable
  have hapart : ∀ i j, i ≠ j → (programs i).Apart {} (programs j) := by decide
  obtain ⟨halone, hsame, hturns⟩ :=
    play_apart hshelf hsteady {} programs (fun _ => .empty) world hapart
  have hfirst : ∀ i, (first.runs i).Ended (programs i) := by
    intro i
    exact hturns [true, true, false, false] i (by cases i <;> decide)
  have hsecond : ∀ i, (second.runs i).Ended (programs i) := by
    intro i
    exact hturns [false, true, false, true] i (by cases i <;> decide)
  refine ⟨hshelf, hsteady, hapart, (halone _ false (hfirst false)).2, ?_, hsame _ _ hfirst hsecond⟩
  rw [(halone _ false (hfirst false)).2]
  decide

end Shared

end CaseScript
