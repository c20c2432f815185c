import CaseScript.Proofs.Run.Point
import CaseScript.Proofs.World

/-!
# Runs on a shelf

A host may keep tables on a shelf.  Then a place on the shelf holds what was active when it was last
saved to, whatever has been done to the tables since, and a load of a file gives what stands at its
place.

There are three groups.

* Hosts.  `Host.OnShelf` says that a host keeps its tables on a shelf, and `World.host_onShelf` that
  a world in memory does so.
* Steps.  `Host.OnShelf.run_apply_save`, `Host.OnShelf.run_apply_load_file` and
  `Host.OnShelf.shelf_apply` say what an action does to the shelf and finds on it.
* Runs.  `Program.SavedAt` picks the saves to a path.  `Program.get?_point_succ_of_saved` and
  `Program.get?_point_succ_of_not_saved` go from point to point, `Program.get?_point_of_saved` and
  `Program.get?_point_of_not_saved` carry them through the run, and `Program.point_onShelf` is the
  result.
-/

namespace CaseScript

variable {σ : Type}

/-! ## Hosts -/

/-- The host keeps its tables on a shelf of its world: files are read and written there, and queries
do not reach it. -/
structure Host.OnShelf (host : Host σ) (shelf : σ → Shelf) : Prop where
  readTable : ∀ path world, (host.readTable path).run world = ((shelf world).read path, world)
  writeTable : ∀ path table world, ∃ after,
    (host.writeTable path table).run world = (.ok (), after) ∧
      shelf after = (shelf world).insert path table
  loads : ∀ files, host.KeepsOnLoad fun world => shelf world = files

theorem World.host_onShelf (service : QueryService) :
    (World.host .shelf service).OnShelf World.shelf where
  readTable path world := by
    rw [run_readTable]
    rfl
  writeTable path table world := by
    refine ⟨{ world with shelf := world.shelf.insert path table }, ?_, rfl⟩
    rw [run_writeTable]
    rfl
  loads files :=
    { readTable := by
        intro path world hworld
        rw [run_readTable]
        exact ⟨hworld, fun _ _ => trivial⟩
      readQuery := by
        intro path world hworld
        rw [run_readQuery]
        exact ⟨hworld, fun _ _ => trivial⟩
      render := by
        intro bindings text world hworld
        rw [run_render]
        exact ⟨hworld, fun _ _ => trivial⟩
      answer := by
        intro call world hworld
        rw [run_answer]
        exact ⟨hworld, fun _ _ => trivial⟩ }

/-! ## Steps -/

section Steps

variable [RegexLibrary]
variable {host : Host σ} {shelf : σ → Shelf} (settings : Settings) (state : RunState) (world : σ)

/-- A save puts the active table on the shelf. -/
theorem Host.OnShelf.run_apply_save (h : host.OnShelf shelf) (text : String) :
    ∃ after, ((Action.save text).apply host settings state).run world = (.ok state, after) ∧
      shelf after = (shelf world).insert (settings.resolve ⟨text⟩) state.active := by
  obtain ⟨after, hrun, hafter⟩ := h.writeTable (settings.resolve ⟨text⟩) state.active world
  refine ⟨after, ?_, hafter⟩
  rw [Action.run_apply_save, hrun]

/-- A load of a file gives the table at its place, and fails in place where there is none. -/
theorem Host.OnShelf.run_apply_load_file (h : host.OnShelf shelf) (text : String) :
    ((Action.load (.file text)).apply host settings state).run world =
      match (shelf world).get? (settings.resolve ⟨text⟩) with
      | some table => (.ok { state with active := table }, world)
      | none =>
        (.error (.source (.readFailed (settings.resolve ⟨text⟩).text "no such file")), world) := by
  have hfetch : ((Source.file text).fetch host settings).run world =
      ((shelf world).read (settings.resolve ⟨text⟩), world) := h.readTable _ world
  rw [Action.run_apply_load, hfetch, Shelf.read]
  cases (shelf world).get? (settings.resolve ⟨text⟩) <;> rfl

/-- No other action than a save changes the shelf. -/
theorem Host.OnShelf.shelf_apply (h : host.OnShelf shelf) {action : Action}
    (hsave : ∀ text, action ≠ .save text) :
    shelf ((action.apply host settings state).run world).2 = shelf world :=
  (h.loads (shelf world)).apply settings rfl state hsave

end Steps

/-! ## Runs -/

namespace Program

section Runs

variable [RegexLibrary]
variable {host : Host σ} {shelf : σ → Shelf} {settings : Settings} {program : Program}
  {state : RunState} {world : σ}

/-- The action at a place has saved to a path. -/
def SavedAt (host : Host σ) (settings : Settings) (program : Program) (state : RunState) (world : σ)
    (path : Path) (place : Nat) : Prop :=
  (program.point host settings state world (place + 1)).error = none ∧
    ∃ text, program[place]? = some (.save text) ∧
      (settings.resolve ⟨text⟩).components = path.components

/-- A save that a run has reached is carried out. -/
theorem point_succ_of_save (h : host.OnShelf shelf) {count : Nat} {text : String}
    (hget : program[count]? = some (.save text))
    (herror : (program.point host settings state world count).error = none) :
    let before := program.point host settings state world count
    let after := program.point host settings state world (count + 1)
    after.state = before.state ∧ after.error = none ∧
      shelf after.world =
        (shelf before.world).insert (settings.resolve ⟨text⟩) before.state.active := by
  obtain ⟨next, hrun, hshelf⟩ := h.run_apply_save settings
    (program.point host settings state world count).state
    (program.point host settings state world count).world text
  dsimp only
  rw [point_succ hget herror]
  dsimp only
  rw [hrun]
  exact ⟨rfl, rfl, hshelf⟩

/-- From one point to the next no other action than a save changes the shelf. -/
theorem shelf_point_succ (h : host.OnShelf shelf) {count : Nat}
    (hsave : ∀ text, program[count]? ≠ some (.save text)) :
    shelf (program.point host settings state world (count + 1)).world =
      shelf (program.point host settings state world count).world := by
  cases hget : program[count]? with
  | none => rw [point_succ_of_getElem?_eq_none hget]
  | some action =>
    cases herror : (program.point host settings state world count).error with
    | some error => rw [point_succ_of_error herror]
    | none =>
      have hother : ∀ text, action ≠ .save text := by
        rintro text rfl
        exact hsave text hget
      have hstep := h.shelf_apply settings (program.point host settings state world count).state
        (program.point host settings state world count).world hother
      rw [point_succ hget herror]
      dsimp only
      rw [← hstep]
      rcases (action.apply host settings _).run _ with ⟨_ | _, _⟩ <;> rfl

/-- A path to which the next action saves holds the active table at the next point, and every other
path holds what it held. -/
theorem get?_point_succ_of_saved (h : host.OnShelf shelf) {count : Nat} {path : Path}
    (hsaved : program.SavedAt host settings state world path count) :
    (shelf (program.point host settings state world (count + 1)).world).get? path =
      some (program.point host settings state world count).state.active := by
  obtain ⟨hdone, text, hget, hpath⟩ := hsaved
  have herror : (program.point host settings state world count).error = none := by
    cases herror : (program.point host settings state world count).error with
    | none => rfl
    | some error =>
      rw [point_succ_of_error herror, herror] at hdone
      cases hdone
  rw [(point_succ_of_save h hget herror).2.2, Shelf.get?_insert, if_pos hpath]

theorem get?_point_succ_of_not_saved (h : host.OnShelf shelf) {count : Nat} {path : Path}
    (hsaved : ¬ program.SavedAt host settings state world path count) :
    (shelf (program.point host settings state world (count + 1)).world).get? path =
      (shelf (program.point host settings state world count).world).get? path := by
  by_cases hsave : ∃ text, program[count]? = some (.save text)
  · obtain ⟨text, hget⟩ := hsave
    cases herror : (program.point host settings state world count).error with
    | some error => rw [point_succ_of_error herror]
    | none =>
      obtain ⟨-, hdone, hshelf⟩ := point_succ_of_save h hget herror
      have hpath : (settings.resolve ⟨text⟩).components ≠ path.components := fun hpath =>
        hsaved ⟨hdone, text, hget, hpath⟩
      rw [hshelf, Shelf.get?_insert, if_neg hpath]
  · rw [shelf_point_succ h (not_exists.1 hsave)]

/-- A path to which the run has not saved yet holds what it held at the start. -/
theorem get?_point_of_not_saved (h : host.OnShelf shelf) {count : Nat} {path : Path}
    (hsaved : ∀ place, place < count → ¬ program.SavedAt host settings state world path place) :
    (shelf (program.point host settings state world count).world).get? path =
      (shelf world).get? path := by
  induction count with
  | zero => rw [point_zero]
  | succ count ih =>
    rw [get?_point_succ_of_not_saved h (hsaved count (Nat.lt_succ_self count))]
    exact ih fun place hplace => hsaved place (Nat.lt_succ_of_lt hplace)

/-- A path holds what was active at the last save to it. -/
theorem get?_point_of_saved (h : host.OnShelf shelf) {count place : Nat} {path : Path}
    (hplace : place < count) (hsaved : program.SavedAt host settings state world path place)
    (hlast : ∀ later, place < later → later < count →
      ¬ program.SavedAt host settings state world path later) :
    (shelf (program.point host settings state world count).world).get? path =
      some (program.point host settings state world place).state.active := by
  induction count with
  | zero => cases hplace
  | succ count ih =>
    rcases Nat.lt_succ_iff_lt_or_eq.1 hplace with hbefore | rfl
    · rw [get?_point_succ_of_not_saved h (hlast count hbefore (Nat.lt_succ_self count))]
      refine ih hbefore ?_
      intro later hlater hcount
      exact hlast later hlater (Nat.lt_succ_of_lt hcount)
    · exact get?_point_succ_of_saved h hsaved

/-- A load of a file that a run has reached. -/
theorem point_succ_of_load_file (h : host.OnShelf shelf) {count : Nat} {text : String}
    (hget : program[count]? = some (.load (.file text)))
    (herror : (program.point host settings state world count).error = none) :
    program.point host settings state world (count + 1) =
      let before := program.point host settings state world count
      match (shelf before.world).get? (settings.resolve ⟨text⟩) with
      | some table => ⟨{ before.state with active := table }, before.world, none⟩
      | none => ⟨before.state, before.world,
          some (.ofStep count (.load (.file text))
            (.source (.readFailed (settings.resolve ⟨text⟩).text "no such file")))⟩ := by
  rw [point_succ hget herror]
  dsimp only
  rw [h.run_apply_load_file]
  cases (shelf (program.point host settings state world count).world).get?
    (settings.resolve ⟨text⟩) <;> rfl

/-- Saved files are read back as they were last saved.  At every point of a run on a shelf a path
holds the table that was active at the last save to it, under whatever spelling, and what it held at
the start where there was none.  A load of a file makes active what its path holds, and where that
is nothing it fails and changes nothing.  No action but a save changes the shelf.  The last of the
points is the end of the run. -/
theorem point_onShelf (h : host.OnShelf shelf) (settings : Settings) (program : Program)
    (state : RunState) (world : σ) :
    let point := program.point host settings state world
    let saved := program.SavedAt host settings state world
    (∀ count place path, place < count → saved path place →
      (∀ later, place < later → later < count → ¬ saved path later) →
      (shelf (point count).world).get? path = some (point place).state.active) ∧
    (∀ count path, (∀ place, place < count → ¬ saved path place) →
      (shelf (point count).world).get? path = (shelf world).get? path) ∧
    (∀ count text, program[count]? = some (.load (.file text)) → (point count).error = none →
      point (count + 1) =
        match (shelf (point count).world).get? (settings.resolve ⟨text⟩) with
        | some table => ⟨{ (point count).state with active := table }, (point count).world, none⟩
        | none => ⟨(point count).state, (point count).world,
            some (.ofStep count (.load (.file text))
              (.source (.readFailed (settings.resolve ⟨text⟩).text "no such file")))⟩) ∧
    (∀ count, (∀ text, program[count]? ≠ some (.save text)) →
      shelf (point (count + 1)).world = shelf (point count).world) ∧
    point program.length = program.execute host settings state world := by
  intro point saved
  refine ⟨?_, ?_, ?_, ?_, ?_⟩
  · intro count place path hplace hsaved hlast
    exact get?_point_of_saved h hplace hsaved hlast
  · intro count path hsaved
    exact get?_point_of_not_saved h hsaved
  · intro count text hget herror
    exact point_succ_of_load_file h hget herror
  · intro count hsave
    exact shelf_point_succ h hsave
  · exact point_of_length_le (Nat.le_refl _)

end Runs

/-- A table is saved, edited and loaded again under another spelling of its path: the load brings
back the table as it was saved. -/
theorem point_onShelf_of_two_spellings :
    let host := World.host .shelf .unavailable
    let settings : Settings := { base := some ⟨"/data"⟩ }
    let program : Program :=
      [.save "cases.csv", .add "state" none, .load (.file "/data/./cases.csv")]
    let world : World := ⟨⟨∅, []⟩, .empty, []⟩
    let point := program.point host settings .empty world
    host.OnShelf World.shelf ∧
      (point 2).state.active ≠ Table.blank ∧
      (World.shelf (point 2).world).get? ⟨"/data/./cases.csv"⟩ = some Table.blank ∧
      point 3 = ⟨{ (point 2).state with active := Table.blank }, (point 2).world, none⟩ := by
  intro host settings program world point
  have hhost : host.OnShelf World.shelf := World.host_onShelf .unavailable
  obtain ⟨hsaved, -, hload, -, -⟩ := point_onShelf hhost settings program .empty world
  have hfound : (World.shelf (point 2).world).get? ⟨"/data/./cases.csv"⟩ = some Table.blank := by
    refine hsaved 2 0 _ (by decide) ⟨rfl, "cases.csv", rfl, by decide⟩ ?_
    rintro later hlater hcount ⟨-, text, hget, -⟩
    obtain rfl : later = 1 := by omega
    cases hget
  refine ⟨hhost, by decide, hfound, ?_⟩
  have hlast := hload 2 "/data/./cases.csv" rfl rfl
  have hpath : settings.resolve ⟨"/data/./cases.csv"⟩ = ⟨"/data/./cases.csv"⟩ := by decide
  rw [hpath, hfound] at hlast
  exact hlast

end Program

end CaseScript
