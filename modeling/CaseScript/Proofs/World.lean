import CaseScript.Proofs.Csv.RoundTrip
import CaseScript.Proofs.Run.Host
import CaseScript.World

/-!
# Worlds keep tables valid

The host over a world in memory gives valid tables: files are checked when they are read, and a
shelf gives what was put on it.

* `World.run_readTable` and the lemmas beside it say what each request does.
* `World.host_keeps`: the host keeps the tables on the shelf valid.
-/

namespace CaseScript

/-- Every table on the shelf is valid. -/
def World.Shelved (world : World) : Prop :=
  ∀ path table, world.shelf.get? path = some table → table.Valid

namespace World

variable {store : TableStore} {service : QueryService}

theorem valid_of_table {path : Path} {world : World} {table : Table} (hworld : world.Shelved)
    (h : world.table store path = .ok table) : table.Valid := by
  cases store with
  | shelf =>
    change world.shelf.read path = .ok table at h
    unfold Shelf.read at h
    split at h
    · rename_i found hfound
      cases h
      exact hworld path _ hfound
    · cases h
  | disk dialect =>
    unfold World.table at h
    dsimp only at h
    split at h
    · exact Csv.Dialect.valid_of_readNamed h
    · cases h

/-- A table that is kept goes to the shelf or into a file, and nothing else changes. -/
theorem eq_of_withTable {path : Path} {world after : World} {table : Table}
    (h : world.withTable store path table = .ok after) :
    after = { world with shelf := world.shelf.insert path table } ∨
      ∃ disk, after = { world with disk } := by
  cases store with
  | shelf =>
    cases h
    exact .inl rfl
  | disk dialect =>
    unfold World.withTable at h
    dsimp only at h
    split at h
    · cases h
    · split at h
      · cases h
        exact .inr ⟨_, rfl⟩
      · cases h

theorem shelved_of_withTable {path : Path} {world after : World} {table : Table}
    (hworld : world.Shelved) (htable : table.Valid)
    (h : world.withTable store path table = .ok after) : after.Shelved := by
  rcases eq_of_withTable h with rfl | ⟨disk, rfl⟩
  · intro other found hfound
    rw [Shelf.get?_insert] at hfound
    split at hfound
    · cases hfound
      exact htable
    · exact hworld other found hfound
  · exact hworld

theorem run_readTable (path : Path) (world : World) :
    ((host store service).readTable path).run world = (world.table store path, world) := by
  show (get >>= fun world => liftExcept (World.table store path world) :
    Effect World SourceError Table).run world = _
  rw [Effect.run_bind]
  exact Effect.run_liftExcept _ _

theorem run_writeTable (path : Path) (table : Table) (world : World) :
    ((host store service).writeTable path table).run world =
      match world.withTable store path table with
      | .ok after => (.ok (), after)
      | .error error => (.error error, world) := by
  show (get >>= fun world => liftExcept (world.withTable store path table) >>= set :
    Effect World SourceError Unit).run world = _
  rw [Effect.run_bind]
  show ((liftExcept (world.withTable store path table) >>= set :
    Effect World SourceError Unit).run world) = _
  rw [Effect.run_bind, Effect.run_liftExcept]
  cases world.withTable store path table <;> rfl

theorem run_readQuery (path : Path) (world : World) :
    ((host store service).readQuery path).run world = (world.query path, world) := by
  show (get >>= fun world => liftExcept (World.query path world) :
    Effect World SourceError String).run world = _
  rw [Effect.run_bind]
  exact Effect.run_liftExcept _ _

theorem run_render (bindings : Bindings) (text : String) (world : World) :
    ((host store service).render bindings text).run world =
      (Template.render bindings text, world) :=
  Effect.run_liftExcept _ _

theorem run_answer (call : QueryCall) (world : World) :
    ((host store service).answer call).run world =
      (service.answer call, { world with calls := service.record world.calls call }) := by
  show (modify (fun world => { world with calls := service.record world.calls call }) >>= fun _ =>
    liftExcept (service.answer call) : Effect World SourceError Table).run world = _
  rw [Effect.run_bind]
  exact Effect.run_liftExcept _ _

/-- A world gives valid tables and keeps its shelf so when its query service answers with valid
ones. -/
theorem host_keeps (store : TableStore)
    (hservice : ∀ call table, service.answer call = .ok table → table.Valid) :
    (host store service).Keeps Shelved where
  readTable path world hworld := by
    rw [run_readTable]
    exact ⟨hworld, fun table h => valid_of_table hworld h⟩
  writeTable path table htable world hworld := by
    rw [run_writeTable]
    refine ⟨?_, fun _ _ => trivial⟩
    split
    · rename_i after hafter
      exact shelved_of_withTable hworld htable hafter
    · exact hworld
  readQuery path world hworld := by
    rw [run_readQuery]
    exact ⟨hworld, fun _ _ => trivial⟩
  render bindings text world hworld := by
    rw [run_render]
    exact ⟨hworld, fun _ _ => trivial⟩
  answer call world hworld := by
    rw [run_answer]
    exact ⟨hworld, hservice call⟩

end World

end CaseScript
