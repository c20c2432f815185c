import CaseScript.Csv.File
import CaseScript.Disk
import CaseScript.Run.Host
import CaseScript.Shelf

/-!
# Worlds

The outside of a run in memory: a disk, a shelf and a record of query calls.  Tables are files on
the disk in a dialect, or stand on the shelf; queries are files on the disk.
-/

namespace CaseScript

/-- The state of the outside. -/
structure World where
  disk : Disk
  shelf : Shelf
  /-- The recorded calls, the first one first. -/
  calls : List QueryCall

/-- Where tables are kept. -/
inductive TableStore where
  /-- In files, as delimited text. -/
  | disk (dialect : Csv.Dialect)
  | shelf

namespace World

/-- The table at a path. -/
def table (store : TableStore) (path : Path) (world : World) : Except SourceError Table :=
  match store with
  | .shelf => world.shelf.read path
  | .disk dialect =>
    match world.disk.read path with
    | .ok bytes => dialect.readNamed path.text bytes
    | .error fault => .error (.readFailed path.text fault.message)

/-- The world with a table at a path. -/
def withTable (store : TableStore) (path : Path) (table : Table) (world : World) :
    Except SourceError World :=
  match store with
  | .shelf => .ok { world with shelf := world.shelf.insert path table }
  | .disk dialect =>
    match dialect.writeNamed path.text table with
    | .error error => .error error
    | .ok bytes =>
      match world.disk.write path bytes with
      | .ok disk => .ok { world with disk }
      | .error fault => .error (.writeFailed path.text fault.message)

/-- The query in a file. -/
def query (path : Path) (world : World) : Except SourceError String :=
  (world.disk.readText path).mapError fun fault => .readFailed path.text fault.message

/-- The host over a world with a store of tables and a query service. -/
def host (store : TableStore) (service : QueryService) : Host World where
  readTable path := do liftExcept ((← get).table store path)
  writeTable path table := do
    let world ← liftExcept ((← get).withTable store path table)
    set world
  readQuery path := do liftExcept ((← get).query path)
  render bindings template := liftExcept (Template.render bindings template)
  answer call := do
    modify fun world => { world with calls := service.record world.calls call }
    liftExcept (service.answer call)

end World

end CaseScript
