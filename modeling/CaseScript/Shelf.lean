import CaseScript.Path
import CaseScript.Source.Error
import CaseScript.Table.Basic
import Std.Data.ExtTreeMap.Lemmas

/-!
# Shelves

A shelf keeps tables in memory under paths.  Two spellings with the same components are one place,
and a place keeps the spelling under which it was filled first.

* `getElem?_places_insert` and `get?_insert`: filling a place changes no other one.
-/

namespace CaseScript

/-- Tables by the components of their paths, each with its first spelling. -/
structure Shelf where
  places : Std.ExtTreeMap (List Path.Component) (Path × Table)

namespace Shelf

/-- No table at all. -/
def empty : Shelf := ⟨∅⟩

/-- The table at a path. -/
def get? (shelf : Shelf) (path : Path) : Option Table :=
  (shelf.places[path.components]?).map (·.2)

/-- The table at a path that has to be filled. -/
def read (shelf : Shelf) (path : Path) : Except SourceError Table :=
  match shelf.get? path with
  | some table => .ok table
  | none => .error (.readFailed path.text "no such file")

/-- The shelf with a table at a path in place of what was there. -/
def insert (shelf : Shelf) (path : Path) (table : Table) : Shelf :=
  let spelling := match shelf.places[path.components]? with
    | some (spelling, _) => spelling
    | none => path
  ⟨shelf.places.insert path.components (spelling, table)⟩

/-- The paths in order, each with its table. -/
def toList (shelf : Shelf) : List (Path × Table) := shelf.places.toList.map (·.2)

/-- The shelf that a list fills from front to back. -/
def ofList (entries : List (Path × Table)) : Shelf :=
  entries.foldl (fun shelf entry => shelf.insert entry.1 entry.2) empty

theorem getElem?_places_insert (shelf : Shelf) (path : Path) (table : Table)
    (place : List Path.Component) :
    (shelf.insert path table).places[place]? =
      if path.components = place then
        some (((shelf.places[path.components]?).map (·.1)).getD path, table)
      else shelf.places[place]? := by
  have hspelling : (match shelf.places[path.components]? with
      | some (spelling, _) => spelling
      | none => path) = ((shelf.places[path.components]?).map (·.1)).getD path := by
    cases shelf.places[path.components]? <;> rfl
  simp only [insert, Std.ExtTreeMap.getElem?_insert, Std.LawfulEqCmp.compare_eq_iff_eq, hspelling]

theorem get?_insert (shelf : Shelf) (path other : Path) (table : Table) :
    (shelf.insert path table).get? other =
      if path.components = other.components then some table else shelf.get? other := by
  rw [get?, get?, getElem?_places_insert]
  split <;> rfl

end Shelf

end CaseScript
