import CaseScript.Table.Basic
import Std.Data.ExtTreeMap.Lemmas

/-!
# Scopes

Scopes are tables stored under names.  Names are compared exactly, and storing under a taken name
replaces what was there.  A stored table does not follow later changes of the table it came from.

* `get?_insert` and `contains_insert`: storing changes one name only.
* `get_of_contains` and `get_of_not_contains`: a look-up fails exactly on a name that is not taken.
-/

namespace CaseScript

/-- Tables stored under names. -/
structure Scopes where
  tables : Std.ExtTreeMap String Table
  deriving DecidableEq

namespace Scopes

/-- No scope at all. -/
def empty : Scopes := ⟨∅⟩

instance : Inhabited Scopes := ⟨empty⟩

/-- The table stored under a name. -/
def get? (scopes : Scopes) (name : String) : Option Table := scopes.tables[name]?

/-- The table stored under a name that has to be taken. -/
def get (scopes : Scopes) (name : String) : Except TableError Table :=
  match scopes.get? name with
  | some table => .ok table
  | none => .error (.scopeNotFound name)

/-- The name is taken. -/
def contains (scopes : Scopes) (name : String) : Bool := scopes.tables.contains name

/-- The scopes with a table stored under a name. -/
def insert (scopes : Scopes) (name : String) (table : Table) : Scopes :=
  ⟨scopes.tables.insert name table⟩

/-- The scopes with a stored table stored under a second name. -/
def copy (scopes : Scopes) (source target : String) : Except TableError Scopes := do
  return scopes.insert target (← scopes.get source)

/-- The names in ascending order. -/
def names (scopes : Scopes) : List String := scopes.tables.keys

/-- The number of scopes. -/
def size (scopes : Scopes) : Nat := scopes.tables.size

/-- The names in ascending order, each with its table. -/
def toList (scopes : Scopes) : List (String × Table) := scopes.tables.toList

/-- The scopes that a list names; of two entries under one name the later counts. -/
def ofList (entries : List (String × Table)) : Scopes :=
  entries.foldl (fun scopes entry => scopes.insert entry.1 entry.2) empty

theorem get?_insert (scopes : Scopes) (name other : String) (table : Table) :
    (scopes.insert name table).get? other =
      if name = other then some table else scopes.get? other := by
  simp only [get?, insert, Std.ExtTreeMap.getElem?_insert, Std.LawfulEqCmp.compare_eq_iff_eq]

theorem contains_eq_isSome_get? (scopes : Scopes) (name : String) :
    scopes.contains name = (scopes.get? name).isSome :=
  Std.ExtTreeMap.contains_eq_isSome_getElem?

theorem contains_insert (scopes : Scopes) (name other : String) (table : Table) :
    (scopes.insert name table).contains other = (name == other || scopes.contains other) := by
  simp only [contains_eq_isSome_get?, get?_insert]
  by_cases h : name = other <;> simp [h]

theorem contains_names (scopes : Scopes) (name : String) :
    scopes.names.contains name = scopes.contains name :=
  Std.ExtTreeMap.contains_keys

theorem get_eq_ok_iff {scopes : Scopes} {name : String} {table : Table} :
    scopes.get name = .ok table ↔ scopes.get? name = some table := by
  unfold get
  cases scopes.get? name <;> simp

theorem get_of_not_contains {scopes : Scopes} {name : String} (h : scopes.contains name = false) :
    scopes.get name = .error (.scopeNotFound name) := by
  rw [contains_eq_isSome_get?, Option.isSome_eq_false_iff, Option.isNone_iff_eq_none] at h
  rw [get, h]

theorem get_of_contains {scopes : Scopes} {name : String} (h : scopes.contains name = true) :
    ∃ table, scopes.get name = .ok table := by
  rw [contains_eq_isSome_get?] at h
  obtain ⟨table, h⟩ := Option.isSome_iff_exists.1 h
  exact ⟨table, get_eq_ok_iff.2 h⟩

end Scopes

end CaseScript
