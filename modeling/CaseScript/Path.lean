/-!
# Paths

A path is text in which slashes separate segments.  Nothing is resolved when paths are put together:
the text of a path stays as it was spelled.

Two spellings name the same file when they have the same components.  Empty segments count only as
the root in front, and a segment `.` counts only in front of all others.

* `Path.components` and the order of components.
* `Path.parent?`: the text up to the last component.
* `Path.join`: a path taken from a directory.
-/

namespace CaseScript

/-- A path as it is spelled. -/
structure Path where
  text : String
  deriving DecidableEq, Repr

/-- The texts between slashes; there is at least one. -/
def splitSlashes : List Char → List (List Char)
  | [] => [[]]
  | c :: cs =>
    if c == '/' then [] :: splitSlashes cs
    else match splitSlashes cs with
      | [] => [[c]]
      | segment :: segments => (c :: segment) :: segments

namespace Path

/-- The texts between the slashes of a path. -/
def segments (path : Path) : List String := (splitSlashes path.text.toList).map String.ofList

/-- The path starts at the root. -/
def isAbsolute (path : Path) : Bool := path.text.toList.head? == some '/'

/-- What a path names step by step. -/
inductive Component where
  | root
  /-- A dot in front of the path. -/
  | here
  /-- Two dots. -/
  | up
  | name (text : String)
  deriving DecidableEq, Repr

namespace Component

/-- The place of the kind of a component in the order of paths. -/
def rank : Component → Nat
  | root => 0
  | here => 1
  | up => 2
  | name _ => 3

/-- The text of a name, empty for every other component. -/
def label : Component → String
  | name text => text
  | _ => ""

theorem eq_of_rank_of_label {a b : Component} (hr : a.rank = b.rank) (hl : a.label = b.label) :
    a = b := by
  cases a <;> cases b <;> simp_all [rank, label]

/-- The root comes first, then a leading dot, then two dots, then names by their text. -/
instance : Ord Component := ⟨compareLex (compareOn rank) (compareOn label)⟩

instance : Std.TransOrd Component :=
  inferInstanceAs (Std.TransCmp (compareLex (compareOn rank) (compareOn label)))

instance : Std.LawfulEqOrd Component where
  eq_of_compare {a b} h := by
    have h : compareLex (compareOn rank) (compareOn label) a b = .eq := h
    simp only [compareLex_eq_eq, compareOn, Std.LawfulEqCmp.compare_eq_iff_eq] at h
    exact eq_of_rank_of_label h.1 h.2

/-- The component of a segment that is not the first one. -/
def ofSegment? (segment : String) : Option Component :=
  if segment == "" || segment == "." then none
  else if segment == ".." then some up
  else some (name segment)

/-- The component of the first segment. -/
def ofFirst? (path : Path) (segment : String) : Option Component :=
  if path.isAbsolute then some root
  else if segment == "." then some here
  else ofSegment? segment

end Component

/-- The components of a path. -/
def components (path : Path) : List Component :=
  match path.segments with
  | [] => []
  | first :: rest =>
    (Component.ofFirst? path first).toList ++ rest.filterMap Component.ofSegment?

/-- Segments, the last one first, without those in front that count for nothing.  The first segment
of the path stays. -/
def dropIdle : List String → List String
  | [] => []
  | [first] => [first]
  | segment :: rest =>
    if (Component.ofSegment? segment).isNone then dropIdle rest else segment :: rest

/-- The path without its last component; nothing for the root and the empty path. -/
def parent? (path : Path) : Option Path :=
  match dropIdle path.segments.reverse with
  | [] => none
  | [first] => if first == "" then none else some ⟨""⟩
  | _ :: outer =>
    let kept := dropIdle outer
    some ⟨if kept == [""] then "/" else "/".intercalate kept.reverse⟩

/-- The path taken from a directory; an absolute path does not depend on it. -/
def join (directory path : Path) : Path :=
  if path.isAbsolute then path
  else if directory.text.toList.getLast?.all (· == '/') then ⟨directory.text ++ path.text⟩
  else ⟨directory.text ++ "/" ++ path.text⟩

end Path

end CaseScript
