import CaseScript.Json.Basic

/-!
# Decoding JSON

What a domain type needs to be read off a JSON value.  A record is given as an object, or as an
array of its members in order.  A choice is given as an object with one member, or as a text where
nothing belongs to the chosen case.

* `members?` takes a record apart: no member that counts is repeated, no name is unreadable.
* `choice?` names the chosen case and gives what belongs to it.
-/

namespace CaseScript.Json

/-- The members of a record. -/
structure Shape where
  /-- The names of the members in order. -/
  names : List String
  /-- Every member may be left out, at the end when given as an array, and no other member may be
  there. -/
  partialAndClosed : Bool

/-- A record whose members all count and that may hold others. -/
def Shape.ofNames (names : List String) : Shape := ⟨names, false⟩

/-- A text. -/
def text? : Json → Option String
  | text value => value
  | _ => none

/-- A truth value. -/
def boolean? : Json → Option Bool
  | boolean value => some value
  | _ => none

/-- A number of 64 bits without sign. -/
def nat? : Json → Option Nat
  | number spelling =>
    if spelling.toList.all Char.isDigit then
      spelling.toNat?.filter (· < UInt64.size)
    else none
  | _ => none

/-- An array of the given things. -/
def list? {α : Type} (item? : Json → Option α) : Json → Option (List α)
  | array items => items.mapM item?
  | _ => none

/-- The given thing, or nothing for null. -/
def nullable? {α : Type} (item? : Json → Option α) : Json → Option (Option α)
  | null => some none
  | value => (item? value).map some

/-- A member that counts as null when it is left out. -/
def optionalMember? {α : Type} (item? : Json → Option α) : Option Json → Option (Option α)
  | none => some none
  | some value => nullable? item? value

/-- The members of an object, when all their names can be read. -/
def named? (members : List (Option String × Json)) : Option (List (String × Json)) :=
  members.mapM fun (name, value) => name.map fun name => (name, value)

/-- The members of a record in the order of its shape; nothing where one is left out. -/
def members? (shape : Shape) : Json → Option (List (Option Json))
  | array items =>
    if items.length == shape.names.length ||
        (shape.partialAndClosed && items.length < shape.names.length) then
      some (items.map some ++ List.replicate (shape.names.length - items.length) none)
    else none
  | object members => do
    let members ← named? members
    if shape.names.any fun name => 1 < members.countP (·.1 == name) then none
    else if shape.partialAndClosed && members.any fun member => !shape.names.contains member.1 then
      none
    else some (shape.names.map fun name => members.lookup name)
  | _ => none

/-- The chosen case and what belongs to it, null for a case that is given as a text. -/
def choice? : Json → Option (String × Json)
  | text name => name.map fun name => (name, null)
  | object [(name, value)] => name.map fun name => (name, value)
  | _ => none

/-- Nothing belongs to the chosen case. -/
def unit? : Json → Option Unit
  | null => some ()
  | _ => none

end CaseScript.Json
