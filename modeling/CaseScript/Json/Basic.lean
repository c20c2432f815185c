import CaseScript.Text.Hexadecimal

/-!
# JSON values

A JSON value keeps what its text says: numbers stay as they are spelled, and the members of an
object stay in order, with repetitions.  A text whose escapes name no character (half of a surrogate
pair) is `none`: such a text may stand where nobody looks, but no field accepts it.

`Json.render` writes a value in the compact form, without any blank.
-/

namespace CaseScript

/-- A JSON value as it was read. -/
inductive Json where
  | null
  | boolean (value : Bool)
  | number (spelling : String)
  | text (value : Option String)
  | array (items : List Json)
  | object (members : List (Option String × Json))
  deriving Repr, Inhabited

namespace Json

/-- A text value. -/
def str (s : String) : Json := text (some s)

/-- A number without sign, fraction and exponent. -/
def nat (n : Nat) : Json := number (toString n)

/-- An array of texts. -/
def strings (texts : List String) : Json := array (texts.map str)

/-- An object with the given members. -/
def record (members : List (String × Json)) : Json :=
  object (members.map fun (name, value) => (some name, value))

/-- A value, or null where there is none. -/
def nullable {α : Type} (write : α → Json) : Option α → Json
  | some value => write value
  | none => null

/-- One character of a text between its quotes. -/
def renderChar (c : Char) : List Char :=
  if c == '"' then ['\\', '"']
  else if c == '\\' then ['\\', '\\']
  else if c.toNat == 8 then ['\\', 'b']
  else if c.toNat == 9 then ['\\', 't']
  else if c.toNat == 10 then ['\\', 'n']
  else if c.toNat == 12 then ['\\', 'f']
  else if c.toNat == 13 then ['\\', 'r']
  else if c.toNat < 0x20 then ['\\', 'u', '0', '0'] ++ Text.twoHexDigits c.toNat
  else [c]

/-- A text between quotes. -/
def renderText (s : String) : List Char := '"' :: s.toList.flatMap renderChar ++ ['"']

mutual

/-- The characters of a value. -/
def chars : Json → List Char
  | null => ['n', 'u', 'l', 'l']
  | boolean true => ['t', 'r', 'u', 'e']
  | boolean false => ['f', 'a', 'l', 's', 'e']
  | number spelling => spelling.toList
  | text value => renderText (value.getD "")
  | array items => '[' :: charsOfItems items ++ [']']
  | object members => '{' :: charsOfMembers members ++ ['}']

/-- The characters of the items of an array, with commas between them. -/
def charsOfItems : List Json → List Char
  | [] => []
  | item :: items => chars item ++ (if items.isEmpty then [] else ',' :: charsOfItems items)

/-- The characters of the members of an object, with commas between them. -/
def charsOfMembers : List (Option String × Json) → List Char
  | [] => []
  | member :: members =>
    charsOfMember member ++ (if members.isEmpty then [] else ',' :: charsOfMembers members)

/-- The characters of a name and its value. -/
def charsOfMember : Option String × Json → List Char
  | (name, value) => renderText (name.getD "") ++ ':' :: chars value

end

/-- The compact text of a value. -/
def render (value : Json) : String := String.ofList value.chars

end Json

end CaseScript
