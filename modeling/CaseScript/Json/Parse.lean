import CaseScript.Json.Basic
import CaseScript.Json.Token

/-!
# Reading JSON

The second step of reading JSON text: the tokens are nested.  `Json.parse` reads a text that holds
exactly one value.
-/

namespace CaseScript.Json

/-- Tokens that are left after something was taken off the front. -/
abbrev Shorter (tokens : List Token) := { rest : List Token // rest.length < tokens.length }

/-- What is left of a part is left of the whole. -/
def Shorter.widen {tokens more : List Token} (rest : Shorter tokens)
    (h : tokens.length ≤ more.length) : Shorter more :=
  ⟨rest.val, Nat.lt_of_lt_of_le rest.property h⟩

mutual

/-- The value at the front of the tokens. -/
def valueAt? (tokens : List Token) : Option (Json × Shorter tokens) :=
  match tokens with
  | .null :: rest => some (.null, ⟨rest, by simp⟩)
  | .boolean b :: rest => some (.boolean b, ⟨rest, by simp⟩)
  | .number spelling :: rest => some (.number spelling, ⟨rest, by simp⟩)
  | .text value :: rest => some (.text value, ⟨rest, by simp⟩)
  | .openBracket :: .closeBracket :: rest =>
    some (.array [], ⟨rest, by simp only [List.length_cons]; omega⟩)
  | .openBracket :: rest => do
    let (items, after) ← itemsAt? rest
    some (.array items, after.widen (by simp))
  | .openBrace :: .closeBrace :: rest =>
    some (.object [], ⟨rest, by simp only [List.length_cons]; omega⟩)
  | .openBrace :: rest => do
    let (members, after) ← membersAt? rest
    some (.object members, after.widen (by simp))
  | _ => none
termination_by (tokens.length, 0)

/-- The items of an array up to its closing bracket; there is at least one. -/
def itemsAt? (tokens : List Token) : Option (List Json × Shorter tokens) :=
  match valueAt? tokens with
  | some (item, ⟨.comma :: rest, h⟩) =>
    have : rest.length < tokens.length := Nat.lt_of_succ_lt h
    do
      let (items, after) ← itemsAt? rest
      some (item :: items, after.widen (Nat.le_of_lt this))
  | some (item, ⟨.closeBracket :: rest, h⟩) => some ([item], ⟨rest, Nat.lt_of_succ_lt h⟩)
  | _ => none
termination_by (tokens.length, 1)

/-- The members of an object up to its closing brace; there is at least one. -/
def membersAt? (tokens : List Token) : Option (List (Option String × Json) × Shorter tokens) :=
  match tokens with
  | .text name :: .colon :: tokens =>
    match valueAt? tokens with
    | some (value, ⟨.comma :: rest, h⟩) =>
      have : rest.length < tokens.length := Nat.lt_of_succ_lt h
      do
        let (members, after) ← membersAt? rest
        some ((name, value) :: members, after.widen (by simp only [List.length_cons]; omega))
    | some (value, ⟨.closeBrace :: rest, h⟩) =>
      have : rest.length < tokens.length := Nat.lt_of_succ_lt h
      some ([(name, value)], ⟨rest, by simp only [List.length_cons]; omega⟩)
    | _ => none
  | _ => none
termination_by (tokens.length, 1)

end

/-- The value that a text spells. -/
def parse (text : String) : Option Json := do
  let tokens ← tokens text.toList
  match valueAt? tokens with
  | some (value, ⟨[], _⟩) => some value
  | _ => none

end CaseScript.Json
