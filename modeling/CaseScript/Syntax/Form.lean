import CaseScript.Action
import CaseScript.Syntax.Token

/-!
# Statement forms

A statement is the word `case`, one of sixteen forms, and the end of the statement.  Several forms
start alike: the three ways to load, a cross with and without a key, a new column with and without
a fill.  Each form has to reach the end of its statement to count, so a form that stops early never
hides a longer one, and a statement that fits no form fails at the furthest place that any form
reached.

* `Form.read`: the tokens of a form, and the action they denote.
* `statement`: a whole statement.
* `shrinks_statement`: a statement that is read makes the script shorter.
-/

namespace CaseScript.Syntax

open Reader

/-- The shapes of a statement. -/
inductive Form where
  | loadFile
  | loadQueryFile
  | loadQueryText
  | remove
  | rename
  | move
  | filter
  | filterDistinct
  | scope
  | crossOnKey
  | cross
  | save
  | copy
  | addFilled
  | add
  | merge
  deriving DecidableEq, Repr

/-- All forms in the order in which they are tried. -/
def Form.all : List Form :=
  [loadFile, loadQueryFile, loadQueryText, remove, rename, move, filter, filterDistinct, scope,
    crossOnKey, cross, save, copy, addFilled, add, merge]

/-- A direction to move to. -/
def direction : Reader Direction :=
  firstOf [do word .left; return .left, do word .right; return .right]

/-- A way to compare. -/
def operator : Reader Operator :=
  firstOf [do word .equal; return .equal, do word .like; return .like]

/-- The tokens of a form after the word `case`. -/
def Form.read : Form → Reader Action
  | loadFile => do
    word .load; word .file
    let path ← quotedText
    return .load (.file path)
  | loadQueryFile => do
    word .load; word .query
    let path ← quotedText
    word .onWord
    let connection ← quotedText
    return .load (.queryFile path connection)
  | loadQueryText => do
    word .load; word .query
    let text ← braceText
    word .onWord
    let connection ← quotedText
    return .load (.queryText text connection)
  | remove => do
    word .remove; word .column
    let column ← quotedText
    return .remove column
  | rename => do
    word .rename; word .column
    let column ← quotedText
    word .into
    let name ← quotedText
    return .rename column name
  | move => do
    word .move; word .column
    let column ← quotedText
    word .toWord
    let side ← direction
    return .move column side
  | filter => do
    word .filter; word .onWord; word .column
    let column ← quotedText
    word .values
    let negation ← optional (word .notWord)
    let comparison ← operator
    let values ← quotedTexts
    return .filter column comparison values negation.isSome
  | filterDistinct => do
    word .filter
    let _ ← optional (word .onWord)
    word .distinct
    return .distinct
  | scope => do
    word .scope
    let name ← quotedText
    return .scope name
  | crossOnKey => do
    word .cross
    let first ← quotedText
    word .withWord
    let second ← quotedText
    word .onWord
    let key ← quotedText
    return .cross first second (some key)
  | cross => do
    word .cross
    let first ← quotedText
    word .withWord
    let second ← quotedText
    return .cross first second none
  | save => do
    word .save; word .asWord
    let path ← quotedText
    return .save path
  | copy => do
    word .copy
    let source ← quotedText
    word .toWord
    let target ← quotedText
    return .copy source target
  | addFilled => do
    word .add; word .column
    let column ← quotedText
    word .values
    let fill ← quotedText
    return .add column (some fill)
  | add => do
    word .add; word .column
    let column ← quotedText
    return .add column none
  | merge => do
    word .merge; word .withWord
    let name ← quotedText
    return .merge name

/-- A form up to the end of its statement. -/
def Form.ended (form : Form) : Reader Action := do
  let action ← form.read
  endOfStatement
  return action

/-- A whole statement. -/
def statement : Reader Action := do
  word .caseWord
  firstOf (Form.all.map Form.ended)

theorem bounded_direction : Bounded direction :=
  (shrinks_firstOf (by
    simp only [List.mem_cons, List.not_mem_nil, or_false]
    rintro reader (rfl | rfl) <;>
      exact Shrinks.bind (shrinks_word _) fun _ => bounded_pure _)).bounded

theorem bounded_operator : Bounded operator :=
  (shrinks_firstOf (by
    simp only [List.mem_cons, List.not_mem_nil, or_false]
    rintro reader (rfl | rfl) <;>
      exact Shrinks.bind (shrinks_word _) fun _ => bounded_pure _)).bounded

theorem Form.shrinks_read (form : Form) : Shrinks form.read := by
  cases form <;>
    refine Shrinks.bind (shrinks_word _) fun _ => ?_ <;>
    repeat' first
      | exact bounded_pure _
      | refine Bounded.bind (shrinks_word _).bounded fun _ => ?_
      | refine Bounded.bind shrinks_quotedText.bounded fun _ => ?_
      | refine Bounded.bind shrinks_quotedTexts.bounded fun _ => ?_
      | refine Bounded.bind shrinks_braceText.bounded fun _ => ?_
      | refine Bounded.bind (bounded_optional (shrinks_word _).bounded) fun _ => ?_
      | refine Bounded.bind bounded_direction fun _ => ?_
      | refine Bounded.bind bounded_operator fun _ => ?_

theorem Form.shrinks_ended (form : Form) : Shrinks form.ended :=
  Shrinks.bind form.shrinks_read fun _ =>
    Bounded.bind bounded_endOfStatement fun _ => bounded_pure _

theorem shrinks_statement : Shrinks statement := by
  refine Shrinks.bind (shrinks_word _) fun _ => (shrinks_firstOf ?_).bounded
  simp only [List.mem_map]
  rintro reader ⟨form, _, rfl⟩
  exact form.shrinks_ended

end CaseScript.Syntax
