import CaseScript.Yaml.Scalar

/-!
# YAML tokens

The first of two steps of reading YAML: the text is cut into tokens.  Block mappings have no marks
of their own; they open and close with the column at which their keys stand, and tokens say where.

A key in front of a colon is recognised late, when the colon comes.  Until then the place of every
text that could be a key is remembered: it has to stand on one line, the colon within 1024
bytes.  `State.key` is the innermost such place.

Only what settings need is read.  Sequences, anchors, aliases, tags and directives are refused.

* `tokens` cuts a whole text.
-/

namespace CaseScript.Yaml

/-- A token of YAML text. -/
inductive Token where
  | documentStart
  | documentEnd
  /-- The keys that follow stand further right than those before. -/
  | blockStart
  | blockEnd
  | openBrace
  | closeBrace
  | comma
  /-- A key follows. -/
  | key
  /-- A value follows. -/
  | value
  | scalar (isPlain : Bool) (text : List Char)
  deriving DecidableEq, Repr

/-- A text that is a key if a colon follows. -/
structure PossibleKey where
  /-- The number of tokens before it. -/
  place : Nat
  line : Nat
  column : Nat
  offset : Nat
  /-- Nothing but a key may stand there. -/
  isRequired : Bool

/-- The most bytes from the start of a key to its colon. -/
def maxKeyLength : Nat := 1024

/-- What has been read, and what decides about the next token. -/
structure State where
  cursor : Cursor
  tokens : Array Token
  /-- One more than the column of the keys of the innermost block mapping; 0 outside of all. -/
  level : Nat
  /-- The levels of the block mappings around the innermost one. -/
  outerLevels : List Nat
  /-- The text that may be a key in the innermost flow mapping, or outside of all. -/
  key : Option PossibleKey
  /-- The same for every flow mapping around it, and for the block around them. -/
  outerKeys : List (Option PossibleKey)
  /-- A key may stand here. -/
  isKeyAllowed : Bool

namespace State

/-- The state at the start of a text. -/
def start (cursor : Cursor) : State :=
  { cursor, tokens := #[], level := 0, outerLevels := [], key := none, outerKeys := [],
    isKeyAllowed := true }

/-- A flow mapping is open. -/
def inFlow (state : State) : Bool := !state.outerKeys.isEmpty

/-- The state with one more token and with the place after it. -/
def push (state : State) (token : Token) (after : Cursor) : State :=
  { state with tokens := state.tokens.push token, cursor := after }

/-- Opens a block mapping for keys at a column, unless one is open there.  Its token goes to the
given place. -/
def openBlock (state : State) (column place : Nat) : State :=
  if state.inFlow || column < state.level then state
  else
    { state with
      tokens := state.tokens.insertIdxIfInBounds place .blockStart
      level := column + 1
      outerLevels := state.level :: state.outerLevels }

/-- The state after the block mappings that do not reach a level are closed: tokens, the level and
the levels around it. -/
def closeLevels (target : Nat) (tokens : Array Token) (level : Nat) :
    List Nat → Array Token × Nat × List Nat
  | [] => (tokens, level, [])
  | outer :: levels =>
    if target < level then closeLevels target (tokens.push .blockEnd) outer levels
    else (tokens, level, outer :: levels)

/-- Closes the block mappings whose keys stand right of the given level. -/
def closeBlocks (state : State) (target : Nat) : State :=
  if state.inFlow then state
  else
    let (tokens, level, outerLevels) :=
      closeLevels target state.tokens state.level state.outerLevels
    { state with tokens, level, outerLevels }

/-- Forgets the possible key; fails where a key is required. -/
def dropKey (state : State) : Option State :=
  if state.key.any (·.isRequired) then none else some { state with key := none }

/-- Remembers that a key may start here. -/
def saveKey (state : State) : Option State :=
  if state.isKeyAllowed then do
    let state ← state.dropKey
    let cursor := state.cursor
    let isRequired := !state.inFlow && state.level == cursor.column + 1
    let key := ⟨state.tokens.size, cursor.line, cursor.column, cursor.offset, isRequired⟩
    some { state with key := some key }
  else some state

/-- The possible key is out of reach of a colon at the cursor. -/
def isStale (cursor : Cursor) (key : PossibleKey) : Bool :=
  key.line < cursor.line || key.offset + maxKeyLength < cursor.offset

/-- A possible key that is still within reach; fails where a required one is not. -/
def refresh (cursor : Cursor) : Option PossibleKey → Option (Option PossibleKey)
  | none => some none
  | some key =>
    if !isStale cursor key then some (some key)
    else if key.isRequired then none
    else some none

/-- Forgets the possible keys that are out of reach; fails where one is required. -/
def dropStaleKeys (state : State) : Option State := do
  let key ← refresh state.cursor state.key
  let outerKeys ← state.outerKeys.mapM (refresh state.cursor)
  some { state with key, outerKeys }

/-- The place of the next token, past pads, comments and breaks, and whether a key may stand
there.  A line may open with a byte order mark; it takes the first column. -/
def skipTrivia (inFlow isKeyAllowed : Bool) (cursor : Cursor) : Cursor × Bool :=
  match h : cursor.rest with
  | [] => (cursor, isKeyAllowed)
  | c :: rest =>
    have := Cursor.next_lt h
    if c == ' ' || (c == '\t' && (inFlow || !isKeyAllowed)) then
      skipTrivia inFlow isKeyAllowed cursor.next
    else if c == '\ufeff' && cursor.column == 0 then skipTrivia inFlow isKeyAllowed cursor.next
    else if hc : c = '#' then
      have : cursor.toLineEnd.rest.length < cursor.rest.length := by
        rw [Cursor.toLineEnd, Cursor.past_rest, h, List.takeWhile_cons_of_pos (by rw [hc]; rfl)]
        simp only [List.length_cons, List.drop_succ_cons, List.length_drop]
        omega
      skipTrivia inFlow isKeyAllowed cursor.toLineEnd
    else if isBreak c then skipTrivia inFlow (isKeyAllowed || !inFlow) cursor.next
    else (cursor, isKeyAllowed)
termination_by cursor.rest.length

/-! ## One token -/

/-- A mark between documents. -/
def marker (state : State) (token : Token) : Option State := do
  let state ← (state.closeBlocks 0).dropKey
  some { state.push token (state.cursor.past 3) with isKeyAllowed := false }

/-- The opening brace of a flow mapping. -/
def openFlow (state : State) : Option State := do
  let state ← state.saveKey
  some
    { state.push .openBrace state.cursor.next with
      key := none
      outerKeys := state.key :: state.outerKeys
      isKeyAllowed := true }

/-- The closing brace of a flow mapping. -/
def closeFlow (state : State) : Option State := do
  let state ← state.dropKey
  let state := { state.push .closeBrace state.cursor.next with isKeyAllowed := false }
  match state.outerKeys with
  | [] => some state
  | key :: outerKeys => some { state with key, outerKeys }

/-- The comma of a flow mapping. -/
def comma (state : State) : Option State := do
  let state ← state.dropKey
  some { state.push .comma state.cursor.next with isKeyAllowed := true }

/-- The mark in front of a key. -/
def keyMark (state : State) : Option State := do
  if !state.inFlow && !state.isKeyAllowed then none
  let state ← (state.openBlock state.cursor.column state.tokens.size).dropKey
  some { state.push .key state.cursor.next with isKeyAllowed := !state.inFlow }

/-- The colon between a key and a value. -/
def colon (state : State) : Option State :=
  match state.key with
  | some key =>
    let keyed := { state with tokens := state.tokens.insertIdxIfInBounds key.place .key }
    let opened := keyed.openBlock key.column key.place
    some { opened.push .value state.cursor.next with key := none, isKeyAllowed := false }
  | none => do
    if !state.inFlow && !state.isKeyAllowed then none
    let opened := state.openBlock state.cursor.column state.tokens.size
    some { opened.push .value state.cursor.next with isKeyAllowed := !state.inFlow }

/-- A quoted scalar. -/
def quotedScalar (state : State) (double : Bool) : Option State := do
  let state ← state.saveKey
  let (text, after) ← quoted double state.cursor.next
  some { state.push (.scalar false text) after with isKeyAllowed := false }

/-- A plain scalar. -/
def plainScalar (state : State) : Option State := do
  let state ← state.saveKey
  let scalar ← plain state.inFlow state.level state.cursor
  some { state.push (.scalar true scalar.text) scalar.after with isKeyAllowed := scalar.endsLine }

/-- A block scalar. -/
def blockScalar (state : State) (folded : Bool) : Option State := do
  let state ← state.dropKey
  let (text, after) ← block folded state.level state.cursor.next
  some { state.push (.scalar false text) after with isKeyAllowed := true }

/-- Characters that start no plain scalar, whatever follows. -/
def isReserved (c : Char) : Bool :=
  [',', '[', ']', '{', '}', '#', '&', '*', '!', '|', '>', '\'', '"', '%', '@', '\x60'].contains c

/-- A plain scalar may start with the character before the given text. -/
def startsPlain (inFlow : Bool) (c : Char) (rest : List Char) : Bool :=
  if isPad c || isBreak c || isReserved c then false
  else if c == '-' then !(rest.head?.any isPad)
  else if c == '?' || c == ':' then !inFlow && !atGap rest
  else true

/-- The state after the token at the cursor; nothing is left to skip in front of it. -/
def token (state : State) : Option State :=
  match state.cursor.rest with
  | [] => none
  | c :: rest =>
    if state.cursor.atMarker then
      state.marker (if c == '-' then .documentStart else .documentEnd)
    else if c == '{' then state.openFlow
    else if c == '}' then state.closeFlow
    else if c == ',' then state.comma
    else if c == '-' && atGap rest then none
    else if c == '?' && (state.inFlow || atGap rest) then state.keyMark
    else if c == ':' && (state.inFlow || atGap rest) then state.colon
    else if c == '|' && !state.inFlow then state.blockScalar false
    else if c == '>' && !state.inFlow then state.blockScalar true
    else if c == '\'' then state.quotedScalar false
    else if c == '"' then state.quotedScalar true
    else if startsPlain state.inFlow c rest then state.plainScalar
    else none

/-- The tokens of a text from a state on. -/
def run (state : State) : Option (List Token) := do
  let (cursor, isKeyAllowed) := skipTrivia state.inFlow state.isKeyAllowed state.cursor
  let fresh ← { state with cursor, isKeyAllowed }.dropStaleKeys
  let settled := fresh.closeBlocks (cursor.column + 1)
  if cursor.rest.isEmpty then do
    let final ← (settled.closeBlocks 0).dropKey
    some final.tokens.toList
  else do
    let next ← settled.token
    if next.cursor.rest.length < state.cursor.rest.length then next.run else none
termination_by state.cursor.rest.length

end State

/-- The tokens of a text. -/
def tokens (text : String) : Option (List Token) :=
  if text.toList.all isAdmitted then (State.start (.start (unifyBreaks text.toList))).run
  else none

end CaseScript.Yaml
