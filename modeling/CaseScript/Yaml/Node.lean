import CaseScript.Yaml.Token

/-!
# YAML nodes

The second step of reading YAML: the tokens of a document are nested.  A document is one scalar or
one mapping; a text without any node stands for the empty plain scalar, and so does a missing key or
value.

* `Node.parse` reads a text with at most one document.
-/

namespace CaseScript.Yaml

/-- A scalar or a mapping. -/
inductive Node where
  | scalar (isPlain : Bool) (text : String)
  | mapping (entries : List (Node × Node))
  deriving Repr, Inhabited

namespace Node

/-- What stands where nothing is written. -/
def empty : Node := scalar true ""

/-- Tokens that are left after something was read. -/
abbrev Rest (tokens : List Token) := { rest : List Token // rest.length ≤ tokens.length }

/-- Tokens that are left after at least one was read. -/
abbrev Shorter (tokens : List Token) := { rest : List Token // rest.length < tokens.length }

/-- What is left of a part is left of the whole. -/
def Shorter.widen {tokens more : List Token} (rest : Shorter tokens)
    (h : tokens.length ≤ more.length) : Shorter more :=
  ⟨rest.val, Nat.lt_of_lt_of_le rest.property h⟩

/-- A token that ends a key or a value of a block mapping. -/
def endsInBlock (token : Token) : Bool :=
  token == .key || token == .value || token == .blockEnd

/-- A token that ends a key of a flow mapping. -/
def endsFlowKey (token : Token) : Bool :=
  token == .value || token == .comma || token == .closeBrace

/-- A token that ends a value of a flow mapping. -/
def endsFlowValue (token : Token) : Bool := token == .comma || token == .closeBrace

mutual

/-- The node at the front of the tokens. -/
def nodeAt? (tokens : List Token) : Option (Node × Shorter tokens) :=
  match tokens with
  | .scalar isPlain text :: rest => some (.scalar isPlain (String.ofList text), ⟨rest, by simp⟩)
  | .blockStart :: rest => do
    let (entries, after) ← blockEntries? rest
    some (.mapping entries, after.widen (by simp))
  | .openBrace :: .closeBrace :: rest =>
    some (.mapping [], ⟨rest, by simp only [List.length_cons]; omega⟩)
  | .openBrace :: rest => do
    let (entries, after) ← flowEntries? rest
    some (.mapping entries, after.widen (by simp))
  | _ => none
termination_by (tokens.length, 0)

/-- The node at the front of the tokens, or the empty one where a token ends it. -/
def nodeOrEmpty? (ends : Token → Bool) (tokens : List Token) : Option (Node × Rest tokens) :=
  match tokens with
  | [] => none
  | token :: rest =>
    if ends token then some (empty, ⟨token :: rest, Nat.le_refl _⟩)
    else do
      let (node, after) ← nodeAt? (token :: rest)
      some (node, ⟨after.val, Nat.le_of_lt after.property⟩)
termination_by (tokens.length, 1)

/-- The value after a key; the empty node where there is no value mark. -/
def valueAt? (ends : Token → Bool) (tokens : List Token) : Option (Node × Rest tokens) :=
  match tokens with
  | .value :: rest => do
    let (node, after) ← nodeOrEmpty? ends rest
    some (node, ⟨after.val, Nat.le_succ_of_le after.property⟩)
  | tokens => some (empty, ⟨tokens, Nat.le_refl _⟩)
termination_by (tokens.length, 2)

/-- The entries of a block mapping up to its end. -/
def blockEntries? (tokens : List Token) : Option (List (Node × Node) × Shorter tokens) :=
  match tokens with
  | .blockEnd :: rest => some ([], ⟨rest, by simp⟩)
  | .key :: rest => do
    let (key, ⟨afterKey, hk⟩) ← nodeOrEmpty? endsInBlock rest
    have : afterKey.length < (Token.key :: rest).length := Nat.lt_succ_of_le hk
    let (value, ⟨afterValue, hv⟩) ← valueAt? endsInBlock afterKey
    have : afterValue.length < (Token.key :: rest).length :=
      Nat.lt_succ_of_le (Nat.le_trans hv hk)
    let (entries, after) ← blockEntries? afterValue
    some ((key, value) :: entries, after.widen (Nat.le_of_lt this))
  | _ => none
termination_by (tokens.length, 3)

/-- The key of an entry of a flow mapping. -/
def flowKey? (tokens : List Token) : Option (Node × Shorter tokens) :=
  match tokens with
  | .key :: rest => do
    let (key, after) ← nodeOrEmpty? endsFlowKey rest
    some (key, ⟨after.val, Nat.lt_succ_of_le after.property⟩)
  | tokens => nodeAt? tokens
termination_by (tokens.length, 2)

/-- The entries of a flow mapping up to its closing brace; there is at least one.  Only a marked key
can have a value. -/
def flowEntries? (tokens : List Token) : Option (List (Node × Node) × Shorter tokens) := do
  let (key, ⟨afterKey, hk⟩) ← flowKey? tokens
  let (value, ⟨afterValue, hv⟩) ←
    if tokens.head? == some .key then valueAt? endsFlowValue afterKey
    else some (empty, (⟨afterKey, Nat.le_refl _⟩ : Rest afterKey))
  have hlt : afterValue.length < tokens.length := Nat.lt_of_le_of_lt hv hk
  match afterValue, hlt with
  | .closeBrace :: rest, hlt => some ([(key, value)], ⟨rest, Nat.lt_of_succ_lt hlt⟩)
  | .comma :: .closeBrace :: rest, hlt =>
    some ([(key, value)], ⟨rest, Nat.lt_of_succ_lt (Nat.lt_of_succ_lt hlt)⟩)
  | .comma :: rest, hlt => do
    have := Nat.lt_of_succ_lt hlt
    let (entries, after) ← flowEntries? rest
    some ((key, value) :: entries, after.widen (Nat.le_of_lt this))
  | _, _ => none
termination_by (tokens.length, 4)

end

/-- Nothing follows but marks of the end of a document. -/
def isEnd (tokens : List Token) : Bool := tokens.all (· == .documentEnd)

/-- The node of a text; nothing where the text is no YAML or holds more than one document. -/
def parse (text : String) : Option Node := do
  match ← tokens text with
  | [] => some empty
  | .documentStart :: rest =>
    if isEnd rest then some empty
    else do
      let (node, after) ← nodeAt? rest
      if isEnd after.val then some node else none
  | rest => do
    let (node, after) ← nodeAt? rest
    if isEnd after.val then some node else none

end Node

end CaseScript.Yaml
