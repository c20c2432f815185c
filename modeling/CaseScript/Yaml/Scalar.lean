import CaseScript.Text.Hexadecimal
import CaseScript.Yaml.Cursor

/-!
# YAML scalars

The text of a scalar is written plainly, between single or double quotes, or as a block of indented
lines.  Each reader gives the text and the place after the scalar.

* `plain` joins words over gaps until a mark ends the scalar.
* `quoted` does the same between quotes; in double quotes a backslash escapes.
* `block` takes lines with a common indentation, literally or folded.
-/

namespace CaseScript.Yaml

/-! ## Plain scalars -/

/-- The character closes, opens or separates in a flow mapping. -/
def isFlowMark (c : Char) : Bool :=
  c == ',' || c == '[' || c == ']' || c == '{' || c == '}'

/-- The word at the front of a text, up to a gap or a mark that ends a plain scalar. -/
def plainWord (inFlow : Bool) : List Char → Option (List Char)
  | [] => some []
  | c :: rest =>
    if isPad c || isBreak c then some []
    else if c == ':' && atGap rest then some []
    else if inFlow && isFlowMark c then some []
    else if inFlow && c == ':' && rest.head?.any (fun d => isFlowMark d || d == '?') then none
    else (plainWord inFlow rest).map (c :: ·)

theorem length_plainWord_le {inFlow : Bool} {text word : List Char}
    (h : plainWord inFlow text = some word) : word.length ≤ text.length := by
  fun_induction plainWord inFlow text generalizing word with
  | case1 | case2 | case3 | case4 => simp_all
  | case5 => simp at h
  | case6 c rest _ _ _ _ ih =>
    obtain ⟨more, hm, rfl⟩ := Option.map_eq_some_iff.1 h
    exact Nat.succ_le_succ (ih hm)

/-- A scalar's text, whether a line has ended after it, and the place where reading goes on. -/
structure PlainScalar where
  text : List Char
  endsLine : Bool
  after : Cursor

/-- The rest of a plain scalar after a gap. -/
def plainFrom (inFlow : Bool) (indent : Nat) (gap : Gap) (cursor : Cursor) :
    Option PlainScalar :=
  if cursor.atMarker || cursor.rest.head? == some '#' then some ⟨[], gap.isBroken, cursor⟩
  else match hw : plainWord inFlow cursor.rest with
  | none => none
  | some [] => some ⟨[], gap.isBroken, cursor⟩
  | some (c :: word) =>
    let text := gap.text ++ c :: word
    match hg : gapAt indent false (cursor.past (word.length + 1)) with
    | none => none
    | some (next, after) =>
      if next.isEmpty then some ⟨text, false, after⟩
      else if !inFlow && after.column < indent then some ⟨text, next.isBroken, after⟩
      else
        have : after.rest.length < cursor.rest.length := by
          have h₁ := gapAt_le hg
          have h₂ := length_plainWord_le hw
          rw [Cursor.past_rest, List.length_drop] at h₁
          rw [List.length_cons] at h₂
          omega
        (plainFrom inFlow indent next after).map fun scalar =>
          { scalar with text := text ++ scalar.text }
termination_by cursor.rest.length

/-- The plain scalar at a cursor.  Outside flow mappings its lines start at the given column or to
the right of it. -/
def plain (inFlow : Bool) (indent : Nat) (cursor : Cursor) : Option PlainScalar :=
  plainFrom inFlow indent Gap.empty cursor

/-! ## Quoted scalars -/

/-- The character that an escape of one letter stands for. -/
def letterEscape? (c : Char) : Option Char :=
  [('0', '\x00'), ('a', '\x07'), ('b', '\x08'), ('t', '\t'), ('\t', '\t'), ('n', '\n'),
    ('v', '\x0b'), ('f', '\x0c'), ('r', '\r'), ('e', '\x1b'), (' ', ' '), ('"', '"'), ('/', '/'),
    ('\\', '\\'), ('N', '\u0085'), ('_', '\u00a0'), ('L', '\u2028'), ('P', '\u2029')].lookup c

/-- The number of digits after the letter of an escape by number. -/
def numberEscape? (c : Char) : Option Nat := [('x', 2), ('u', 4), ('U', 8)].lookup c

/-- The character of a number. -/
def charOfNumber? (n : Nat) : Option Char := if n.isValidChar then some (Char.ofNat n) else none

/-- The character that stands escaped after a backslash, and the number of characters that it
takes. -/
def escape? : List Char → Option (Char × Nat)
  | [] => none
  | letter :: rest =>
    match numberEscape? letter with
    | none => (letterEscape? letter).map (·, 1)
    | some count => do
      let digits := rest.take count
      if digits.length < count then none
      let c ← charOfNumber? (← Text.hexNumber? digits)
      some (c, count + 1)

/-- The rest of a scalar between quotes. -/
def quoted (double : Bool) (cursor : Cursor) : Option (List Char × Cursor) :=
  if cursor.atMarker then none
  else match h : cursor.rest with
  | [] => none
  | c :: rest =>
    have := Cursor.next_lt h
    have hpast := Cursor.past_lt h
    if hc : (isPad c || isBreak c) = true then
      match hg : gapAt 0 false cursor with
      | none => none
      | some (gap, after) =>
        have := gapAt_lt h hc hg
        (quoted double after).map fun (text, last) => (gap.text ++ text, last)
    else if double && c == '"' then some ([], cursor.next)
    else if !double && c == '\'' then
      if rest.head? == some '\'' then
        have := hpast 1
        (quoted double (cursor.past 2)).map fun (text, last) => ('\'' :: text, last)
      else some ([], cursor.next)
    else if double && c == '\\' then
      if rest.head?.any isBreak then
        match hg : gapAt 0 true (cursor.past 2) with
        | none => none
        | some (gap, after) =>
          have := Nat.lt_of_le_of_lt (gapAt_le hg) (hpast 1)
          (quoted double after).map fun (text, last) => (gap.breaks ++ text, last)
      else
        match escape? rest with
        | none => none
        | some (d, count) =>
          have := hpast count
          (quoted double (cursor.past (count + 1))).map fun (text, last) => (d :: text, last)
    else (quoted double cursor.next).map fun (text, last) => (c :: text, last)
termination_by cursor.rest.length

/-! ## Block scalars -/

/-- What becomes of the breaks after the last line of a block. -/
inductive Chomping where
  | strip
  /-- The break of the last line stays. -/
  | clip
  | keep
  deriving DecidableEq, Repr

/-- The breaks that stay of those after the last line. -/
def Chomping.apply (chomping : Chomping) (breaks : List Char) : List Char :=
  match chomping with
  | strip => []
  | clip => breaks.take 1
  | keep => breaks

/-- The chomping that a character asks for. -/
def Chomping.ofChar? (c : Char) : Option Chomping :=
  if c == '-' then some strip else if c == '+' then some keep else none

/-- How a block is to be read: what becomes of its last breaks, and by how many columns it is
indented, if that is said. -/
structure BlockHeader where
  chomping : Chomping
  indentation : Option Nat

/-- The chomping at the front of a text, and what follows. -/
def chompingAt (text : List Char) : Option Chomping × List Char :=
  match text with
  | [] => (none, [])
  | c :: rest =>
    match Chomping.ofChar? c with
    | some chomping => (some chomping, rest)
    | none => (none, text)

/-- The digit at the front of a text, and what follows; a zero is refused. -/
def indentationAt (text : List Char) : Option (Option Nat × List Char) :=
  match text with
  | [] => some (none, [])
  | c :: rest =>
    if c == '0' then none
    else if c.isDigit then some (some (c.toNat - '0'.toNat), rest)
    else some (none, text)

/-- The header of a block, and what follows it.  The two parts come in either order. -/
def blockHeader (text : List Char) : Option (BlockHeader × List Char) :=
  match chompingAt text with
  | (some chomping, rest) => do
    let (indentation, rest) ← indentationAt rest
    some (⟨chomping, indentation⟩, rest)
  | (none, rest) => do
    let (indentation, rest) ← indentationAt rest
    let (chomping, rest) := if indentation.isSome then chompingAt rest else (none, rest)
    some (⟨chomping.getD .clip, indentation⟩, rest)

/-- A line of a block, and the breaks up to the next line. -/
structure BlockLine where
  content : List Char
  breaks : List Char

/-- The line starts with a pad. -/
def BlockLine.isIndented (line : BlockLine) : Bool := line.content.head?.any isPad

/-- What stands between two lines of a block. -/
def joint (folded : Bool) (line next : BlockLine) : List Char :=
  if folded && !line.isIndented && !next.isIndented then foldBreaks line.breaks else line.breaks

/-- The text of the lines of a block. -/
def blockText (folded : Bool) (chomping : Chomping) : List BlockLine → List Char
  | [] => []
  | [line] => line.content ++ chomping.apply line.breaks
  | line :: next :: lines =>
    line.content ++ joint folded line next ++ blockText folded chomping (next :: lines)

/-- The place after the spaces of an indentation. -/
def pastIndentation (indent : Option Nat) (cursor : Cursor) : Cursor :=
  let spaces := (cursor.rest.takeWhile (· == ' ')).length
  match indent with
  | none => cursor.past spaces
  | some n => cursor.past (min spaces (n - cursor.column))

theorem pastIndentation_le (indent : Option Nat) (cursor : Cursor) :
    (pastIndentation indent cursor).rest.length ≤ cursor.rest.length := by
  unfold pastIndentation
  cases indent <;> exact Cursor.past_le _ _

/-- The empty lines in front of a line of a block: their breaks, the greatest column reached, and
the place of the line. -/
def emptyLines (indent : Option Nat) (cursor : Cursor) : Option (List Char × Nat × Cursor) :=
  let start := pastIndentation indent cursor
  match h : start.rest with
  | [] => some ([], start.column, start)
  | c :: _ =>
    have := Nat.lt_of_lt_of_le (Cursor.next_lt h) (pastIndentation_le indent cursor)
    if c == '\t' && indent.all (start.column < ·) then none
    else if isBreak c then
      (emptyLines indent start.next).map fun (breaks, widest, after) =>
        (c :: breaks, max start.column widest, after)
    else some ([], start.column, start)
termination_by cursor.rest.length

theorem emptyLines_le {indent : Option Nat} {cursor after : Cursor} {breaks : List Char}
    {widest : Nat} (h : emptyLines indent cursor = some (breaks, widest, after)) :
    after.rest.length ≤ cursor.rest.length := by
  fun_induction emptyLines indent cursor generalizing breaks widest with
  | case1 cursor | case4 cursor =>
    simp only [Option.some.injEq, Prod.mk.injEq] at h
    obtain ⟨_, _, rfl⟩ := h
    exact pastIndentation_le _ _
  | case2 => simp at h
  | case3 =>
    rename_i hlt _ _ ih
    obtain ⟨⟨breaks', widest', after'⟩, hm, he⟩ := Option.map_eq_some_iff.1 h
    simp only [Prod.mk.injEq] at he
    obtain ⟨_, _, rfl⟩ := he
    exact Nat.le_trans (ih hm) (Nat.le_of_lt hlt)

/-- The lines of a block with the given indentation. -/
def blockLines (indent : Nat) (cursor : Cursor) : Option (List BlockLine × Cursor) :=
  if cursor.column != indent || cursor.rest.isEmpty then some ([], cursor)
  else
    let content := cursor.rest.takeWhile fun c => !isBreak c
    let lineEnd := cursor.toLineEnd
    match h : lineEnd.rest with
    | [] => some ([⟨content, []⟩], lineEnd)
    | c :: _ =>
      match he : emptyLines (some indent) lineEnd.next with
      | none => none
      | some (breaks, _, after) =>
        have : after.rest.length < cursor.rest.length :=
          Nat.lt_of_le_of_lt (emptyLines_le he)
            (Nat.lt_of_lt_of_le (Cursor.next_lt h) (Cursor.past_le _ _))
        (blockLines indent after).map fun (lines, last) =>
          (⟨content, c :: breaks⟩ :: lines, last)
termination_by cursor.rest.length

/-- The block scalar at a cursor behind its first mark.  The block is indented at least up to the
given column. -/
def block (folded : Bool) (level : Nat) (cursor : Cursor) : Option (List Char × Cursor) := do
  let (header, rest) ← blockHeader cursor.rest
  let cursor := cursor.past (cursor.rest.length - rest.length)
  let cursor := cursor.past (cursor.rest.takeWhile isPad).length
  let cursor := if cursor.rest.head? == some '#' then cursor.toLineEnd else cursor
  if !(cursor.rest.head?.all isBreak) then none
  let (breaks, widest, start) ← emptyLines (header.indentation.map (level - 1 + ·)) cursor.next
  let indent := (header.indentation.map (level - 1 + ·)).getD (max widest (max level 1))
  let (lines, after) ← blockLines indent start
  let text := blockText folded header.chomping lines
  if lines.isEmpty then some (if header.chomping == .keep then breaks else [], after)
  else some (breaks ++ text, after)

end CaseScript.Yaml
