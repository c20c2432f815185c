/-!
# Positions in YAML text

YAML is read character by character with the line and the column of the next character at hand,
since both decide what a character means.  Lines end with a line feed, a carriage return or both,
the next-line character, or one of the two Unicode separators; `unifyBreaks` makes the first four of
them one.

Between the words of a scalar stands a gap of pads (spaces and tabs) and breaks.  `foldBreaks` is
the rule by which lines are joined: one break becomes a space, and of several all but the first
stay.

* `Cursor.past_rest`: moving on by a number of characters drops them.
* `gapAt`: the gap at a position; by `gapAt_lt` a gap that is there is taken.
-/

namespace CaseScript.Yaml

/-! ## Characters -/

/-- A space or a tab. -/
def isPad (c : Char) : Bool := c == ' ' || c == '\t'

/-- The end of a line, once breaks are unified. -/
def isBreak (c : Char) : Bool := c == '\n' || c.toNat == 0x2028 || c.toNat == 0x2029

/-- The text has ended, or it goes on with a pad or a break. -/
def atGap (text : List Char) : Bool := text.head?.all fun c => isPad c || isBreak c

/-- The character may stand in YAML text. -/
def isAdmitted (c : Char) : Bool :=
  let n := c.toNat
  n == 9 || n == 0xa || n == 0xd || (0x20 ≤ n && n ≤ 0x7e) || n == 0x85 ||
    (0xa0 ≤ n && n ≤ 0xfffd) || 0x10000 ≤ n

/-- The text with one character for every end of a line. -/
def unifyBreaks : List Char → List Char
  | [] => []
  | '\r' :: '\n' :: rest => '\n' :: unifyBreaks rest
  | c :: rest => (if c == '\r' || c.toNat == 0x85 then '\n' else c) :: unifyBreaks rest

/-- The breaks between two lines that are joined. -/
def foldBreaks : List Char → List Char
  | [] => []
  | first :: more =>
    if first != '\n' then first :: more
    else if more.isEmpty then [' ']
    else more

/-! ## Cursors -/

/-- A place in a text: what is still to be read, the number of lines above, and the number of
characters and of bytes before it on its line. -/
structure Cursor where
  rest : List Char
  line : Nat
  column : Nat
  offset : Nat

namespace Cursor

/-- The place at the start of a text. -/
def start (text : List Char) : Cursor := ⟨text, 0, 0, 0⟩

/-- The place after the next character. -/
def next (cursor : Cursor) : Cursor :=
  match cursor.rest with
  | [] => cursor
  | c :: rest =>
    if isBreak c then ⟨rest, cursor.line + 1, 0, 0⟩
    else ⟨rest, cursor.line, cursor.column + 1, cursor.offset + c.utf8Size⟩

/-- The place after the given number of characters. -/
def past (cursor : Cursor) : Nat → Cursor
  | 0 => cursor
  | n + 1 => cursor.next.past n

theorem next_rest (cursor : Cursor) : cursor.next.rest = cursor.rest.tail := by
  rw [next]
  split
  · simp_all
  · split <;> simp_all

theorem past_rest (cursor : Cursor) (n : Nat) : (cursor.past n).rest = cursor.rest.drop n := by
  induction n generalizing cursor with
  | zero => rfl
  | succ n ih => rw [past, ih, next_rest, List.drop_tail]

theorem past_le (cursor : Cursor) (n : Nat) :
    (cursor.past n).rest.length ≤ cursor.rest.length := by
  rw [past_rest, List.length_drop]
  omega

/-- What is to be read after the next character is shorter. -/
theorem next_lt {cursor : Cursor} {c : Char} {rest : List Char} (h : cursor.rest = c :: rest) :
    cursor.next.rest.length < cursor.rest.length := by
  rw [next_rest, h]
  simp

theorem past_lt {cursor : Cursor} {c : Char} {rest : List Char} (h : cursor.rest = c :: rest)
    (n : Nat) : (cursor.past (n + 1)).rest.length < cursor.rest.length := by
  rw [past_rest, h, List.drop_succ_cons, List.length_drop, List.length_cons]
  omega

/-- The line starts with three dashes or three dots that stand alone. -/
def atMarker (cursor : Cursor) : Bool :=
  cursor.column == 0 &&
    (cursor.rest.take 3 == ['-', '-', '-'] || cursor.rest.take 3 == ['.', '.', '.']) &&
    atGap (cursor.rest.drop 3)

/-- The place of the end of the line. -/
def toLineEnd (cursor : Cursor) : Cursor :=
  cursor.past (cursor.rest.takeWhile fun c => !isBreak c).length

end Cursor

/-! ## Gaps -/

/-- What stands between two words: the pads before the first break, and the breaks. -/
structure Gap where
  pads : List Char
  breaks : List Char

namespace Gap

/-- No gap. -/
def empty : Gap := ⟨[], []⟩

/-- There is no gap. -/
def isEmpty (gap : Gap) : Bool := gap.pads.isEmpty && gap.breaks.isEmpty

/-- The gap goes over the end of a line. -/
def isBroken (gap : Gap) : Bool := !gap.breaks.isEmpty

/-- What a gap is in the text of a scalar. -/
def text (gap : Gap) : List Char := if gap.isBroken then foldBreaks gap.breaks else gap.pads

end Gap

/-- The gap at a cursor, and the place after it.  With `broken` a line has ended before.  After the
end of a line a tab may not stand left of the given column. -/
def gapAt (indent : Nat) (broken : Bool) (cursor : Cursor) : Option (Gap × Cursor) :=
  match h : cursor.rest with
  | [] => some (Gap.empty, cursor)
  | c :: _ =>
    have := Cursor.next_lt h
    if isPad c then
      if broken && c == '\t' && cursor.column < indent then none
      else do
        let (gap, after) ← gapAt indent broken cursor.next
        some (if broken then gap else ⟨c :: gap.pads, gap.breaks⟩, after)
    else if isBreak c then do
      let (gap, after) ← gapAt indent true cursor.next
      some (⟨gap.pads, c :: gap.breaks⟩, after)
    else some (Gap.empty, cursor)
termination_by cursor.rest.length

theorem gapAt_le {indent : Nat} {broken : Bool} {cursor after : Cursor} {gap : Gap}
    (h : gapAt indent broken cursor = some (gap, after)) :
    after.rest.length ≤ cursor.rest.length := by
  fun_induction gapAt indent broken cursor generalizing gap with
  | case1 | case5 => simp_all
  | case2 => simp at h
  | case3 broken cursor c rest hr hlt hp ht ih =>
    obtain ⟨⟨gap', after'⟩, hg, he⟩ := Option.bind_eq_some_iff.1 h
    cases he
    exact Nat.le_trans (ih hg) (Nat.le_of_lt hlt)
  | case4 broken cursor c rest hr hlt hp hb ih =>
    obtain ⟨⟨gap', after'⟩, hg, he⟩ := Option.bind_eq_some_iff.1 h
    cases he
    exact Nat.le_trans (ih hg) (Nat.le_of_lt hlt)

/-- A gap that starts with a pad or a break takes it. -/
theorem gapAt_lt {indent : Nat} {broken : Bool} {cursor after : Cursor} {gap : Gap} {c : Char}
    {rest : List Char} (hr : cursor.rest = c :: rest) (hc : (isPad c || isBreak c) = true)
    (h : gapAt indent broken cursor = some (gap, after)) :
    after.rest.length < cursor.rest.length := by
  have hlt := Cursor.next_lt hr
  rw [gapAt] at h
  split at h
  · simp_all
  · rename_i d _ hd
    obtain rfl : d = c := by simp_all
    split at h
    · split at h
      · simp at h
      · obtain ⟨⟨gap', after'⟩, hg, he⟩ := Option.bind_eq_some_iff.1 h
        cases he
        exact Nat.lt_of_le_of_lt (gapAt_le hg) hlt
    · split at h
      · obtain ⟨⟨gap', after'⟩, hg, he⟩ := Option.bind_eq_some_iff.1 h
        cases he
        exact Nat.lt_of_le_of_lt (gapAt_le hg) hlt
      · simp_all

end CaseScript.Yaml
