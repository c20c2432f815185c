import CaseScript.Proofs.Syntax.Language

/-!
# Tokens by their bytes

The readers of tokens take a text apart character by character.  The readers of this file know the
text by its bytes: past the trivia they look for the byte at which a token ends and cut the text
there.  A cut inside of a character or behind the end of the text breaks them down, and so does a
count of open braces that is lowered from zero.

There are three groups.

* Cuts.  `splitAt?_eq_some_iff` says what a cut gives, and `isSome_splitAt?_iff` that a text can be
  cut at the boundaries of its characters and nowhere else.
* Readers.  `Bytewise.word`, `Bytewise.quotedText` and `Bytewise.braceText` with their searches.
* Agreement.  `bytewise_word`, `bytewise_quotedText` and `bytewise_braceText`: a reader by bytes
  never breaks down and gives what the reader of the token gives.
-/

namespace CaseScript.Syntax

open CaseScript.Text Reader

/-- Why a reader by bytes breaks down. -/
inductive Breakdown where
  /-- A text is cut inside of a character or behind its end. -/
  | splitCharacter
  /-- A count is lowered from zero. -/
  | belowZero
  deriving DecidableEq

namespace Bytewise

/-! ## Cuts -/

/-- The text in front of a byte and the text from that byte on, if no character spans the cut. -/
def splitAt? (place : Nat) : List Char → Option (List Char × List Char)
  | [] => if place = 0 then some ([], []) else none
  | c :: text =>
    if place = 0 then some ([], c :: text)
    else if c.utf8Size ≤ place then
      (splitAt? (place - c.utf8Size) text).map fun (front, rest) => (c :: front, rest)
    else none

/-- The text from a byte on. -/
def startingAt (place : Nat) (text : List Char) : Except Breakdown (List Char) :=
  match splitAt? place text with
  | some (_, rest) => .ok rest
  | none => .error .splitCharacter

/-- The text in front of a byte. -/
def upTo (place : Nat) (text : List Char) : Except Breakdown (List Char) :=
  match splitAt? place text with
  | some (front, _) => .ok front
  | none => .error .splitCharacter

/-- The text from one byte to another. -/
def between (start stop : Nat) (text : List Char) : Except Breakdown (List Char) := do
  let front ← upTo stop text
  startingAt start front

/-- What does not break down goes on. -/
theorem ok_bind {α β : Type} (value : α) (next : α → Except Breakdown β) :
    (Except.ok value >>= next) = next value := rfl

theorem splitAt?_append (front rest : List Char) :
    splitAt? (utf8Length front) (front ++ rest) = some (front, rest) := by
  induction front with
  | nil => cases rest <;> simp [splitAt?, utf8Length]
  | cons c front ih =>
    have hpos := c.utf8Size_pos
    rw [List.cons_append, splitAt?, utf8Length, if_neg (by omega), if_pos (by omega),
      Nat.add_sub_cancel_left, ih]
    rfl

theorem splitAt?_eq_some_iff {place : Nat} {text front rest : List Char} :
    splitAt? place text = some (front, rest) ↔ text = front ++ rest ∧ utf8Length front = place := by
  constructor
  · intro h
    induction text generalizing place front with
    | nil =>
      simp only [splitAt?] at h
      split at h
      · cases h
        exact ⟨rfl, by simp [utf8Length, *]⟩
      · cases h
    | cons c text ih =>
      simp only [splitAt?] at h
      split at h
      · cases h
        exact ⟨rfl, by simp [utf8Length, *]⟩
      · split at h
        · simp only [Option.map_eq_some_iff, Prod.exists, Prod.mk.injEq] at h
          rcases h with ⟨inside, after, hsplit, rfl, rfl⟩
          rcases ih hsplit with ⟨rfl, hsize⟩
          exact ⟨rfl, by rw [utf8Length]; omega⟩
        · cases h
  · intro h
    rcases h with ⟨rfl, rfl⟩
    exact splitAt?_append front rest

/-- A text can be cut where one of its characters starts, and at its end. -/
theorem isSome_splitAt?_iff {place : Nat} {text : List Char} :
    (splitAt? place text).isSome ↔ String.Pos.Raw.IsValid (String.ofList text) ⟨place⟩ := by
  rw [String.Pos.Raw.isValid_iff_exists_append, Option.isSome_iff_exists]
  constructor
  · intro h
    rcases h with ⟨⟨front, rest⟩, h⟩
    rcases splitAt?_eq_some_iff.1 h with ⟨rfl, rfl⟩
    refine ⟨String.ofList front, String.ofList rest, String.ofList_append, ?_⟩
    rw [String.rawEndPos, ← utf8Length_toList, String.toList_ofList]
  · intro h
    rcases h with ⟨front, rest, htext, hplace⟩
    refine ⟨(front.toList, rest.toList), splitAt?_eq_some_iff.2 ⟨?_, ?_⟩⟩
    · rw [← String.toList_append, ← htext, String.toList_ofList]
    · rw [utf8Length_toList]
      exact (congrArg String.Pos.Raw.byteIdx hplace).symm

/-- A letter of two bytes is not cut after the first one. -/
example : startingAt 1 ['é', 'a'] = .error .splitCharacter ∧
    startingAt 2 ['é', 'a'] = .ok ['a'] := by
  decide

theorem startingAt_append (front rest : List Char) :
    startingAt (utf8Length front) (front ++ rest) = .ok rest := by
  rw [startingAt, splitAt?_append]

theorem upTo_append (front rest : List Char) :
    upTo (utf8Length front) (front ++ rest) = .ok front := by
  rw [upTo, splitAt?_append]

/-- A character of one byte is cut off by that byte. -/
theorem startingAt_one {c : Char} (hsize : c.utf8Size = 1) (text : List Char) :
    startingAt 1 (c :: text) = .ok text := by
  have hcut := startingAt_append [c] text
  rw [utf8Length, hsize] at hcut
  exact hcut

/-- The text behind a character of one byte starts one byte further. -/
theorem startingAt_next {c : Char} (hsize : c.utf8Size = 1) (front rest : List Char) :
    startingAt (utf8Length front + 1) (front ++ c :: rest) = .ok rest := by
  have hcut := startingAt_append (front ++ [c]) rest
  rw [utf8Length_append, utf8Length, hsize, List.append_assoc] at hcut
  exact hcut

theorem startingAt_end (text : List Char) : startingAt (utf8Length text) text = .ok [] := by
  have hcut := startingAt_append text []
  rw [List.append_nil] at hcut
  exact hcut

theorem between_append (front inside rest : List Char) :
    between (utf8Length front) (utf8Length (front ++ inside)) (front ++ inside ++ rest) =
      .ok inside := by
  rw [between, upTo_append]
  exact startingAt_append front inside

/-! ## Readers -/

/-- What a reader of tokens comes to. -/
abbrev Answer (α : Type) := Except Failure (α × List Char)

/-- The byte at which a character stands for the first time. -/
def placeOf? (mark : Char) : List Char → Option Nat
  | [] => none
  | c :: text => if c == mark then some 0 else (placeOf? mark text).map (c.utf8Size + ·)

/-- The byte of the brace that closes the last open one, where `depth` are open at the byte
`place`, with which the text starts. -/
def closingPlace? (place depth : Nat) : List Char → Except Breakdown (Option Nat)
  | [] => .ok none
  | c :: text =>
    if c == '{' then closingPlace? (place + c.utf8Size) (depth + 1) text
    else if c == '}' then
      match depth with
      | 0 => .error .belowZero
      | inner + 1 =>
        if inner = 0 then .ok (some place) else closingPlace? (place + c.utf8Size) inner text
    else closingPlace? (place + c.utf8Size) depth text

/-- `Syntax.word` by bytes.  A text that cannot be cut where the word would end does not start with
the word. -/
def word (keyword : Keyword) (text : List Char) : Except Breakdown (Answer Unit) :=
  let text := skipTrivia text
  let size := keyword.word.utf8ByteSize
  match splitAt? size text with
  | some (front, _) =>
    if front.map Char.toLower = keyword.word.toList then do
      let rest ← startingAt size text
      return if endsWord rest then .ok ((), rest) else failAt text [.word keyword]
    else .ok (failAt text [.word keyword])
  | none => .ok (failAt text [.word keyword])

/-- `Syntax.quotedText` by bytes. -/
def quotedText (text : List Char) : Except Breakdown (Answer String) :=
  let text := skipTrivia text
  match text.head? with
  | none => .ok (failAt text [.quotedText])
  | some quote =>
    if isQuote quote then do
      let body ← startingAt 1 text
      match placeOf? quote body with
      | some stop =>
        let rest ← startingAt (stop + 1) body
        let inside ← upTo stop body
        return .ok (String.ofList inside, rest)
      | none =>
        let rest ← startingAt (utf8Length text) text
        return failAt rest [.closingQuote]
    else .ok (failAt text [.quotedText])

/-- `Syntax.braceText` by bytes. -/
def braceText (text : List Char) : Except Breakdown (Answer String) :=
  let text := skipTrivia text
  if text.head? = some '{' then do
    match ← closingPlace? 0 0 text with
    | some stop =>
      let rest ← startingAt (stop + 1) text
      let inside ← between 1 stop text
      return .ok (String.ofList (trim inside), rest)
    | none =>
      let rest ← startingAt (utf8Length text) text
      return failAt rest [.closeBrace]
  else .ok (failAt text [.openBrace])

theorem placeOf?_append {mark : Char} {front : List Char} (h : mark ∉ front) (rest : List Char) :
    placeOf? mark (front ++ mark :: rest) = some (utf8Length front) := by
  induction front with
  | nil => simp [placeOf?, utf8Length]
  | cons c front ih =>
    rw [List.mem_cons, not_or] at h
    rw [List.cons_append, placeOf?, if_neg (by simpa using Ne.symm h.1), ih h.2]
    rfl

theorem placeOf?_of_not_mem {mark : Char} {text : List Char} (h : mark ∉ text) :
    placeOf? mark text = none := by
  induction text with
  | nil => rfl
  | cons c text ih =>
    rw [List.mem_cons, not_or] at h
    rw [placeOf?, if_neg (by simpa using Ne.symm h.1), ih h.2]
    rfl

/-- While a brace is open, the count stays above zero: it is one more than the number of inner
braces. -/
theorem closingPlace?_eq (place depth : Nat) (text : List Char) :
    closingPlace? place (depth + 1) text =
      .ok ((untilClosed depth text).map fun (inside, _) => place + utf8Length inside) := by
  induction text generalizing place depth with
  | nil => rfl
  | cons c text ih =>
    unfold closingPlace? untilClosed
    by_cases hopen : c = '{'
    · subst hopen
      simp [ih, utf8Length, Function.comp_def, Nat.add_assoc]
    · by_cases hclose : c = '}'
      · subst hclose
        cases depth with
        | zero => simp [utf8Length]
        | succ inner => simp [ih, utf8Length, Function.comp_def, Nat.add_assoc]
      · simp [ih, hopen, hclose, utf8Length, Function.comp_def, Nat.add_assoc]

/-- Where no brace is open, none can be closed. -/
example : closingPlace? 0 0 ['a', '}'] = .error .belowZero := rfl

end Bytewise

/-! ## Agreement -/

section Agreement

open Bytewise

variable (text : List Char)

theorem bytewise_word (keyword : Keyword) :
    Bytewise.word keyword text = .ok (word keyword text) := by
  unfold Bytewise.word word
  generalize skipTrivia text = start
  dsimp only
  cases hstrip : stripWord keyword.word.toList start with
  | some rest =>
    rcases stripWord_eq_some_iff.1 hstrip with ⟨front, rfl, hfront⟩
    have hsize : keyword.word.utf8ByteSize = utf8Length front := by
      rw [← utf8Length_toList, ← hfront, utf8Length_map_toLower]
    simp only [hsize, splitAt?_append, startingAt_append, hfront]
    rfl
  | none =>
    cases hsplit : splitAt? keyword.word.utf8ByteSize start with
    | none => rfl
    | some parts =>
      -- the characters in front are as long as the word, but they spell another one
      have hother : parts.1.map Char.toLower ≠ keyword.word.toList := by
        intro hfront
        have hstart := (splitAt?_eq_some_iff.1 hsplit).1
        rw [stripWord_eq_some_iff.2 ⟨parts.1, hstart, hfront⟩] at hstrip
        cases hstrip
      simp only [if_neg hother]

theorem utf8Size_of_isQuote {quote : Char} (h : isQuote quote = true) : quote.utf8Size = 1 := by
  simp only [isQuote, Bool.or_eq_true, beq_iff_eq] at h
  rcases h with rfl | rfl <;> rfl

theorem bytewise_quotedText : Bytewise.quotedText text = .ok (quotedText text) := by
  unfold Bytewise.quotedText quotedText
  cases skipTrivia text with
  | nil => rfl
  | cons quote body =>
    by_cases hquote : isQuote quote = true
    · have hsize := utf8Size_of_isQuote hquote
      simp only [List.head?_cons, hquote, if_true, startingAt_one hsize, ok_bind]
      by_cases hmem : quote ∈ body
      · rcases List.eq_append_cons_of_mem hmem with ⟨inside, rest, rfl, hinside⟩
        rw [placeOf?_append hinside, dropWhile_ne_append hinside, takeWhile_ne_append hinside]
        simp only [startingAt_next hsize, upTo_append]
        rfl
      · rw [placeOf?_of_not_mem hmem, dropWhile_ne_of_not_mem hmem]
        simp only [startingAt_end]
        rfl
    · simp [hquote]

theorem bytewise_braceText : Bytewise.braceText text = .ok (braceText text) := by
  unfold Bytewise.braceText braceText
  cases skipTrivia text with
  | nil => rfl
  | cons c body =>
    by_cases hopen : c = '{'
    · subst hopen
      have hplace : closingPlace? 0 0 ('{' :: body) =
          .ok ((untilClosed 0 body).map fun (inside, _) => 1 + utf8Length inside) :=
        closingPlace?_eq 1 0 body
      simp only [List.head?_cons, if_true, hplace, ok_bind]
      cases hclosed : untilClosed 0 body with
      | none =>
        simp only [Option.map_none, startingAt_end, ok_bind]
        rfl
      | some parts =>
        rcases parts with ⟨inside, rest⟩
        rw [(untilClosed_eq_some_iff.1 hclosed).1]
        have hrest : startingAt (1 + utf8Length inside + 1) ('{' :: (inside ++ '}' :: rest)) =
            .ok rest :=
          startingAt_next rfl ('{' :: inside) rest
        have hinside : between 1 (1 + utf8Length inside) ('{' :: (inside ++ '}' :: rest)) =
            .ok inside :=
          between_append ['{'] inside ('}' :: rest)
        simp only [Option.map_some, hrest, hinside, ok_bind]
        rfl
    · simp [hopen]

end Agreement

end CaseScript.Syntax
