import CaseScript.Text.Hexadecimal

/-!
# JSON tokens

The first of two steps of reading JSON text: the text is cut into tokens.  Blanks between tokens are
the space, the tab, the line feed and the carriage return.

* `lexeme` takes one token off the front of a text; `length_of_lexemeAt` says that it takes
  something.
* `tokens` cuts a whole text.

Characters beyond the basic plane are escaped as two surrogate halves; `assemble` joins them, and
gives up where a half stands alone.
-/

namespace CaseScript.Json

/-- A token of JSON text. -/
inductive Token where
  | openBrace
  | closeBrace
  | openBracket
  | closeBracket
  | colon
  | comma
  | null
  | boolean (value : Bool)
  | number (spelling : String)
  | text (value : Option String)
  deriving DecidableEq, Repr

/-- A blank of JSON text. -/
def isBlank (c : Char) : Bool := c == ' ' || c == '\t' || c == '\n' || c == '\r'

/-! ## Numbers -/

/-- A run of digits and what follows it; nothing when there is no digit. -/
def digits? (cs : List Char) : Option (List Char × List Char) :=
  match cs.takeWhile Char.isDigit with
  | [] => none
  | run => some (run, cs.dropWhile Char.isDigit)

/-- The digits before the point: a zero alone, or a run that starts with another digit. -/
def whole? (cs : List Char) : Option (List Char × List Char) := do
  let (run, rest) ← digits? cs
  if run.head? == some '0' && run.length != 1 then none else some (run, rest)

/-- The point and the digits behind it, if there is a point. -/
def fraction? (cs : List Char) : Option (List Char × List Char) :=
  match cs with
  | [] => some ([], [])
  | c :: rest =>
    if c == '.' then (digits? rest).map fun (run, rest) => (c :: run, rest)
    else some ([], c :: rest)

/-- The sign of an exponent, if there is one. -/
def exponentSign (cs : List Char) : List Char × List Char :=
  match cs with
  | [] => ([], [])
  | c :: rest => if c == '+' || c == '-' then ([c], rest) else ([], c :: rest)

/-- The exponent, if there is one. -/
def exponent? (cs : List Char) : Option (List Char × List Char) :=
  match cs with
  | [] => some ([], [])
  | c :: rest =>
    if c == 'e' || c == 'E' then
      let (sign, rest) := exponentSign rest
      (digits? rest).map fun (run, rest) => (c :: sign ++ run, rest)
    else some ([], c :: rest)

/-- A number without its sign. -/
def unsigned? (cs : List Char) : Option (List Char × List Char) := do
  let (whole, cs) ← whole? cs
  let (fraction, cs) ← fraction? cs
  let (exponent, cs) ← exponent? cs
  some (whole ++ fraction ++ exponent, cs)

/-! ## Texts -/

/-- One unit of a text between quotes: a character as it stands, or an escaped unit of sixteen
bits. -/
inductive TextUnit where
  | char (c : Char)
  | unit (n : Nat)

/-- The character behind an escape of one letter. -/
def shortEscape? (c : Char) : Option Char :=
  if c == '"' || c == '\\' || c == '/' then some c
  else if c == 'b' then some (Char.ofNat 8)
  else if c == 'f' then some (Char.ofNat 12)
  else if c == 'n' then some '\n'
  else if c == 'r' then some '\r'
  else if c == 't' then some '\t'
  else none

/-- The units of a text up to its closing quote, and what follows the quote. -/
def textUnits : List Char → Option (List TextUnit × List Char)
  | [] => none
  | c :: rest =>
    if c == '"' then some ([], rest)
    else if c == '\\' then
      match rest with
      | [] => none
      | e :: rest =>
        if e == 'u' then
          match rest with
          | a :: b :: c :: d :: rest => do
            let n ← Text.hexNumber? [a, b, c, d]
            let (units, after) ← textUnits rest
            some (.unit n :: units, after)
          | _ => none
        else do
          let c ← shortEscape? e
          let (units, after) ← textUnits rest
          some (.char c :: units, after)
    else if c.toNat < 0x20 then none
    else do
      let (units, after) ← textUnits rest
      some (.char c :: units, after)

/-- The unit is the first half of a pair. -/
def isHighHalf (n : Nat) : Bool := 0xd800 ≤ n && n < 0xdc00

/-- The unit is the second half of a pair. -/
def isLowHalf (n : Nat) : Bool := 0xdc00 ≤ n && n < 0xe000

/-- The characters of the units; nothing when half of a pair stands alone. -/
def assemble : List TextUnit → Option (List Char)
  | [] => some []
  | .char c :: units => (assemble units).map (c :: ·)
  | .unit n :: units =>
    if isHighHalf n then
      match units with
      | .unit m :: units =>
        if isLowHalf m then
          (assemble units).map (Char.ofNat (0x10000 + (n - 0xd800) * 0x400 + (m - 0xdc00)) :: ·)
        else none
      | _ => none
    else if isLowHalf n then none
    else (assemble units).map (Char.ofNat n :: ·)

/-! ## Tokens -/

/-- What follows the letters, when the text starts with them. -/
def stripLetters : List Char → List Char → Option (List Char)
  | [], cs => some cs
  | _ :: _, [] => none
  | l :: ls, c :: cs => if l == c then stripLetters ls cs else none

/-- A token that is one mark. -/
def mark? (c : Char) : Option Token :=
  if c == '{' then some .openBrace
  else if c == '}' then some .closeBrace
  else if c == '[' then some .openBracket
  else if c == ']' then some .closeBracket
  else if c == ':' then some .colon
  else if c == ',' then some .comma
  else none

/-- The token that starts with a character, and what follows it. -/
def lexemeAt (c : Char) (rest : List Char) : Option (Token × List Char) :=
  match mark? c with
  | some token => some (token, rest)
  | none =>
    if c == '"' then
      (textUnits rest).map fun (units, after) =>
        (.text ((assemble units).map String.ofList), after)
    else if c == 'n' then (stripLetters ['u', 'l', 'l'] rest).map fun rest => (.null, rest)
    else if c == 't' then
      (stripLetters ['r', 'u', 'e'] rest).map fun rest => (.boolean true, rest)
    else if c == 'f' then
      (stripLetters ['a', 'l', 's', 'e'] rest).map fun rest => (.boolean false, rest)
    else if c == '-' then
      (unsigned? rest).map fun (spelling, rest) => (.number (String.ofList (c :: spelling)), rest)
    else
      (unsigned? (c :: rest)).map fun (spelling, rest) => (.number (String.ofList spelling), rest)

theorem length_of_digits? {cs run rest : List Char} (h : digits? cs = some (run, rest)) :
    rest.length < cs.length := by
  unfold digits? at h
  split at h
  · cases h
  · rename_i hne
    cases h
    have := congrArg List.length (List.takeWhile_append_dropWhile (p := Char.isDigit) (l := cs))
    have : 0 < (cs.takeWhile Char.isDigit).length := by
      cases hw : cs.takeWhile Char.isDigit with
      | nil => exact absurd hw hne
      | cons _ _ => simp
    simp only [List.length_append] at *
    omega

theorem length_of_fraction? {cs run rest : List Char} (h : fraction? cs = some (run, rest)) :
    rest.length ≤ cs.length := by
  unfold fraction? at h
  split at h
  · cases h
    simp
  · split at h
    · obtain ⟨⟨r, s⟩, hd, he⟩ := Option.map_eq_some_iff.1 h
      cases he
      have := length_of_digits? hd
      simp only [List.length_cons]
      omega
    · cases h
      simp

theorem length_exponentSign_le (cs : List Char) :
    (exponentSign cs).2.length ≤ cs.length := by
  unfold exponentSign
  split
  · simp
  · split <;> simp

theorem length_of_exponent? {cs run rest : List Char} (h : exponent? cs = some (run, rest)) :
    rest.length ≤ cs.length := by
  unfold exponent? at h
  split at h
  · cases h
    simp
  · rename_i c after
    split at h
    · obtain ⟨⟨r, s⟩, hd, he⟩ := Option.map_eq_some_iff.1 h
      cases he
      have h₁ : rest.length < (exponentSign after).2.length := length_of_digits? hd
      have h₂ := length_exponentSign_le after
      simp only [List.length_cons]
      exact Nat.le_of_lt (Nat.lt_of_lt_of_le h₁ (Nat.le_succ_of_le h₂))
    · cases h
      simp

theorem length_of_unsigned? {cs run rest : List Char} (h : unsigned? cs = some (run, rest)) :
    rest.length < cs.length := by
  simp only [unsigned?, whole?, Option.bind_eq_bind, Option.bind_eq_some_iff] at h
  obtain ⟨⟨whole, cs₁⟩, ⟨⟨run₁, rest₁⟩, h₁, hw⟩, ⟨fraction, cs₂⟩, h₂, ⟨exponent, cs₃⟩, h₃, he⟩ := h
  split at hw
  · cases hw
  · cases hw
    cases he
    have h₁ := length_of_digits? h₁
    have h₂ : cs₂.length ≤ rest₁.length := length_of_fraction? h₂
    have h₃ : cs₃.length ≤ cs₂.length := length_of_exponent? h₃
    exact Nat.lt_of_le_of_lt (Nat.le_trans h₃ h₂) h₁

theorem length_of_textUnits {cs rest : List Char} {units : List TextUnit}
    (h : textUnits cs = some (units, rest)) : rest.length < cs.length := by
  fun_induction textUnits cs generalizing units with
  | case1 => cases h
  | case2 =>
    cases h
    simp
  | case3 => cases h
  | case4 c _ _ e _ a b c' d after ih =>
    simp only [Option.bind_eq_bind, Option.bind_eq_some_iff] at h
    obtain ⟨n, _, ⟨units', after'⟩, h', he⟩ := h
    cases he
    have : after'.length < after.length := ih h'
    simp only [List.length_cons]
    omega
  | case5 => cases h
  | case6 c _ _ e after _ ih =>
    simp only [Option.bind_eq_bind, Option.bind_eq_some_iff] at h
    obtain ⟨n, _, ⟨units', after'⟩, h', he⟩ := h
    cases he
    have : after'.length < after.length := ih h'
    simp only [List.length_cons]
    omega
  | case7 => cases h
  | case8 c after _ _ _ ih =>
    simp only [Option.bind_eq_bind, Option.bind_eq_some_iff] at h
    obtain ⟨⟨units', after'⟩, h', he⟩ := h
    cases he
    have : after'.length < after.length := ih h'
    simp only [List.length_cons]
    omega

theorem length_of_stripLetters {letters cs rest : List Char}
    (h : stripLetters letters cs = some rest) : rest.length ≤ cs.length := by
  induction letters generalizing cs with
  | nil =>
    cases h
    exact Nat.le_refl _
  | cons l ls ih =>
    cases cs with
    | nil => cases h
    | cons c cs =>
      simp only [stripLetters] at h
      split at h
      · have := ih h
        simp only [List.length_cons]
        omega
      · cases h

theorem length_of_lexemeAt {c : Char} {rest after : List Char} {token : Token}
    (h : lexemeAt c rest = some (token, after)) : after.length ≤ rest.length := by
  unfold lexemeAt at h
  split at h
  · cases h
    exact Nat.le_refl _
  · split at h
    · obtain ⟨⟨units, after'⟩, h', he⟩ := Option.map_eq_some_iff.1 h
      cases he
      exact Nat.le_of_lt (length_of_textUnits h')
    · repeat' split at h
      all_goals
        obtain ⟨_, h', he⟩ := Option.map_eq_some_iff.1 h
        cases he
      · exact length_of_stripLetters h'
      · exact length_of_stripLetters h'
      · exact length_of_stripLetters h'
      · exact Nat.le_of_lt (length_of_unsigned? h')
      · exact Nat.le_of_lt_succ (length_of_unsigned? h')

/-- The tokens of a text. -/
def tokens : List Char → Option (List Token)
  | [] => some []
  | c :: rest =>
    if isBlank c then tokens rest
    else match h : lexemeAt c rest with
      | none => none
      | some (token, after) =>
        have : after.length ≤ rest.length := length_of_lexemeAt h
        (tokens after).map (token :: ·)
termination_by text => text.length

end CaseScript.Json
