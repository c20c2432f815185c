import CaseScript.Syntax.Reader
import CaseScript.Syntax.Trivia
import CaseScript.Text.Alphanumeric

/-!
# Tokens

The tokens of the case language.  Every token reader passes over trivia first, so a statement form
is a plain sequence of tokens.

* `word`: a word of the language in any ASCII case, not followed by another word character.
* `quotedText`: any characters between two equal quotes, taken as they stand.
* `braceText`: the trimmed text between an opening brace and the brace that closes it.
* `quotedTexts`: one or more quoted texts, up to where no further one can be read.
* `endOfStatement`: a semicolon, the word `case` ahead, or the end of the script.

The lemmas `shrinks_word`, `shrinks_quotedText`, `shrinks_braceText` and `shrinks_quotedTexts` say
that a token that is read makes the script shorter.
-/

namespace CaseScript.Syntax

open CaseScript.Text Reader

/-- What follows a word, when the text starts with it in any ASCII case. -/
def stripWord : List Char → List Char → Option (List Char)
  | [], text => some text
  | _ :: _, [] => none
  | w :: ws, c :: text => if c.toLower == w then stripWord ws text else none

/-- No word character stands in front. -/
def endsWord : List Char → Bool
  | [] => true
  | c :: _ => !isWordChar c

/-- A word of the language. -/
def word (keyword : Keyword) : Reader Unit := fun text =>
  let text := skipTrivia text
  match stripWord keyword.word.toList text with
  | some rest => if endsWord rest then .ok ((), rest) else failAt text [.word keyword]
  | none => failAt text [.word keyword]

/-- The character opens and closes quoted text. -/
def isQuote (c : Char) : Bool := c == '\'' || c == '"'

/-- A text between two equal quotes. -/
def quotedText : Reader String := fun text =>
  match skipTrivia text with
  | [] => failAt [] [.quotedText]
  | quote :: body =>
    if isQuote quote then
      match body.dropWhile (· != quote) with
      | _ :: rest => .ok (String.ofList (body.takeWhile (· != quote)), rest)
      | [] => failAt [] [.closingQuote]
    else failAt (quote :: body) [.quotedText]

/-- The text before the brace that closes the open ones, `depth` inner ones and an outer one, and
the text after it. -/
def untilClosed (depth : Nat) : List Char → Option (List Char × List Char)
  | [] => none
  | c :: rest =>
    if c == '}' then
      match depth with
      | 0 => some ([], rest)
      | inner + 1 => (untilClosed inner rest).map fun (body, after) => (c :: body, after)
    else
      (untilClosed (if c == '{' then depth + 1 else depth) rest).map
        fun (body, after) => (c :: body, after)

/-- A text between braces, trimmed; braces inside it are balanced. -/
def braceText : Reader String := fun text =>
  match skipTrivia text with
  | [] => failAt [] [.openBrace]
  | c :: body =>
    if c == '{' then
      match untilClosed 0 body with
      | some (inside, rest) => .ok (String.ofList (trim inside), rest)
      | none => failAt [] [.closeBrace]
    else failAt (c :: body) [.openBrace]

theorem length_of_stripWord {keyword text rest : List Char}
    (h : stripWord keyword text = some rest) : rest.length + keyword.length = text.length := by
  induction keyword generalizing text with
  | nil => simp [stripWord] at h; simp [h]
  | cons w ws ih =>
    cases text with
    | nil => simp [stripWord] at h
    | cons c text =>
      simp only [stripWord] at h
      split at h
      · have := ih h
        simp only [List.length_cons]
        omega
      · cases h

theorem shrinks_word (keyword : Keyword) : Shrinks (word keyword) := by
  intro text value rest run
  have htrivia := length_skipTrivia_le text
  have hpos := keyword.length_word_pos
  unfold word at run
  dsimp only at run
  split at run
  · rename_i after h
    have := length_of_stripWord h
    split at run
    · cases run
      omega
    · cases run
  · cases run

theorem length_dropWhile_le {p : Char → Bool} (cs : List Char) :
    (cs.dropWhile p).length ≤ cs.length :=
  (List.dropWhile_sublist _).length_le

theorem shrinks_quotedText : Shrinks quotedText := by
  intro text value rest run
  have htrivia := length_skipTrivia_le text
  unfold quotedText at run
  split at run
  · cases run
  · rename_i quote body heq
    rw [heq] at htrivia
    have hdrop := length_dropWhile_le (p := (· != quote)) body
    split at run
    · split at run
      · rename_i after h
        cases run
        rw [h] at hdrop
        simp only [List.length_cons] at htrivia hdrop
        omega
      · cases run
    · cases run

theorem length_of_untilClosed {depth : Nat} {text body rest : List Char}
    (h : untilClosed depth text = some (body, rest)) :
    body.length + rest.length + 1 = text.length := by
  induction text generalizing depth body with
  | nil => simp [untilClosed] at h
  | cons c text ih =>
    unfold untilClosed at h
    split at h
    · split at h
      · cases h
        simp
      · obtain ⟨⟨inside, after⟩, h, he⟩ := Option.map_eq_some_iff.1 h
        cases he
        have := ih h
        simp only [List.length_cons]
        omega
    · obtain ⟨⟨inside, after⟩, h, he⟩ := Option.map_eq_some_iff.1 h
      cases he
      have := ih h
      simp only [List.length_cons]
      omega

theorem shrinks_braceText : Shrinks braceText := by
  intro text value rest run
  have htrivia := length_skipTrivia_le text
  unfold braceText at run
  split at run
  · cases run
  · rename_i c body heq
    rw [heq] at htrivia
    split at run
    · split at run
      · rename_i inside after h
        have := length_of_untilClosed h
        cases run
        simp only [List.length_cons] at htrivia
        omega
      · cases run
    · cases run

/-- The quoted texts in front, up to where no further one can be read, and what follows them. -/
def leadingQuoted (text : List Char) : List String × List Char :=
  match h : quotedText text with
  | .ok (value, rest) =>
    have : rest.length < text.length := shrinks_quotedText _ _ _ h
    let (values, after) := leadingQuoted rest
    (value :: values, after)
  | .error _ => ([], text)
termination_by text.length

/-- One or more quoted texts. -/
def quotedTexts : Reader (List String) := do
  let value ← quotedText
  let (values, rest) := leadingQuoted (← get)
  set rest
  return value :: values

theorem length_leadingQuoted_le (text : List Char) :
    (leadingQuoted text).2.length ≤ text.length := by
  fun_induction leadingQuoted text with
  | case1 text value rest h hlt values after heq ih =>
    rw [heq] at ih
    dsimp only at ih ⊢
    omega
  | case2 => simp

theorem shrinks_quotedTexts : Shrinks quotedTexts := by
  refine Shrinks.bind shrinks_quotedText fun value => ?_
  intro text result rest run
  cases run
  exact length_leadingQuoted_le text

/-- A statement ends at a semicolon, in front of the word `case`, or with the script. -/
def endOfStatement : Reader Unit := fun text =>
  match skipTrivia text with
  | [] => .ok ((), [])
  | c :: rest =>
    if c == ';' then .ok ((), rest)
    else match word .caseWord (c :: rest) with
      | .ok _ => .ok ((), c :: rest)
      | .error _ => failAt (c :: rest) [.semicolon, .word .caseWord, .endOfInput]

theorem bounded_endOfStatement : Bounded endOfStatement := by
  intro text value rest run
  have htrivia := length_skipTrivia_le text
  unfold endOfStatement at run
  split at run
  · cases run
    simp
  · rename_i c after heq
    rw [heq] at htrivia
    split at run
    · cases run
      simp only [List.length_cons] at htrivia
      omega
    · split at run
      · cases run
        exact htrivia
      · cases run

end CaseScript.Syntax
