import CaseScript.Text.Blank

/-!
# Trivia

Between the tokens of a script stand blanks and comments.  A comment starts with two slashes and
runs to the end of its line.

* `length_skipTrivia_le`: skipping never makes a script longer.
* `startsToken_skipTrivia` and `skipTrivia_idem`: what is left starts with no trivia.
-/

namespace CaseScript.Syntax

open CaseScript.Text

/-- Two slashes stand in front. -/
def startsComment : List Char → Bool
  | c :: d :: _ => c == '/' && d == '/'
  | _ => false

/-- The script from its first token on, read from inside a comment or from outside. -/
def skipFrom (inComment : Bool) : List Char → List Char
  | [] => []
  | c :: rest =>
    if inComment then skipFrom (c != '\n') rest
    else if isBlank c then skipFrom false rest
    else if startsComment (c :: rest) then skipFrom true rest
    else c :: rest

/-- The script from its first token on. -/
def skipTrivia (text : List Char) : List Char := skipFrom false text

/-- No blank and no comment stands in front. -/
def StartsToken : List Char → Prop
  | [] => True
  | c :: rest => isBlank c = false ∧ startsComment (c :: rest) = false

theorem length_skipFrom_le (inComment : Bool) (text : List Char) :
    (skipFrom inComment text).length ≤ text.length := by
  induction text generalizing inComment with
  | nil => simp [skipFrom]
  | cons c rest ih =>
    have h₁ := ih (c != '\n')
    have h₂ := ih false
    have h₃ := ih true
    unfold skipFrom
    repeat' split
    all_goals simp only [List.length_cons]; omega

theorem length_skipTrivia_le (text : List Char) : (skipTrivia text).length ≤ text.length :=
  length_skipFrom_le false text

/-- What follows the first character of a token is shorter. -/
theorem length_lt_of_skipTrivia {c : Char} {text rest : List Char}
    (h : skipTrivia text = c :: rest) : rest.length < text.length := by
  have hle := length_skipTrivia_le text
  rw [h, List.length_cons] at hle
  exact hle

theorem startsToken_skipFrom (inComment : Bool) (text : List Char) :
    StartsToken (skipFrom inComment text) := by
  induction text generalizing inComment with
  | nil => simp [skipFrom, StartsToken]
  | cons c rest ih =>
    unfold skipFrom
    split
    · exact ih _
    · split
      · exact ih _
      · split
        · exact ih _
        · simp_all [StartsToken]

theorem startsToken_skipTrivia (text : List Char) : StartsToken (skipTrivia text) :=
  startsToken_skipFrom false text

theorem startsToken_cons {c : Char} (hblank : isBlank c = false) (hc : c ≠ '/')
    (text : List Char) : StartsToken (c :: text) := by
  refine ⟨hblank, ?_⟩
  cases text <;> simp [startsComment, hc]

/-- Nothing is skipped where a token starts. -/
theorem skipTrivia_of_startsToken {text : List Char} (h : StartsToken text) :
    skipTrivia text = text := by
  cases text with
  | nil => rfl
  | cons c rest => simp [skipTrivia, skipFrom, h.1, h.2]

theorem skipTrivia_idem (text : List Char) : skipTrivia (skipTrivia text) = skipTrivia text :=
  skipTrivia_of_startsToken (startsToken_skipTrivia text)

end CaseScript.Syntax
