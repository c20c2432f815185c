/-!
# Blanks

White space in scripts, queries and connection texts is the Unicode property `White_Space`, not the
ASCII blanks alone.  This file holds the test for one character and the three ways of cutting text
at blanks: `trimStart`, `trim` and `firstWord`.

* `trimStart_idem` and `trimStart_head`: after `trimStart` no blank is left in front.
* `length_trimStart_le`: cutting never makes text longer.
* `trim_idem`: trimmed text stays as it is.
* `exists_trim`: what is cut off around a text are blanks.
-/

namespace CaseScript.Text

/-- White space: the characters of the property `White_Space`. -/
def isBlank (c : Char) : Bool :=
  let n := c.toNat
  (9 ≤ n && n ≤ 13) || n == 0x20 || n == 0x85 || n == 0xa0 || n == 0x1680 ||
    (0x2000 ≤ n && n ≤ 0x200a) || n == 0x2028 || n == 0x2029 || n == 0x202f ||
    n == 0x205f || n == 0x3000

/-- Text without the blanks in front. -/
def trimStart (cs : List Char) : List Char := cs.dropWhile isBlank

/-- Text without the blanks behind. -/
def trimEnd (cs : List Char) : List Char := (trimStart cs.reverse).reverse

/-- Text without the blanks in front and behind. -/
def trim (cs : List Char) : List Char := trimEnd (trimStart cs)

/-- A string without the blanks in front and behind. -/
def trimmed (s : String) : String := String.ofList (trim s.toList)

/-- The characters up to the first blank, after the blanks in front. -/
def firstWord (cs : List Char) : List Char := (trimStart cs).takeWhile fun c => !isBlank c

theorem length_trimStart_le (cs : List Char) : (trimStart cs).length ≤ cs.length :=
  (List.dropWhile_sublist _).length_le

theorem trimStart_head {cs rest : List Char} {c : Char} (h : trimStart cs = c :: rest) :
    isBlank c = false := by
  induction cs with
  | nil => simp [trimStart] at h
  | cons d ds ih =>
    simp only [trimStart, List.dropWhile_cons] at h ih
    split at h
    · exact ih h
    · simp_all

theorem trimStart_idem (cs : List Char) : trimStart (trimStart cs) = trimStart cs := by
  cases h : trimStart cs with
  | nil => rfl
  | cons c rest => simp [trimStart, trimStart_head h]

theorem trimStart_cons_of_blank {c : Char} (h : isBlank c = true) (cs : List Char) :
    trimStart (c :: cs) = trimStart cs := by
  simp [trimStart, h]

theorem trimEnd_idem (cs : List Char) : trimEnd (trimEnd cs) = trimEnd cs := by
  simp only [trimEnd, List.reverse_reverse, trimStart_idem]

theorem trimEnd_append_blank {c : Char} (h : isBlank c = true) (cs : List Char) :
    trimEnd (cs ++ [c]) = trimEnd cs := by
  simp [trimEnd, trimStart_cons_of_blank h]

/-- A character in front that is no blank stays in front. -/
theorem trimEnd_cons {c : Char} (h : isBlank c = false) (cs : List Char) :
    trimEnd (c :: cs) = c :: trimEnd cs := by
  simp only [trimEnd, trimStart, List.reverse_cons, List.dropWhile_append]
  cases hd : cs.reverse.dropWhile isBlank with
  | nil => simp [h]
  | cons d ds => simp

theorem trim_idem (cs : List Char) : trim (trim cs) = trim cs := by
  unfold trim
  cases h : trimStart cs with
  | nil => rfl
  | cons c rest =>
    have hc := trimStart_head h
    have hstart : trimStart (c :: trimEnd rest) = c :: trimEnd rest := by simp [trimStart, hc]
    rw [trimEnd_cons hc, hstart, trimEnd_cons hc, trimEnd_idem]

theorem trim_cons_of_blank {c : Char} (h : isBlank c = true) (cs : List Char) :
    trim (c :: cs) = trim cs := by
  rw [trim, trimStart_cons_of_blank h, trim]

theorem trim_append_blank {c : Char} (h : isBlank c = true) (cs : List Char) :
    trim (cs ++ [c]) = trim cs := by
  simp only [trim, trimStart, List.dropWhile_append]
  cases hd : cs.dropWhile isBlank with
  | nil => simp [h]
  | cons d ds => exact trimEnd_append_blank h _

theorem exists_trim (cs : List Char) :
    ∃ front back, cs = front ++ trim cs ++ back ∧ (∀ c ∈ front, isBlank c = true) ∧
      ∀ c ∈ back, isBlank c = true := by
  refine ⟨cs.takeWhile isBlank, ((trimStart cs).reverse.takeWhile isBlank).reverse, ?_, ?_, ?_⟩
  · have hend : trim cs ++ ((trimStart cs).reverse.takeWhile isBlank).reverse = trimStart cs := by
      rw [trim, trimEnd, ← List.reverse_append, trimStart.eq_1 (trimStart cs).reverse,
        List.takeWhile_append_dropWhile, List.reverse_reverse]
    rw [List.append_assoc, hend, trimStart, List.takeWhile_append_dropWhile]
  · intro c hc
    exact List.all_eq_true.1 List.all_takeWhile c hc
  · intro c hc
    exact List.all_eq_true.1 List.all_takeWhile c (List.mem_reverse.1 hc)

end CaseScript.Text
