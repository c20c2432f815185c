import CaseScript.Proofs.Syntax.Completion

/-!
# What a syntax error reports

A syntax error names a place of the script by its bytes, by its line and column and by the word that
stands there.  This file shows that the three belong together, and that the place is one at which a
token could start.

There are four groups.

* `AtLineColumn` describes the line and the column of a place, and `SyntaxError.PointsAt` an error
  at a place.
* Lines.  `AtLineColumn.unique`: a line and a column name one place of a text.
* Readers.  `StopsAtToken` says that a reader fails in front of a token and names what it misses
  there, with one lemma for each way to put readers together.
* Errors.  `SyntaxError.pointsAt_ofFailure` makes the error of such a failure, and
  `SyntaxError.pointsAt_of_parse` is the result for scripts and single statements.
-/

namespace CaseScript

open CaseScript.Text CaseScript.Syntax Reader

/-- Behind the text follows the character in a column of a line: above stand whole lines, and the
line itself has come as far as the column.  Both count from 1. -/
def AtLineColumn (text : List Char) (line column : Nat) : Prop :=
  ∃ above ahead, text = above ++ ahead ∧ (above = [] ∨ above.getLast? = some '\n') ∧
    '\n' ∉ ahead ∧ line = above.count '\n' + 1 ∧ column = ahead.length + 1

/-- The error stands between two parts of the source. -/
structure SyntaxError.PointsAt (error : SyntaxError) (before rest : String) : Prop where
  offset : error.offset = before.utf8ByteSize
  /-- The place is in the source and not inside of a character. -/
  boundary : String.Pos.Raw.IsValid (before ++ rest) ⟨error.offset⟩
  /-- Neither a blank nor a comment stands there. -/
  token : StartsToken rest.toList
  atEnd : error.isAtEnd = true ↔ error.offset = (before ++ rest).utf8ByteSize
  /-- No other place of the source has this line and this column. -/
  lineColumn : ∀ front back, front ++ back = before ++ rest →
    (AtLineColumn front.toList error.line error.column ↔ front = before)
  /-- The word goes on to the next blank, and the error names its first 24 characters. -/
  found : ∃ word more, rest.toList = word ++ more ∧ (∀ c ∈ word, isBlank c = false) ∧
    (∀ c, more.head? = some c → isBlank c = true) ∧ error.found.toList = word.take 24
  named : error.expected ≠ []
  /-- The labels ascend, so none comes twice. -/
  sorted : (error.expected.map Expected.label).Pairwise (· < ·)

/-! ## Lines -/

section Lines

variable {text other above above' : List Char} {line column : Nat}

/-- Whole lines in front of others are all of them if they are as many. -/
theorem eq_of_count_lineBreak (hfront : above <+: above')
    (hends : above' = [] ∨ above'.getLast? = some '\n')
    (h : above.count '\n' = above'.count '\n') : above = above' := by
  obtain ⟨more, rfl⟩ := hfront
  rw [List.count_append, Nat.left_eq_add, List.count_eq_zero] at h
  cases hmore : more with
  | nil => rw [List.append_nil]
  | cons c rest =>
    have hne : more ≠ [] := hmore ▸ List.cons_ne_nil c rest
    rcases hends with hnil | hlast
    · exact absurd (List.append_eq_nil_iff.1 hnil).2 hne
    · rw [List.getLast?_append_of_ne_nil _ hne] at hlast
      exact absurd (List.mem_of_getLast? hlast) h

/-- A line and a column name one place of a text. -/
theorem AtLineColumn.unique {source : List Char} (h : AtLineColumn text line column)
    (h' : AtLineColumn other line column) (htext : text <+: source) (hother : other <+: source) :
    text = other := by
  obtain ⟨above, ahead, rfl, hends, -, rfl, rfl⟩ := h
  obtain ⟨above', ahead', rfl, hends', -, hline, hcolumn⟩ := h'
  have habove : above = above' := by
    have hcount : above.count '\n' = above'.count '\n' := Nat.succ.inj hline
    rcases List.prefix_or_prefix_of_prefix ((List.prefix_append _ _).trans htext)
      ((List.prefix_append _ _).trans hother) with hfront | hfront
    · exact eq_of_count_lineBreak hfront hends' hcount
    · exact (eq_of_count_lineBreak hfront hends hcount.symm).symm
  subst habove
  have hlength : (above ++ ahead).length = (above ++ ahead').length := by
    rw [List.length_append, List.length_append, Nat.succ.inj hcolumn]
  exact (List.prefix_of_prefix_length_le htext hother (Nat.le_of_eq hlength)).eq_of_length hlength

/-- The line of a place is counted by the line breaks in front of it, and its column from the last
one of them. -/
theorem atLineColumn_count (text : List Char) :
    AtLineColumn text (text.count '\n' + 1)
      ((text.reverse.takeWhile (· != '\n')).length + 1) := by
  have hparts : text = (text.reverse.dropWhile (· != '\n')).reverse ++
      (text.reverse.takeWhile (· != '\n')).reverse := by
    rw [← List.reverse_append, List.takeWhile_append_dropWhile, List.reverse_reverse]
  have hahead : '\n' ∉ text.reverse.takeWhile (· != '\n') := fun hmem => by
    simpa using List.all_eq_true.1 List.all_takeWhile _ hmem
  refine ⟨_, _, hparts, ?_, List.mem_reverse.not.2 hahead, ?_, by rw [List.length_reverse]⟩
  · rw [List.reverse_eq_nil_iff, List.getLast?_reverse]
    cases h : text.reverse.dropWhile (· != '\n') with
    | nil => exact .inl rfl
    | cons c more =>
      have hc := List.head?_dropWhile_not (· != '\n') text.reverse
      rw [h] at hc
      exact .inr (by simpa using hc)
  · conv_lhs => rw [hparts]
    rw [List.count_append, List.count_eq_zero.2 (List.mem_reverse.not.2 hahead), Nat.add_zero]

end Lines

/-! ## Readers -/

namespace Syntax

/-- The failure stands in front of a token and names what is missed there. -/
structure Failure.AtToken (failure : Failure) : Prop where
  token : StartsToken failure.rest
  named : failure.expected ≠ []

theorem Failure.AtToken.furthest {a b : Failure} (ha : a.AtToken)
    (hb : a.rest.length ≤ b.rest.length ∨ b.AtToken) : (a.furthest b).AtToken := by
  rcases Nat.lt_trichotomy a.rest.length b.rest.length with h | h | h
  · rw [furthest_of_lt h]
    exact ha
  · rw [furthest_of_eq h]
    exact ⟨ha.token, fun hnil => ha.named (List.append_eq_nil_iff.1 hnil).1⟩
  · rw [furthest_of_gt h]
    exact hb.resolve_left (Nat.not_le.2 h)

namespace Reader

variable {α β : Type}

/-- The reader fails in front of a token. -/
def StopsAtToken (reader : Reader α) : Prop :=
  ∀ text failure, reader text = .error failure → failure.AtToken

theorem stopsAtToken_pure (value : α) : StopsAtToken (pure value : Reader α) := by
  intro text failure h
  cases h

theorem StopsAtToken.bind {reader : Reader α} {next : α → Reader β} (h : StopsAtToken reader)
    (hn : ∀ value, StopsAtToken (next value)) : StopsAtToken (reader >>= next) := by
  intro text failure hfail
  rcases bind_eq_error.1 hfail with hfirst | ⟨value, rest, -, hnext⟩
  · exact h text failure hfirst
  · exact hn value rest failure hnext

theorem stopsAtToken_optional (reader : Reader α) : StopsAtToken (optional reader) :=
  fun _ _ h => absurd h optional_ne_error

/-- A choice fails where the reader that comes furthest does, so there has to be one. -/
theorem stopsAtToken_firstOf {readers : List (Reader α)} (hne : readers ≠ [])
    (hends : ∀ reader ∈ readers, LeavesEnd reader)
    (h : ∀ reader ∈ readers, StopsAtToken reader) : StopsAtToken (firstOf readers) := by
  induction readers with
  | nil => exact absurd rfl hne
  | cons reader readers ih =>
    obtain ⟨hend, hends⟩ := List.forall_mem_cons.1 hends
    obtain ⟨hreader, hreaders⟩ := List.forall_mem_cons.1 h
    intro text failure hfail
    unfold firstOf at hfail
    split at hfail
    · cases hfail
    · rename_i first hfirst
      split at hfail
      · cases hfail
      · rename_i other hother
        cases hfail
        refine (hreader text first hfirst).furthest ?_
        cases readers with
        | nil =>
          -- no reader is left: that failure names nothing, but nothing stands further in front
          cases hother
          have hrest := hend text
          rw [hfirst] at hrest
          exact .inl hrest.length_le
        | cons second readers =>
          exact .inr (ih (List.cons_ne_nil second readers) hends hreaders text other hother)

end Reader

theorem Failure.atToken_skipTrivia (text : List Char) (first : Expected) (more : List Expected) :
    Failure.AtToken ⟨skipTrivia text, first :: more⟩ :=
  ⟨startsToken_skipTrivia text, List.cons_ne_nil first more⟩

theorem Failure.atToken_end (token : Expected) : Failure.AtToken ⟨[], [token]⟩ :=
  ⟨trivial, List.cons_ne_nil token []⟩

theorem stopsAtToken_word (keyword : Keyword) : StopsAtToken (word keyword) := by
  intro text failure h
  rw [word_eq_error h]
  exact Failure.atToken_skipTrivia text _ _

theorem stopsAtToken_quotedText : StopsAtToken quotedText := by
  intro text failure h
  unfold quotedText at h
  split at h
  · cases h
    exact Failure.atToken_end _
  · rename_i quote body htext
    split at h
    · split at h
      · cases h
      · cases h
        exact Failure.atToken_end _
    · cases h
      exact htext ▸ Failure.atToken_skipTrivia text _ _

theorem stopsAtToken_braceText : StopsAtToken braceText := by
  intro text failure h
  unfold braceText at h
  split at h
  · cases h
    exact Failure.atToken_end _
  · rename_i c body htext
    split at h
    · split at h
      · cases h
      · cases h
        exact Failure.atToken_end _
    · cases h
      exact htext ▸ Failure.atToken_skipTrivia text _ _

theorem stopsAtToken_quotedTexts : StopsAtToken quotedTexts := by
  refine stopsAtToken_quotedText.bind fun value text failure h => ?_
  cases h

theorem stopsAtToken_endOfStatement : StopsAtToken endOfStatement := by
  intro text failure h
  rw [endOfStatement_eq_error h]
  exact Failure.atToken_skipTrivia text _ _

theorem stopsAtToken_wordChoice {α : Type} (keyword : α → Keyword) (first : α) (values : List α) :
    StopsAtToken
      (firstOf ((first :: values).map fun value => do word (keyword value); return value)) := by
  refine stopsAtToken_firstOf (List.cons_ne_nil _ _) ?_ ?_
  · simp only [List.mem_map]
    rintro reader ⟨value, -, rfl⟩
    exact (leavesEnd_word _).bind fun _ => leavesEnd_pure _
  · simp only [List.mem_map]
    rintro reader ⟨value, -, rfl⟩
    exact (stopsAtToken_word _).bind fun _ => stopsAtToken_pure _

theorem Form.stopsAtToken_read (form : Form) : StopsAtToken form.read :=
  form.read_of_tokens stopsAtToken_pure StopsAtToken.bind stopsAtToken_word
    (fun keyword => stopsAtToken_optional (word keyword)) stopsAtToken_quotedText
    stopsAtToken_quotedTexts stopsAtToken_braceText
    (stopsAtToken_wordChoice Direction.keyword .left [.right])
    (stopsAtToken_wordChoice Operator.keyword .equal [.like])

theorem stopsAtToken_statement : StopsAtToken statement := by
  refine (stopsAtToken_word _).bind fun _ =>
    stopsAtToken_firstOf (by simp [Form.all]) Form.leavesEnd_of_mem ?_
  simp only [List.mem_map]
  rintro reader ⟨form, -, rfl⟩
  exact form.stopsAtToken_read.bind fun _ =>
    stopsAtToken_endOfStatement.bind fun _ => stopsAtToken_pure _

end Syntax

/-! ## Errors -/

theorem Text.firstWord_of_startsToken {text : List Char} (h : StartsToken text) :
    firstWord text = text.takeWhile fun c => !isBlank c := by
  cases text with
  | nil => rfl
  | cons c rest =>
    have hc : isBlank c = false := h.1
    rw [firstWord, trimStart, List.dropWhile_cons, hc]
    rfl

theorem Text.firstWord_eq_nil_iff {text : List Char} (h : StartsToken text) :
    firstWord text = [] ↔ text = [] := by
  rw [firstWord_of_startsToken h]
  cases text with
  | nil => exact Iff.rfl
  | cons c rest =>
    have hc : isBlank c = false := h.1
    rw [List.takeWhile_cons, hc]
    exact iff_of_false (List.cons_ne_nil c _) (List.cons_ne_nil c rest)

namespace SyntaxError

variable {front rest : List Char} {index : Nat} {expected : List Expected}

theorem line_ofFailure :
    (ofFailure (front ++ rest) index ⟨rest, expected⟩).line = front.count '\n' + 1 :=
  congrArg (fun before : List Char => before.count '\n' + 1) (take_front front rest)

theorem column_ofFailure :
    (ofFailure (front ++ rest) index ⟨rest, expected⟩).column =
      (front.reverse.takeWhile (· != '\n')).length + 1 :=
  congrArg (fun before : List Char => (before.reverse.takeWhile (· != '\n')).length + 1)
    (take_front front rest)

theorem offset_ofFailure_ofList :
    (ofFailure (front ++ rest) index ⟨rest, expected⟩).offset =
      (String.ofList front).utf8ByteSize := by
  rw [offset_ofFailure, ← utf8Length_toList, String.toList_ofList]

/-- The error of a failure in front of a token points at the place of the failure. -/
theorem pointsAt_ofFailure (h : Failure.AtToken ⟨rest, expected⟩) :
    (ofFailure (front ++ rest) index ⟨rest, expected⟩).PointsAt (String.ofList front)
      (String.ofList rest) where
  offset := offset_ofFailure_ofList
  boundary := String.Pos.Raw.isValid_iff_exists_append.2
    ⟨_, _, rfl, congrArg String.Pos.Raw.mk offset_ofFailure_ofList⟩
  token := by
    rw [String.toList_ofList]
    exact h.token
  atEnd := by
    rw [offset_ofFailure_ofList, String.utf8ByteSize_append, Nat.left_eq_add,
      String.utf8ByteSize_eq_zero_iff, String.ofList_eq_empty_iff, ← firstWord_eq_nil_iff h.token,
      isAtEnd, ofFailure, String.isEmpty_iff, String.ofList_eq_empty_iff, List.take_eq_nil_iff]
    exact or_iff_right (by decide)
  lineColumn text back htext := by
    rw [line_ofFailure, column_ofFailure]
    refine ⟨fun hplace => String.toList_inj.1 ?_, ?_⟩
    · rw [String.toList_ofList]
      have hsource : text.toList ++ back.toList = front ++ rest := by
        rw [← String.toList_append, htext, String.toList_append, String.toList_ofList,
          String.toList_ofList]
      exact hplace.unique (atLineColumn_count front) ⟨_, hsource⟩ (List.prefix_append front rest)
    · rintro rfl
      rw [String.toList_ofList]
      exact atLineColumn_count front
  found := by
    rw [String.toList_ofList]
    refine ⟨firstWord rest, rest.dropWhile fun c => !isBlank c, ?_, fun c hc => ?_, fun c hc => ?_,
      String.toList_ofList⟩
    · rw [firstWord_of_startsToken h.token, List.takeWhile_append_dropWhile]
    · simpa using List.all_eq_true.1 List.all_takeWhile c hc
    · have hstop := List.head?_dropWhile_not (fun c => !isBlank c) rest
      rw [hc] at hstop
      simpa using hstop
  named := by
    obtain ⟨token, htoken⟩ := List.exists_mem_of_ne_nil expected h.named
    have hmem : token ∈ Expected.inLabelOrder.filter expected.contains :=
      List.mem_filter.2 ⟨Expected.mem_inLabelOrder token, List.contains_iff_mem.2 htoken⟩
    exact List.ne_nil_of_mem hmem
  sorted := Expected.inLabelOrder_sorted.sublist (List.filter_sublist.map _)

end SyntaxError

/-- A single statement fails where it stops, or at the text behind it. -/
theorem Action.exists_failure_of_parse {source : String} {error : SyntaxError}
    (h : Action.parse source = .error error) :
    ∃ failure : Failure, failure.AtToken ∧ failure.rest <:+ source.toList ∧
      error = .ofFailure source.toList 0 failure := by
  unfold Action.parse at h
  split at h
  · rename_i failure hfault
    have hsuffix := leavesEnd_statement source.toList
    rw [hfault] at hsuffix
    cases h
    exact ⟨failure, stopsAtToken_statement _ _ hfault, hsuffix, rfl⟩
  · rename_i action rest hstatement
    split at h
    · cases h
    · cases h
      exact ⟨⟨skipTrivia rest, [.endOfInput]⟩, Failure.atToken_skipTrivia rest _ _,
        (suffix_skipTrivia rest).trans (suffix_of_statement hstatement), rfl⟩

/-- An error of a script points at the place at which its faulty statement stops, and an error of a
single statement at a place of it. -/
theorem SyntaxError.pointsAt_of_parse (source : String) :
    (∀ error, Program.parse source = .error error → ∃ earlier failing rest before,
      source = earlier ++ failing ++ rest ∧ error.PointsAt (earlier ++ failing) rest ∧
      error.StandsAt earlier failing rest before) ∧
    (∀ error, Action.parse source = .error error → ∃ before rest,
      source = before ++ rest ∧ error.PointsAt before rest ∧ error.statement = 0) := by
  refine ⟨fun error h => ?_, fun error h => ?_⟩
  · obtain ⟨index, ⟨rest, expected⟩, hread, rfl⟩ := Program.parse_eq_error_iff.1 h
    obtain ⟨before, start, hbefore, rfl, hne, hfault⟩ := exists_readsUpTo hread
    have hplace : Failure.AtToken ⟨rest, expected⟩ := stopsAtToken_statement start _ hfault
    obtain ⟨lead, rfl⟩ : rest <:+ start := by
      have hsuffix := leavesEnd_statement start
      rwa [hfault] at hsuffix
    obtain ⟨earlier, hsource⟩ := hbefore.suffix
    rw [← List.append_assoc] at hsource
    rw [← hsource] at hbefore ⊢
    refine ⟨.ofList earlier, .ofList lead, .ofList rest, before, ?_, ?_,
      hbefore.standsAt hne hfault⟩
    · rw [← String.toList_inj, ← hsource]
      simp [String.toList_append]
    · rw [← String.ofList_append]
      exact pointsAt_ofFailure hplace
  · obtain ⟨⟨rest, expected⟩, hplace, ⟨front, hsource⟩, rfl⟩ := Action.exists_failure_of_parse h
    refine ⟨.ofList front, .ofList rest, ?_, hsource ▸ pointsAt_ofFailure hplace, rfl⟩
    rw [← String.ofList_append, hsource, String.ofList_toList]

/-- A comment with a letter of two bytes stands in front of the fault, in a script and behind a
single statement. -/
theorem SyntaxError.pointsAt_of_parse_comment :
    Program.parse "case scope 'é'; // ü\n  case load § // b" =
      .error ⟨1, 35, 2, 13, [.word .file, .word .query], "§"⟩ ∧
    (∃ earlier failing rest before,
      "case scope 'é'; // ü\n  case load § // b" = earlier ++ failing ++ rest ∧
      SyntaxError.PointsAt ⟨1, 35, 2, 13, [.word .file, .word .query], "§"⟩ (earlier ++ failing)
        rest ∧
      SyntaxError.StandsAt ⟨1, 35, 2, 13, [.word .file, .word .query], "§"⟩ earlier failing rest
        before) ∧
    Action.parse "case scope 'é' // ü\n case" = .error ⟨0, 23, 2, 2, [.endOfInput], "case"⟩ ∧
    (∃ before rest, "case scope 'é' // ü\n case" = before ++ rest ∧
      SyntaxError.PointsAt ⟨0, 23, 2, 2, [.endOfInput], "case"⟩ before rest ∧
      (⟨0, 23, 2, 2, [.endOfInput], "case"⟩ : SyntaxError).statement = 0) := by
  have hscript : Program.parse "case scope 'é'; // ü\n  case load § // b" =
      .error ⟨1, 35, 2, 13, [.word .file, .word .query], "§"⟩ := by decide +kernel
  have hlone : Action.parse "case scope 'é' // ü\n case" =
      .error ⟨0, 23, 2, 2, [.endOfInput], "case"⟩ := by decide +kernel
  exact ⟨hscript, (SyntaxError.pointsAt_of_parse _).1 _ hscript, hlone,
    (SyntaxError.pointsAt_of_parse _).2 _ hlone⟩

end CaseScript
