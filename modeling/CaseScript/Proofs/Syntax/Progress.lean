import CaseScript.Proofs.Syntax.Bytes
import CaseScript.Proofs.Syntax.Completion

/-!
# Reading comes to an end

A script is read in three loops: over the trivia in front of a token, over the values of a filter
and over the statements.  None of them knows beforehand how often it has to go round.  Each comes to
its end because every pass that goes on leaves less of the text.

There are four groups.

* Loops.  `Ends` says that a loop comes to a result after a number of passes, and `exists_ends` that
  it does so if every pass goes on to something smaller.
* Trivia.  `triviaPass` by bytes, and `exists_ends_trivia`.
* Tokens.  `RestAt` is an end of a text that starts between two characters.  `Advances` says of a
  reader that it stops at such a place and behind where it started.
* Scripts.  `quotedTextsPass` and `scriptPass` with their ends, `four_mul_length_le` for the number
  of statements, and `reading_advances` as the result.
-/

namespace CaseScript

namespace Syntax

open CaseScript.Text Reader Bytewise

/-! ## Loops -/

/-- What a pass through a loop comes to: the state of the next pass, or the result of the loop. -/
inductive Pass (σ ρ : Type) where
  | again (state : σ)
  | leave (result : ρ)

section Loops

variable {σ ρ : Type} {pass : σ → Except Breakdown (Pass σ ρ)}

/-- After a number of passes, none of which breaks down, the loop comes from the state to the
result. -/
inductive Ends (pass : σ → Except Breakdown (Pass σ ρ)) : Nat → σ → ρ → Prop where
  | leave {state : σ} {result : ρ} :
    pass state = .ok (.leave result) → Ends pass 1 state result
  | again {passes : Nat} {state next : σ} {result : ρ} :
    pass state = .ok (.again next) → Ends pass passes next result →
      Ends pass (passes + 1) state result

/-- A pass from the state leaves the loop with the result, or goes on from a smaller state that has
the same result. -/
def Approaches (pass : σ → Except Breakdown (Pass σ ρ)) (fits : σ → Prop) (size : σ → Nat)
    (result : σ → ρ) (state : σ) : Prop :=
  pass state = .ok (.leave (result state)) ∨
    ∃ next, pass state = .ok (.again next) ∧ fits next ∧ size next < size state ∧
      result next = result state

/-- The size falls from pass to pass, so there is at most one pass more than the size of the first
state. -/
theorem exists_ends {fits : σ → Prop} {size : σ → Nat} {result : σ → ρ}
    (hpass : ∀ state, fits state → Approaches pass fits size result state) (state : σ)
    (hstate : fits state) :
    ∃ passes ≤ size state + 1, Ends pass passes state (result state) := by
  induction hsize : size state using Nat.strongRecOn generalizing state with
  | ind n ih =>
    rcases hpass state hstate with hleave | ⟨next, hagain, hnext, hlt, hresult⟩
    · exact ⟨1, by omega, .leave hleave⟩
    · rcases ih (size next) (by omega) next hnext rfl with ⟨passes, hpasses, hends⟩
      refine ⟨passes + 1, by omega, .again hagain ?_⟩
      rw [← hresult]
      exact hends

end Loops

/-! ## Trivia -/

/-- A pass over trivia takes away the blanks in front and a comment with the end of its line. -/
def triviaPass (text : List Char) : Except Breakdown (Pass (List Char) (List Char)) :=
  let text := trimStart text
  if startsComment text then
    let comment := text.drop 2
    match placeOf? '\n' comment with
    | some stop => do
      let rest ← startingAt (stop + 1) comment
      return .again rest
    | none => .ok (.again [])
  else .ok (.leave text)

theorem skipTrivia_trimStart (text : List Char) :
    skipTrivia (trimStart text) = skipTrivia text := by
  induction text with
  | nil => rfl
  | cons c text ih =>
    by_cases hblank : isBlank c = true
    · rw [trimStart_cons_of_blank hblank, skipTrivia_blank hblank, ih]
    · rw [trimStart, List.dropWhile_cons_of_neg hblank]

theorem startsToken_trimStart {text : List Char} (h : ¬ startsComment (trimStart text) = true) :
    StartsToken (trimStart text) := by
  cases htext : trimStart text with
  | nil => trivial
  | cons c rest =>
    rw [htext, Bool.not_eq_true] at h
    exact ⟨trimStart_head htext, h⟩

theorem eq_of_startsComment {text : List Char} (h : startsComment text = true) :
    text = '/' :: '/' :: text.drop 2 := by
  match text with
  | [] | [_] => cases h
  | c :: d :: rest =>
    simp only [startsComment, Bool.and_eq_true, beq_iff_eq] at h
    rw [h.1, h.2]
    rfl

/-- A pass over trivia leaves as much to skip as there was, and less text. -/
theorem triviaPass_approaches (text : List Char) :
    Approaches triviaPass (fun _ => True) List.length skipTrivia text := by
  have hlength := length_trimStart_le text
  rw [Approaches, triviaPass, ← skipTrivia_trimStart]
  by_cases hcomment : startsComment (trimStart text) = true
  · have htext := eq_of_startsComment hcomment
    simp only [hcomment, if_true]
    generalize (trimStart text).drop 2 = comment at htext
    rw [htext] at hlength ⊢
    simp only [List.length_cons] at hlength
    rw [skipTrivia_comment]
    by_cases hbreak : '\n' ∈ comment
    · rcases List.eq_append_cons_of_mem hbreak with ⟨body, rest, rfl, hbody⟩
      rw [placeOf?_append hbody, dropWhile_ne_append hbody]
      refine .inr ⟨rest, ?_, trivial, ?_, rfl⟩
      · simp only [startingAt_next (c := '\n') rfl, ok_bind]
        rfl
      · rw [List.length_append, List.length_cons] at hlength
        omega
    · rw [placeOf?_of_not_mem hbreak, dropWhile_ne_of_not_mem hbreak]
      exact .inr ⟨[], rfl, trivial, by rw [List.length_nil]; omega, rfl⟩
  · rw [skipTrivia_of_startsToken (startsToken_trimStart hcomment)]
    simp only [hcomment]
    exact .inl rfl

theorem exists_ends_trivia (text : List Char) :
    ∃ passes ≤ text.length + 1, Ends triviaPass passes text (skipTrivia text) :=
  exists_ends (fun state _ => triviaPass_approaches state) text trivial

/-! ## Tokens -/

/-- The rest is the end of the text from a byte on, and that byte is the boundary of a character. -/
structure RestAt (text rest : List Char) (place : Nat) : Prop where
  suffix : rest <:+ text
  size : place + utf8Length rest = utf8Length text
  boundary : String.Pos.Raw.IsValid (String.ofList text) ⟨place⟩

theorem restAt_append (front rest : List Char) :
    RestAt (front ++ rest) rest (utf8Length front) where
  suffix := List.suffix_append front rest
  size := (utf8Length_append front rest).symm
  boundary := by
    rw [← isSome_splitAt?_iff, splitAt?_append]
    rfl

theorem exists_restAt {text rest : List Char} (h : rest <:+ text) :
    ∃ place, RestAt text rest place := by
  rcases h with ⟨front, rfl⟩
  exact ⟨utf8Length front, restAt_append front rest⟩

/-- A reader stops between two characters of the text, whether it fails or not, and where it does
not fail it stops behind its start. -/
structure Advances {α : Type} (reader : Reader α) : Prop where
  stops : ∀ text, ∃ place, RestAt text (remainder (reader text)) place
  advances : ∀ text value rest, reader text = .ok (value, rest) →
    ∃ place, 0 < place ∧ RestAt text rest place

theorem advances_of_shrinks {α : Type} {reader : Reader α} (hshrinks : Shrinks reader)
    (hleaves : LeavesEnd reader) : Advances reader where
  stops text := exists_restAt (hleaves text)
  advances text value rest hread := by
    have hlt := hshrinks text value rest hread
    have hsuffix := hleaves text
    rw [hread] at hsuffix
    rcases hsuffix with ⟨front, rfl⟩
    refine ⟨utf8Length front, ?_, restAt_append front rest⟩
    have hle := length_le_utf8Length front
    rw [List.length_append] at hlt
    simp only [remainder] at hlt
    omega

theorem advances_word (keyword : Keyword) : Advances (word keyword) :=
  advances_of_shrinks (shrinks_word keyword) (leavesEnd_word keyword)

theorem advances_quotedText : Advances quotedText :=
  advances_of_shrinks shrinks_quotedText leavesEnd_quotedText

theorem advances_braceText : Advances braceText :=
  advances_of_shrinks shrinks_braceText leavesEnd_braceText

theorem advances_quotedTexts : Advances quotedTexts :=
  advances_of_shrinks shrinks_quotedTexts leavesEnd_quotedTexts

/-! ## Values -/

/-- A pass over quoted texts reads one more.  The first one has to be there, and a further one that
takes nothing away would be read for ever, so it is an error. -/
def quotedTextsPass : List String × List Char →
    Except Breakdown (Pass (List String × List Char) (Answer (List String)))
  | ([], text) => do
    match ← Bytewise.quotedText text with
    | .ok (value, rest) => return .again ([value], rest)
    | .error failure => return .leave (.error failure)
  | (values, text) => do
    match ← Bytewise.quotedText text with
    | .ok (value, rest) =>
      if utf8Length rest = utf8Length text then return .leave (failAt text [])
      else return .again (values ++ [value], rest)
    | .error _ => return .leave (.ok (values, text))

/-- The quoted texts of which some are read already. -/
def quotedTextsAfter : List String × List Char → Answer (List String)
  | ([], text) => quotedTexts text
  | (values, text) => .ok (values ++ (leadingQuoted text).1, (leadingQuoted text).2)

theorem leadingQuoted_of_ok {text rest : List Char} {value : String}
    (h : quotedText text = .ok (value, rest)) :
    leadingQuoted text = (value :: (leadingQuoted rest).1, (leadingQuoted rest).2) := by
  rw [leadingQuoted]
  split
  · rename_i value' rest' hread
    rw [h] at hread
    cases hread
    rfl
  · rename_i failure hread
    rw [h] at hread
    cases hread

theorem leadingQuoted_of_error {text : List Char} {failure : Failure}
    (h : quotedText text = .error failure) : leadingQuoted text = ([], text) := by
  rw [leadingQuoted]
  split
  · rename_i value rest hread
    rw [h] at hread
    cases hread
  · rfl

theorem quotedTexts_of_ok {text rest : List Char} {value : String}
    (h : quotedText text = .ok (value, rest)) :
    quotedTexts text = .ok (value :: (leadingQuoted rest).1, (leadingQuoted rest).2) :=
  quotedTexts_eq_ok_iff.2 ⟨value, _, rest, rfl, h, rfl⟩

theorem quotedTexts_of_error {text : List Char} {failure : Failure}
    (h : quotedText text = .error failure) : quotedTexts text = .error failure := by
  show (quotedText text >>= _) = _
  rw [h]
  rfl

theorem quotedTextsPass_nil (text : List Char) :
    quotedTextsPass ([], text) =
      .ok (match quotedText text with
        | .ok (value, rest) => .again ([value], rest)
        | .error failure => .leave (.error failure)) := by
  rw [quotedTextsPass, bytewise_quotedText]
  cases quotedText text <;> rfl

/-- A quoted text that is read takes something away, so that error does not occur. -/
theorem quotedTextsPass_cons (first : String) (values : List String) (text : List Char) :
    quotedTextsPass (first :: values, text) =
      .ok (match quotedText text with
        | .ok (value, rest) => .again (first :: values ++ [value], rest)
        | .error _ => .leave (.ok (first :: values, text))) := by
  rw [quotedTextsPass.eq_2 _ _ (List.cons_ne_nil first values), bytewise_quotedText]
  cases hread : quotedText text with
  | error failure => rfl
  | ok found =>
    have hsize : utf8Length found.2 ≠ utf8Length text := by
      rcases advances_quotedText.advances text _ _ hread with ⟨place, hpos, hrest⟩
      have htext := hrest.size
      omega
    simp only [ok_bind, if_neg hsize]
    rfl

theorem quotedTextsPass_approaches (state : List String × List Char) :
    Approaches quotedTextsPass (fun _ => True) (·.2.length) quotedTextsAfter state := by
  rcases state with ⟨values, text⟩
  cases values with
  | nil =>
    rw [Approaches, quotedTextsPass_nil]
    cases hread : quotedText text with
    | error failure =>
      rw [quotedTextsAfter, quotedTexts_of_error hread]
      exact .inl rfl
    | ok found =>
      refine .inr ⟨([found.1], found.2), rfl, trivial, shrinks_quotedText _ _ _ hread, ?_⟩
      rw [quotedTextsAfter, quotedTextsAfter, quotedTexts_of_ok hread]
      · rfl
      · exact List.cons_ne_nil _ _
  | cons first values =>
    rw [Approaches, quotedTextsPass_cons]
    cases hread : quotedText text with
    | error failure =>
      exact .inl (by simp [quotedTextsAfter, leadingQuoted_of_error hread])
    | ok found =>
      refine .inr ⟨(first :: values ++ [found.1], found.2), rfl, trivial,
        shrinks_quotedText _ _ _ hread, ?_⟩
      simp [quotedTextsAfter, leadingQuoted_of_ok hread]

theorem exists_ends_quotedTexts (text : List Char) :
    ∃ passes ≤ text.length + 1, Ends quotedTextsPass passes ([], text) (quotedTexts text) :=
  exists_ends (fun state _ => quotedTextsPass_approaches state) ([], text) trivial

/-! ## Scripts -/

/-- A pass over a script takes a semicolon or a statement away, and the trivia behind it. -/
def scriptPass : Program × List Char →
    Except Breakdown (Pass (Program × List Char) (Except (Nat × Failure) Program))
  | (program, []) => .ok (.leave (.ok program))
  | (program, c :: rest) =>
    if c == ';' then .ok (.again (program, skipTrivia rest))
    else match statement (c :: rest) with
      | .error failure => .ok (.leave (.error (program.length, failure)))
      | .ok (action, after) => .ok (.again (program ++ [action], skipTrivia after))

/-- The statements of which some are read already. -/
def statementsAfter : Program × List Char → Except (Nat × Failure) Program
  | (program, text) =>
    match statements text with
    | .ok actions => .ok (program ++ actions)
    | .error (index, failure) => .error (program.length + index, failure)

section Scripts

variable (program : Program) (text : List Char)

theorem statementsAfter_nil : statementsAfter ([], text) = statements text := by
  rw [statementsAfter]
  cases statements text with
  | ok actions => rfl
  | error fault => simp

theorem statementsAfter_congr {other : List Char} (h : skipSeparators text = skipSeparators other) :
    statementsAfter (program, text) = statementsAfter (program, other) := by
  rw [statementsAfter, statementsAfter, statements_eq_of_skipSeparators h]

theorem statementsAfter_skipTrivia :
    statementsAfter (program, skipTrivia text) = statementsAfter (program, text) :=
  statementsAfter_congr program _ (skipSeparators_congr (skipTrivia_idem text))

/-- A statement that is read is one of those that are read already. -/
theorem statementsAfter_of_statement {text rest : List Char} {action : Action}
    (h : statement (skipSeparators text) = .ok (action, rest)) :
    statementsAfter (program ++ [action], rest) = statementsAfter (program, text) := by
  rw [statementsAfter, statementsAfter, statements_of_statement h]
  cases statements rest with
  | ok actions => simp
  | error fault => simp [Nat.add_assoc, Nat.add_comm 1]

theorem skipSeparators_of_startsToken {c : Char} {rest : List Char} (h : StartsToken (c :: rest))
    (hc : c ≠ ';') : skipSeparators (c :: rest) = c :: rest := by
  rw [skipSeparators_eq, skipTrivia_of_startsToken h]
  simp [hc]

theorem scriptPass_approaches (state : Program × List Char) (h : StartsToken state.2) :
    Approaches scriptPass (fun state => StartsToken state.2) (·.2.length) statementsAfter
      state := by
  rcases state with ⟨program, text⟩
  cases text with
  | nil =>
    refine .inl ?_
    rw [scriptPass, statementsAfter, statements_nil]
    simp only [List.append_nil]
  | cons c rest =>
    by_cases hc : c = ';'
    · subst hc
      have hle := length_skipTrivia_le rest
      refine .inr ⟨(program, skipTrivia rest), rfl, startsToken_skipTrivia rest,
        Nat.lt_succ_of_le hle, ?_⟩
      rw [statementsAfter_skipTrivia]
      exact (statementsAfter_congr program _ (skipSeparators_semicolon rest)).symm
    · have hstart := skipSeparators_of_startsToken h hc
      rw [Approaches, scriptPass, if_neg (by simpa using hc)]
      cases hread : statement (c :: rest) with
      | error failure =>
        refine .inl ?_
        rw [statementsAfter, statements_eq, hstart, hread]
        rfl
      | ok found =>
        -- the end of a statement may be empty, so it is the statement that takes something away
        have hlt := shrinks_statement _ _ _ hread
        have hle := length_skipTrivia_le found.2
        refine .inr ⟨(program ++ [found.1], skipTrivia found.2), rfl,
          startsToken_skipTrivia found.2, Nat.lt_of_le_of_lt hle hlt, ?_⟩
        rw [statementsAfter_skipTrivia]
        exact statementsAfter_of_statement program (hstart.symm ▸ hread)

theorem exists_ends_script :
    ∃ passes ≤ text.length + 1, Ends scriptPass passes ([], skipTrivia text) (statements text) := by
  rcases exists_ends scriptPass_approaches ([], skipTrivia text) (startsToken_skipTrivia text) with
    ⟨passes, hpasses, hends⟩
  rw [statementsAfter_skipTrivia, statementsAfter_nil] at hends
  have hle : passes ≤ (skipTrivia text).length + 1 := hpasses
  have hlength := length_skipTrivia_le text
  exact ⟨passes, by omega, hends⟩

end Scripts

/-- A statement has at least the four letters of its first word. -/
theorem length_of_statement {text rest : List Char} {action : Action}
    (h : statement text = .ok (action, rest)) : rest.length + 4 ≤ text.length := by
  rcases statement_eq_ok_iff.1 h with ⟨start, -, -, -, hcase, -, -, -⟩
  have hword := length_of_stripWord (word_eq_ok_iff.1 hcase).1
  have hskip := length_skipTrivia_le text
  have hrest : remainder (statement text) <:+ start := remainder_statement hcase
  rw [h] at hrest
  have hle := hrest.length_le
  simp only [remainder] at hle
  have hfour : Keyword.caseWord.word.toList.length = 4 := rfl
  omega

theorem four_mul_length_le {text : List Char} {program : Program}
    (h : statements text = .ok program) : 4 * program.length ≤ text.length := by
  induction program generalizing text with
  | nil => exact Nat.zero_le _
  | cons action program ih =>
    rcases statements_eq_ok_iff.1 h with ⟨-, hnil⟩ | ⟨_, rest, _, hread, hrest, hcons⟩
    · cases hnil
    · cases hcons
      have hstatement := length_of_statement hread
      have hskip := length_skipSeparators_le text
      have hprogram := ih hrest
      rw [List.length_cons]
      omega

/-- Reading cuts no character, takes something away with every token and comes to an end.

Trivia is skipped in a loop that ends in front of a token, and skipping twice is skipping once.
Words, quoted texts and braced texts are read by bytes without a breakdown, so that no cut goes
through a character and no brace is closed that is not open.  Each of them and each row of values is
left behind when it is read, and the loops over the values and over the statements end.  Four bytes
of a script or more go into every statement. -/
theorem reading_advances :
    (∀ text, (∃ passes ≤ text.length + 1, Ends triviaPass passes text (skipTrivia text)) ∧
      (∃ place, RestAt text (skipTrivia text) place) ∧
      skipTrivia (skipTrivia text) = skipTrivia text ∧ StartsToken (skipTrivia text)) ∧
    (∀ keyword, Advances (word keyword) ∧
      ∀ text, Bytewise.word keyword text = .ok (word keyword text)) ∧
    (Advances quotedText ∧ ∀ text, Bytewise.quotedText text = .ok (quotedText text)) ∧
    (Advances braceText ∧ ∀ text, Bytewise.braceText text = .ok (braceText text)) ∧
    (Advances quotedTexts ∧ ∀ text, ∃ passes ≤ text.length + 1,
      Ends quotedTextsPass passes ([], text) (quotedTexts text)) ∧
    (∀ text, ∃ place, RestAt text (remainder (endOfStatement text)) place) ∧
    (∀ text, ∃ passes ≤ text.length + 1,
      Ends scriptPass passes ([], skipTrivia text) (statements text)) ∧
    ∀ source program, Program.parse source = .ok program →
      program.length ≤ source.utf8ByteSize / 4 := by
  refine ⟨fun text => ⟨exists_ends_trivia text, exists_restAt (suffix_skipTrivia text),
      skipTrivia_idem text, startsToken_skipTrivia text⟩,
    fun keyword => ⟨advances_word keyword, fun text => bytewise_word text keyword⟩,
    ⟨advances_quotedText, bytewise_quotedText⟩, ⟨advances_braceText, bytewise_braceText⟩,
    ⟨advances_quotedTexts, exists_ends_quotedTexts⟩,
    fun text => exists_restAt (leavesEnd_endOfStatement text), exists_ends_script, ?_⟩
  intro source program hparse
  have hlength := four_mul_length_le (Program.parse_eq_ok_iff.1 hparse)
  have hbytes := length_le_utf8Length source.toList
  rw [utf8Length_toList] at hbytes
  omega

/-- Tokens behind a comment with a letter of two bytes, and a script of two statements. -/
theorem reading_advances_of_comment :
    word .caseWord "// ü\n CaSe é".toList = .ok ((), " é".toList) ∧
    (∃ place, 0 < place ∧ RestAt "// ü\n CaSe é".toList " é".toList place) ∧
    quotedText " 'é\"' on".toList = .ok ("é\"", " on".toList) ∧
    (∃ place, 0 < place ∧ RestAt " 'é\"' on".toList " on".toList place) ∧
    braceText "\x7b é \x7bx\x7d \x7d on".toList = .ok ("é \x7bx\x7d", " on".toList) ∧
    (∃ place, 0 < place ∧ RestAt "\x7b é \x7bx\x7d \x7d on".toList " on".toList place) ∧
    quotedTexts "'é' \"b\" 'c".toList = .ok (["é", "b"], " 'c".toList) ∧
    (∃ place, 0 < place ∧ RestAt "'é' \"b\" 'c".toList " 'c".toList place) ∧
    Program.parse "case scope 'é';; // ü\ncase copy 'é' to 'b'" =
      .ok [.scope "é", .copy "é" "b"] ∧
    [Action.scope "é", .copy "é" "b"].length ≤
      "case scope 'é';; // ü\ncase copy 'é' to 'b'".utf8ByteSize / 4 := by
  have hword : word .caseWord "// ü\n CaSe é".toList = .ok ((), " é".toList) := by decide +kernel
  have hquoted : quotedText " 'é\"' on".toList = .ok ("é\"", " on".toList) := by decide +kernel
  have hbraced : braceText "\x7b é \x7bx\x7d \x7d on".toList =
      .ok ("é \x7bx\x7d", " on".toList) := by decide +kernel
  have hvalues : quotedTexts "'é' \"b\" 'c".toList = .ok (["é", "b"], " 'c".toList) := by
    decide +kernel
  have hscript : Program.parse "case scope 'é';; // ü\ncase copy 'é' to 'b'" =
      .ok [.scope "é", .copy "é" "b"] := by decide +kernel
  rcases reading_advances with ⟨-, hwords, ⟨hquotedTexts, -⟩, ⟨hbraces, -⟩, ⟨hrows, -⟩, -, -, hmany⟩
  exact ⟨hword, (hwords .caseWord).1.advances _ _ _ hword,
    hquoted, hquotedTexts.advances _ _ _ hquoted, hbraced, hbraces.advances _ _ _ hbraced,
    hvalues, hrows.advances _ _ _ hvalues, hscript, hmany _ _ hscript⟩

end Syntax

end CaseScript
