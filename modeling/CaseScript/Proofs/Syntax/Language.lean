import CaseScript.Proofs.Syntax.RoundTrip

/-!
# The case language

This file says which texts are scripts, by rules that mention no reader, and shows that reading a
script accepts exactly these texts and gives what they denote.

There are four groups.

* The rules.  `Trivia` is what may stand in front of a token, `Spells` is one token, `Tokens` a
  sequence of them, `Statement` a row of the statement table after the word `case`, `Ending` what
  has to follow a statement, and `Script` a whole script.  Where a rule has two texts, the second
  one is what is left of the first.
* Trivia.  `trivia_skipTrivia` and `Trivia.skipTrivia_eq`: skipping takes away what the rules allow
  and as much of it as there is.
* Tokens and statements.  `Lexeme.reads_iff_spells` and `readsAll_iff_tokens` translate what is read
  into the rules, `exists_ending` and `Ending.exists_endOfStatement` do so for the end of a
  statement.
* Scripts.  `script_of_statements` and `statements_of_script` are the two directions,
  `loneStatement_iff` is both of them for a single statement, and `parse_eq_ok_iff_script` is the
  result.
-/

namespace CaseScript

namespace Syntax

open CaseScript.Text Reader

/-! ## The rules -/

/-- Any sequence of blanks and comments.  A comment runs to the next end of a line, or to the end
of the script. -/
inductive Trivia : List Char → List Char → Prop where
  | nothing (text : List Char) : Trivia text text
  | blank {c : Char} {text rest : List Char} :
    isBlank c = true → Trivia text rest → Trivia (c :: text) rest
  | comment {body text rest : List Char} :
    '\n' ∉ body → Trivia text rest → Trivia ('/' :: '/' :: (body ++ '\n' :: text)) rest
  | lastComment {body : List Char} : '\n' ∉ body → Trivia ('/' :: '/' :: body) []

/-- One token.  A word may have letters of either case and no word character may follow it, a quoted
text does not hold its quote, and the braces inside a braced text are balanced. -/
inductive Spells : Lexeme → List Char → List Char → Prop where
  | word {keyword : Keyword} {letters rest : List Char} :
    letters.map Char.toLower = keyword.word.toList → endsWord rest = true →
      Spells (.word keyword) (letters ++ rest) rest
  | quoted {quote : Char} {value : String} {rest : List Char} :
    isQuote quote = true → quote ∉ value.toList →
      Spells (.quoted value) (quote :: (value.toList ++ quote :: rest)) rest
  | braced {inside rest : List Char} :
    Balanced inside →
      Spells (.braced (String.ofList (trim inside))) ('{' :: (inside ++ '}' :: rest)) rest

/-- Tokens one after the other, with trivia in front of each. -/
inductive Tokens : List Lexeme → List Char → List Char → Prop where
  | nil (text : List Char) : Tokens [] text text
  | cons {lexeme : Lexeme} {lexemes : List Lexeme} {text start middle rest : List Char} :
    Trivia text start → Spells lexeme start middle → Tokens lexemes middle rest →
      Tokens (lexeme :: lexemes) text rest

/-- The word `case` and a row of the statement table. -/
def Statement (action : Action) (text rest : List Char) : Prop :=
  ∃ form lexemes, Denotes form lexemes action ∧ Tokens (.word .caseWord :: lexemes) text rest

/-- What has to follow a statement: a semicolon, the word `case`, which stays where it is, or the
end of the script. -/
inductive Ending : List Char → List Char → Prop where
  | semicolon {text rest : List Char} : Trivia text (';' :: rest) → Ending text rest
  | nextCase {text after : List Char} : Tokens [.word .caseWord] text after → Ending text text
  | endOfInput {text : List Char} : Trivia text [] → Ending text []

/-- A whole script and the program that it denotes: statements, with any number of further
semicolons in front of them, between them and after them. -/
inductive Script : List Char → Program → Prop where
  | done {text : List Char} : Trivia text [] → Script text []
  | semicolon {text rest : List Char} {program : Program} :
    Trivia text (';' :: rest) → Script rest program → Script text program
  | statement {text middle rest : List Char} {action : Action} {program : Program} :
    Statement action text middle → Ending middle rest → Script rest program →
      Script text (action :: program)

/-- A single statement, with at most one semicolon after it. -/
def LoneStatement (text : List Char) (action : Action) : Prop :=
  ∃ middle rest, Statement action text middle ∧ (rest = middle ∨ Trivia middle (';' :: rest)) ∧
    Trivia rest []

/-! ## Trivia -/

theorem skipTrivia_blank {c : Char} (h : isBlank c = true) (text : List Char) :
    skipTrivia (c :: text) = skipTrivia text := by
  simp [skipTrivia, skipFrom, h]

/-- Inside a comment everything up to the end of the line is skipped. -/
theorem skipFrom_true (text : List Char) :
    skipFrom true text = skipTrivia (text.dropWhile (· != '\n')).tail := by
  induction text with
  | nil => rfl
  | cons c text ih =>
    rw [skipFrom, if_pos rfl, List.dropWhile_cons]
    by_cases hc : c = '\n'
    · subst hc
      rfl
    · have hne : (c != '\n') = true := bne_iff_ne.2 hc
      rw [if_pos hne, hne]
      exact ih

theorem skipTrivia_comment (text : List Char) :
    skipTrivia ('/' :: '/' :: text) = skipTrivia (text.dropWhile (· != '\n')).tail := by
  have hopen : skipTrivia ('/' :: '/' :: text) = skipFrom true ('/' :: text) := rfl
  rw [hopen, skipFrom_true]
  rfl

theorem dropWhile_ne_of_not_mem {mark : Char} {text : List Char} (h : mark ∉ text) :
    text.dropWhile (· != mark) = [] := by
  have hdrop : (text ++ []).dropWhile (· != mark) = [].dropWhile (· != mark) :=
    List.dropWhile_append_of_pos (all_ne_of_not_mem h)
  rwa [List.append_nil] at hdrop

/-- After trivia as much is left to skip as before it. -/
theorem Trivia.skipTrivia_eq {text rest : List Char} (h : Trivia text rest) :
    skipTrivia text = skipTrivia rest := by
  induction h with
  | nothing text => rfl
  | blank hblank _ ih => rw [skipTrivia_blank hblank, ih]
  | comment hbody _ ih => rw [skipTrivia_comment, dropWhile_ne_append hbody, List.tail_cons, ih]
  | @lastComment body hbody =>
    rw [skipTrivia_comment, dropWhile_ne_of_not_mem hbody]
    rfl

/-- A text after two slashes is a comment up to the end of its line. -/
theorem trivia_comment {text rest : List Char}
    (h : Trivia (text.dropWhile (· != '\n')).tail rest) (hend : '\n' ∉ text → rest = []) :
    Trivia ('/' :: '/' :: text) rest := by
  have hbody : '\n' ∉ text.takeWhile (· != '\n') := by
    intro hmem
    simpa using List.all_eq_true.1 List.all_takeWhile _ hmem
  have htext := List.takeWhile_append_dropWhile (p := (· != '\n')) (l := text)
  cases hdrop : text.dropWhile (· != '\n') with
  | nil =>
    rw [hdrop, List.append_nil] at htext
    rw [htext] at hbody
    rw [hend hbody]
    exact .lastComment hbody
  | cons c after =>
    have hc := List.head?_dropWhile_not (· != '\n') text
    rw [hdrop] at hc htext h
    have hc : c = '\n' := by simpa using hc
    subst hc
    rw [← htext]
    exact .comment hbody h

/-- What is skipped is trivia. -/
theorem trivia_skipTrivia (text : List Char) : Trivia text (skipTrivia text) := by
  -- on the length, because a comment takes away more than one character
  induction hlength : text.length using Nat.strongRecOn generalizing text with
  | ind length ih =>
    cases text with
    | nil => exact .nothing []
    | cons c text =>
      rw [List.length_cons] at hlength
      by_cases hblank : isBlank c = true
      · rw [skipTrivia_blank hblank]
        exact .blank hblank (ih text.length (by omega) text rfl)
      · rw [Bool.not_eq_true] at hblank
        by_cases hcomment : startsComment (c :: text) = true
        · cases text with
          | nil => cases hcomment
          | cons d text =>
            simp only [startsComment, Bool.and_eq_true, beq_iff_eq] at hcomment
            obtain ⟨rfl, rfl⟩ := hcomment
            rw [skipTrivia_comment]
            refine trivia_comment (ih _ ?_ _ rfl) ?_
            · have hdrop := length_dropWhile_le (p := (· != '\n')) text
              have htail := List.length_tail (l := text.dropWhile (· != '\n'))
              rw [List.length_cons] at hlength
              omega
            · intro hnone
              rw [dropWhile_ne_of_not_mem hnone]
              rfl
        · rw [Bool.not_eq_true] at hcomment
          have hstart : StartsToken (c :: text) := ⟨hblank, hcomment⟩
          rw [skipTrivia_of_startsToken hstart]
          exact .nothing _

/-- In front of a token there is one way to skip trivia. -/
theorem trivia_iff_skipTrivia {text rest : List Char} (h : StartsToken rest) :
    Trivia text rest ↔ skipTrivia text = rest := by
  constructor
  · intro htrivia
    rw [htrivia.skipTrivia_eq, skipTrivia_of_startsToken h]
  · intro hskip
    rw [← hskip]
    exact trivia_skipTrivia text

theorem Trivia.trans {text middle rest : List Char} (h : Trivia text middle)
    (hrest : Trivia middle rest) : Trivia text rest := by
  induction h with
  | nothing text => exact hrest
  | blank hblank _ ih => exact .blank hblank (ih hrest)
  | comment hbody _ ih => exact .comment hbody (ih hrest)
  | lastComment hbody =>
    cases hrest
    exact .lastComment hbody

theorem trivia_nil_iff {text : List Char} : Trivia text [] ↔ skipTrivia text = [] :=
  trivia_iff_skipTrivia trivial

theorem trivia_semicolon_iff {text rest : List Char} :
    Trivia text (';' :: rest) ↔ skipTrivia text = ';' :: rest := by
  refine trivia_iff_skipTrivia ⟨by decide, ?_⟩
  cases rest <;> rfl

/-! ## Tokens and statements -/

theorem Spells.startsToken {lexeme : Lexeme} {text rest : List Char}
    (h : Spells lexeme text rest) : StartsToken text := by
  cases h with
  | @word keyword letters rest hletters hend =>
    cases letters with
    | nil =>
      have hpos := keyword.length_word_pos
      rw [← hletters] at hpos
      cases hpos
    | cons c letters =>
      refine (Lexeme.word keyword).startsToken ?_ (letters ++ rest)
      refine keyword.isLower_of_mem_word c.toLower ?_
      rw [← hletters]
      simp
  | @quoted quote value rest hquote hmem => exact (Lexeme.quoted value).startsToken hquote _
  | braced hinside => exact (Lexeme.braced "").startsToken rfl _

/-- Past the trivia in front of it a lexeme is read where it is spelled. -/
theorem Lexeme.reads_iff_spells {lexeme : Lexeme} {text rest : List Char} :
    lexeme.Reads text rest ↔ Spells lexeme (skipTrivia text) rest := by
  cases lexeme with
  | word keyword =>
    refine word_eq_ok_iff.trans ⟨?_, ?_⟩
    · intro h
      rcases h with ⟨hstrip, hend⟩
      obtain ⟨letters, htext, hletters⟩ := stripWord_eq_some_iff.1 hstrip
      rw [htext]
      exact .word hletters hend
    · intro h
      generalize skipTrivia text = start at h
      cases h with
      | word hletters hend => exact ⟨stripWord_eq_some_iff.2 ⟨_, rfl, hletters⟩, hend⟩
  | quoted value =>
    refine quotedText_eq_ok_iff.trans ⟨?_, ?_⟩
    · intro h
      rcases h with ⟨quote, hquote, hmem, htext⟩
      rw [htext]
      exact .quoted hquote hmem
    · intro h
      generalize skipTrivia text = start at h
      cases h with
      | quoted hquote hmem => exact ⟨_, hquote, hmem, rfl⟩
  | braced value =>
    refine braceText_eq_ok_iff.trans ⟨?_, ?_⟩
    · intro h
      rcases h with ⟨inside, htext, hinside, rfl⟩
      rw [htext]
      exact .braced hinside
    · intro h
      generalize skipTrivia text = start at h
      cases h with
      | braced hinside => exact ⟨_, rfl, hinside, rfl⟩

theorem readsAll_iff_tokens {lexemes : List Lexeme} {text rest : List Char} :
    ReadsAll lexemes text rest ↔ Tokens lexemes text rest := by
  induction lexemes generalizing text with
  | nil =>
    constructor
    · intro h
      cases h
      exact .nil _
    · intro h
      cases h
      rfl
  | cons lexeme lexemes ih =>
    constructor
    · intro h
      rcases h with ⟨middle, hread, hrest⟩
      exact .cons (trivia_skipTrivia text) (Lexeme.reads_iff_spells.1 hread) (ih.1 hrest)
    · intro h
      cases h with
      | @cons _ _ _ start middle _ htrivia hspells hrest =>
        refine ⟨middle, Lexeme.reads_iff_spells.2 ?_, ih.2 hrest⟩
        rwa [(trivia_iff_skipTrivia hspells.startsToken).1 htrivia]

theorem tokens_caseWord_iff {text after : List Char} :
    Tokens [.word .caseWord] text after ↔ word .caseWord text = .ok ((), after) := by
  rw [← readsAll_iff_tokens, readsAll_cons]
  constructor
  · intro h
    rcases h with ⟨_, hword, rfl⟩
    exact hword
  · intro hword
    exact ⟨after, hword, rfl⟩

/-- Where the reader finds the end of a statement, the rules do.  In front of the next statement
the reader passes over trivia that the rules leave there. -/
theorem exists_ending {text rest : List Char} (h : endOfStatement text = .ok ((), rest)) :
    ∃ after, Ending text after ∧ skipTrivia after = skipTrivia rest := by
  unfold endOfStatement at h
  split at h
  · rename_i htext
    cases h
    exact ⟨[], .endOfInput (trivia_nil_iff.2 htext), rfl⟩
  · rename_i c body htext
    split at h
    · rename_i hc
      rw [beq_iff_eq] at hc
      subst hc
      cases h
      exact ⟨rest, .semicolon (trivia_semicolon_iff.2 htext), rfl⟩
    · split at h
      · rename_i result hword
        cases h
        rw [← htext, word_skipTrivia] at hword
        refine ⟨text, .nextCase (tokens_caseWord_iff.2 hword), ?_⟩
        rw [← htext, skipTrivia_idem]
      · cases h

/-- Where the rules find the end of a statement, the reader does. -/
theorem Ending.exists_endOfStatement {text rest : List Char} (h : Ending text rest) :
    ∃ after, endOfStatement text = .ok ((), after) ∧ skipTrivia after = skipTrivia rest := by
  unfold endOfStatement
  cases h with
  | semicolon htrivia =>
    rw [trivia_semicolon_iff.1 htrivia]
    exact ⟨rest, rfl, rfl⟩
  | endOfInput htrivia =>
    rw [trivia_nil_iff.1 htrivia]
    exact ⟨[], rfl, rfl⟩
  | @nextCase after hcase =>
    have hword := tokens_caseWord_iff.1 hcase
    have hread : (Lexeme.word .caseWord).Reads text after := hword
    obtain ⟨c, body, htext, hc⟩ := hread.start
    rw [← word_skipTrivia, htext] at hword
    refine ⟨skipTrivia text, ?_, skipTrivia_idem text⟩
    rw [htext]
    simp only [Lexeme.ne_semicolon hc, hword]
    rfl

theorem statement_eq_ok_iff_tokens {text rest : List Char} {action : Action} :
    statement text = .ok (action, rest) ↔
      ∃ middle, Statement action text middle ∧ endOfStatement middle = .ok ((), rest) := by
  rw [statement_eq_ok_iff]
  constructor
  · intro h
    rcases h with ⟨start, form, lexemes, middle, hcase, hdenotes, hreads, hend⟩
    have htokens : ReadsAll (.word .caseWord :: lexemes) text middle := ⟨start, hcase, hreads⟩
    exact ⟨middle, ⟨form, lexemes, hdenotes, readsAll_iff_tokens.1 htokens⟩, hend⟩
  · intro h
    rcases h with ⟨middle, ⟨form, lexemes, hdenotes, htokens⟩, hend⟩
    obtain ⟨start, hcase, hreads⟩ := readsAll_iff_tokens.2 htokens
    exact ⟨start, form, lexemes, middle, hcase, hdenotes, hreads, hend⟩

/-! ## Scripts -/

/-- Trivia in front of a script changes nothing. -/
theorem Script.ofTrivia {text rest : List Char} {program : Program} (htrivia : Trivia text rest)
    (h : Script rest program) : Script text program := by
  cases h with
  | done hdone => exact .done (htrivia.trans hdone)
  | semicolon hmark hrest => exact .semicolon (htrivia.trans hmark) hrest
  | statement hstatement hend hrest =>
    obtain ⟨form, lexemes, hdenotes, htokens⟩ := hstatement
    cases htokens with
    | cons hfront hspells htokens =>
      have hstatement : Statement _ text _ :=
        ⟨form, lexemes, hdenotes, .cons (htrivia.trans hfront) hspells htokens⟩
      exact .statement hstatement hend hrest

/-- Semicolons in front of a script change nothing either. -/
theorem Script.ofSkipSeparators {text : List Char} {program : Program}
    (h : Script (skipSeparators text) program) : Script text program := by
  fun_induction skipSeparators text with
  | case1 text htext => exact h.ofTrivia (trivia_nil_iff.2 htext)
  | case2 text c rest htext hlt hc ih =>
    rw [beq_iff_eq] at hc
    subst hc
    exact .semicolon (trivia_semicolon_iff.2 htext) (ih h)
  | case3 text c rest htext hlt hc =>
    refine h.ofTrivia ?_
    rw [← htext]
    exact trivia_skipTrivia text

/-- What is read depends on what follows the separators in front. -/
theorem statements_congr {text other : List Char} {program : Program}
    (hsame : skipSeparators text = skipSeparators other) (h : statements other = .ok program) :
    statements text = .ok program := by
  rw [statements_eq_ok_iff] at h ⊢
  rwa [hsame]

theorem skipSeparators_congr {text other : List Char} (h : skipTrivia text = skipTrivia other) :
    skipSeparators text = skipSeparators other := by
  rw [skipSeparators_eq, skipSeparators_eq other, h]

/-- A text that is read as a program is a script for it. -/
theorem script_of_statements {text : List Char} {program : Program}
    (h : statements text = .ok program) : Script text program := by
  induction program generalizing text with
  | nil =>
    rcases statements_eq_ok_iff.1 h with ⟨hnone, -⟩ | ⟨_, _, _, -, -, hcons⟩
    · refine Script.ofSkipSeparators (.done ?_)
      rw [hnone]
      exact .nothing []
    · cases hcons
  | cons action program ih =>
    rcases statements_eq_ok_iff.1 h with ⟨-, hnil⟩ | ⟨_, rest, _, hread, hrest, hcons⟩
    · cases hnil
    · cases hcons
      obtain ⟨middle, hstatement, hend⟩ := statement_eq_ok_iff_tokens.1 hread
      obtain ⟨after, hending, hafter⟩ := exists_ending hend
      have hrest := statements_congr (skipSeparators_congr hafter) hrest
      exact Script.ofSkipSeparators (.statement hstatement hending (ih hrest))

/-- A statement is read past the separators in front of it, and those can only be trivia. -/
theorem Statement.ofSkipSeparators {action : Action} {text rest : List Char}
    (h : Statement action text rest) : Statement action (skipSeparators text) rest := by
  obtain ⟨form, lexemes, hdenotes, htokens⟩ := h
  obtain ⟨start, hcase, -⟩ := readsAll_iff_tokens.2 htokens
  obtain ⟨c, body, htext, hc⟩ := hcase.start
  have hskip : skipSeparators text = skipTrivia text := by
    rw [skipSeparators_eq, htext]
    simp only [Lexeme.ne_semicolon hc, Bool.false_eq_true, if_false]
  rw [hskip]
  cases htokens with
  | cons hfront hspells htokens =>
    rw [(trivia_iff_skipTrivia hspells.startsToken).1 hfront]
    exact ⟨form, lexemes, hdenotes, .cons (.nothing _) hspells htokens⟩

/-- A script is read as the program that it denotes. -/
theorem statements_of_script {text : List Char} {program : Program} (h : Script text program) :
    statements text = .ok program := by
  induction h with
  | @done text hdone =>
    refine statements_eq_ok_iff.2 (.inl ⟨?_, rfl⟩)
    rw [skipSeparators_eq, trivia_nil_iff.1 hdone]
  | @semicolon text rest program hmark _ ih =>
    refine statements_congr ?_ ih
    rw [skipSeparators_eq, trivia_semicolon_iff.1 hmark]
    rfl
  | @statement text middle rest action program hstatement hending _ ih =>
    obtain ⟨after, hend, hafter⟩ := hending.exists_endOfStatement
    have hread := statement_eq_ok_iff_tokens.2 ⟨middle, hstatement.ofSkipSeparators, hend⟩
    have hrest := statements_congr (skipSeparators_congr hafter) ih
    exact statements_eq_ok_iff.2 (.inr ⟨action, after, program, hread, hrest, rfl⟩)

/-- A single statement is read where nothing but trivia follows its end. -/
theorem loneStatement_iff {text : List Char} {action : Action} :
    LoneStatement text action ↔
      ∃ rest, statement text = .ok (action, rest) ∧ skipTrivia rest = [] := by
  constructor
  · intro h
    rcases h with ⟨middle, rest, hstatement, hmark, hrest⟩
    have hending : ∃ after, Ending middle after ∧ skipTrivia after = [] := by
      rcases hmark with rfl | hmark
      · exact ⟨[], .endOfInput hrest, rfl⟩
      · exact ⟨rest, .semicolon hmark, trivia_nil_iff.1 hrest⟩
    obtain ⟨after, hending, hafter⟩ := hending
    obtain ⟨end', hend, hskip⟩ := hending.exists_endOfStatement
    have hread := statement_eq_ok_iff_tokens.2 ⟨middle, hstatement, hend⟩
    exact ⟨end', hread, hskip.trans hafter⟩
  · intro h
    rcases h with ⟨rest, hread, hrest⟩
    obtain ⟨middle, hstatement, hend⟩ := statement_eq_ok_iff_tokens.1 hread
    obtain ⟨after, hending, hafter⟩ := exists_ending hend
    have hafter := trivia_nil_iff.2 (hafter.trans hrest)
    cases hending with
    | semicolon hmark => exact ⟨middle, after, hstatement, .inr hmark, hafter⟩
    | nextCase _ => exact ⟨middle, middle, hstatement, .inl rfl, hafter⟩
    | endOfInput hnone => exact ⟨middle, middle, hstatement, .inl rfl, hnone⟩

end Syntax

open Syntax

/-- A text is read as a program exactly where it is a script for it, and as an action exactly where
it is a single statement for it. -/
theorem parse_eq_ok_iff_script :
    (∀ source program, Program.parse source = .ok program ↔ Script source.toList program) ∧
    ∀ source action, Action.parse source = .ok action ↔ LoneStatement source.toList action := by
  constructor
  · intro source program
    rw [Program.parse_eq_ok_iff]
    exact ⟨script_of_statements, statements_of_script⟩
  · intro source action
    rw [Action.parse_eq_ok_iff, loneStatement_iff]

end CaseScript
