import CaseScript.Proofs.Syntax.Language
import CaseScript.Proofs.Syntax.Remainder

/-!
# Scripts one after the other

A script with a semicolon on a line of its own and a second script after it is read as the two
scripts one after the other.  A fault of the second is found where it stands behind the first.

There are four groups.

* Line breaks.  A line break ends every token and every comment: what is read in front of one is not
  changed by what follows it.  `skipTrivia_lineBreak` and `Lexeme.Reads.lineBreak` say so for trivia
  and for lexemes.
* Statements.  `statement_lineBreak`: a statement that the end of the script ends may be ended by a
  semicolon on the next line as well.
* Scripts.  `statements_eq` is the equation of reading, and `statements_lineBreak` cuts it in two.
* Places.  `SyntaxError.ofFailure_lineBreak` moves a fault, and `Program.parse_append` is the
  result.
-/

namespace CaseScript

namespace Syntax

open CaseScript.Text Reader

/-! ## Line breaks -/

theorem startsComment_lineBreak (c : Char) (text more : List Char) :
    startsComment (c :: (text ++ '\n' :: more)) = startsComment (c :: text) := by
  cases text with
  | nil => simp [startsComment]
  | cons d text => rfl

/-- Skipping goes past a line break only where nothing but trivia stands in front of it. -/
theorem skipFrom_lineBreak (inComment : Bool) (text more : List Char) :
    skipFrom inComment (text ++ '\n' :: more) =
      match skipFrom inComment text with
      | [] => skipTrivia more
      | c :: rest => c :: (rest ++ '\n' :: more) := by
  induction text generalizing inComment with
  | nil => cases inComment <;> rfl
  | cons c text ih =>
    rw [List.cons_append, skipFrom, skipFrom, startsComment_lineBreak]
    split
    · exact ih _
    · split
      · exact ih _
      · split
        · exact ih _
        · rfl

theorem skipTrivia_lineBreak (text more : List Char) :
    skipTrivia (text ++ '\n' :: more) =
      match skipTrivia text with
      | [] => skipTrivia more
      | c :: rest => c :: (rest ++ '\n' :: more) :=
  skipFrom_lineBreak false text more

theorem skipSeparators_lineBreak (text more : List Char) :
    skipSeparators (text ++ '\n' :: more) =
      match skipSeparators text with
      | [] => skipSeparators more
      | c :: rest => c :: (rest ++ '\n' :: more) := by
  fun_induction skipSeparators text with
  | case1 text htext => rw [skipSeparators_eq, skipTrivia_lineBreak, htext, ← skipSeparators_eq]
  | case2 text c rest htext hlt hc ih =>
    rw [skipSeparators_eq, skipTrivia_lineBreak, htext]
    dsimp only
    rw [if_pos hc]
    exact ih
  | case3 text c rest htext hlt hc =>
    rw [skipSeparators_eq, skipTrivia_lineBreak, htext]
    dsimp only
    rw [if_neg hc]

theorem skipTrivia_semicolon (text : List Char) : skipTrivia (';' :: text) = ';' :: text :=
  skipTrivia_cons (by decide) (by decide)

theorem skipSeparators_semicolon (text : List Char) :
    skipSeparators (';' :: text) = skipSeparators text := by
  rw [skipSeparators_eq, skipTrivia_semicolon]
  rfl

/-- A lexeme stands in front of a line break as it does in front of the end of the script. -/
theorem Lexeme.Reads.lineBreak {lexeme : Lexeme} {text rest : List Char}
    (h : lexeme.Reads text rest) (more : List Char) :
    lexeme.Reads (text ++ '\n' :: more) (rest ++ '\n' :: more) := by
  obtain ⟨c, body, htext, -⟩ := h.start
  have hskip : skipTrivia (text ++ '\n' :: more) = skipTrivia text ++ '\n' :: more := by
    rw [skipTrivia_lineBreak, htext]
    rfl
  cases lexeme with
  | word keyword =>
    obtain ⟨hstrip, hend⟩ := word_eq_ok_iff.1 h
    obtain ⟨front, hfront, hletters⟩ := stripWord_eq_some_iff.1 hstrip
    refine word_eq_ok_iff.2 ⟨stripWord_eq_some_iff.2 ⟨front, ?_, hletters⟩, ?_⟩
    · rw [hskip, hfront, List.append_assoc]
    · cases rest with
      | nil => rfl
      | cons d rest => exact hend
  | quoted value =>
    obtain ⟨quote, hquote, hmem, hfront⟩ := quotedText_eq_ok_iff.1 h
    refine quotedText_eq_ok_iff.2 ⟨quote, hquote, hmem, ?_⟩
    rw [hskip, hfront, List.cons_append, List.append_assoc, List.cons_append]
  | braced value =>
    obtain ⟨inside, hfront, hinside, hvalue⟩ := braceText_eq_ok_iff.1 h
    refine braceText_eq_ok_iff.2 ⟨inside, ?_, hinside, hvalue⟩
    rw [hskip, hfront, List.cons_append, List.append_assoc, List.cons_append]

theorem readsAll_lineBreak {lexemes : List Lexeme} {text rest : List Char}
    (h : ReadsAll lexemes text rest) (more : List Char) :
    ReadsAll lexemes (text ++ '\n' :: more) (rest ++ '\n' :: more) := by
  induction lexemes generalizing text with
  | nil =>
    rw [readsAll_nil] at h ⊢
    rw [h]
  | cons lexeme lexemes ih =>
    rcases h with ⟨middle, hread, hrest⟩
    exact ⟨middle ++ '\n' :: more, hread.lineBreak more, ih hrest⟩

/-! ## Statements -/

/-- The end of a statement is found in front of a line break.  Where it is the end of the script,
it becomes the semicolon behind the line break. -/
theorem endOfStatement_lineBreak {text rest : List Char}
    (h : endOfStatement text = .ok ((), rest)) (more : List Char) :
    ∃ after, endOfStatement (text ++ '\n' :: ';' :: more) = .ok ((), after) ∧
      skipSeparators after = skipSeparators (rest ++ '\n' :: ';' :: more) := by
  cases htext : skipTrivia text with
  | nil =>
    have hmore : skipTrivia (text ++ '\n' :: ';' :: more) = ';' :: more := by
      rw [skipTrivia_lineBreak, htext]
      exact skipTrivia_semicolon more
    rw [endOfStatement, htext] at h
    cases h
    refine ⟨more, by simp [endOfStatement, hmore], ?_⟩
    rw [List.nil_append, skipSeparators_newline, skipSeparators_semicolon]
  | cons c body =>
    have hmore : skipTrivia (text ++ '\n' :: ';' :: more) = c :: (body ++ '\n' :: ';' :: more) := by
      rw [skipTrivia_lineBreak, htext]
    rw [endOfStatement, htext] at h
    rw [endOfStatement, hmore]
    dsimp only at h ⊢
    split at h
    · rename_i hc
      cases h
      rw [if_pos hc]
      exact ⟨_, rfl, rfl⟩
    · rename_i hc
      rw [if_neg hc]
      split at h
      · rename_i result hword
        cases h
        have hcase : (Lexeme.word .caseWord).Reads (c :: body) result.2 := hword
        have hcase : word .caseWord (c :: (body ++ '\n' :: ';' :: more)) = .ok _ :=
          hcase.lineBreak (';' :: more)
        rw [hcase]
        exact ⟨_, rfl, rfl⟩
      · cases h

theorem statement_lineBreak {text rest : List Char} {action : Action}
    (h : statement text = .ok (action, rest)) (more : List Char) :
    ∃ after, statement (text ++ '\n' :: ';' :: more) = .ok (action, after) ∧
      skipSeparators after = skipSeparators (rest ++ '\n' :: ';' :: more) := by
  obtain ⟨start, form, lexemes, middle, hcase, hdenotes, hreads, hend⟩ := statement_eq_ok_iff.1 h
  have hcase : (Lexeme.word .caseWord).Reads text start := hcase
  obtain ⟨after, hend, hafter⟩ := endOfStatement_lineBreak hend more
  exact ⟨after, statement_eq_ok_iff.2 ⟨_, form, lexemes, _, hcase.lineBreak _, hdenotes,
    readsAll_lineBreak hreads _, hend⟩, hafter⟩

/-! ## Scripts -/

theorem statements_eq (text : List Char) :
    statements text =
      if (skipSeparators text).isEmpty then .ok []
      else match statement (skipSeparators text) with
        | .error failure => .error (0, failure)
        | .ok (action, rest) =>
          match statements rest with
          | .ok actions => .ok (action :: actions)
          | .error (index, failure) => .error (index + 1, failure) := by
  rw [statements]
  split
  · rfl
  · split
    · rename_i failure h
      rw [h]
    · rename_i action rest h
      dsimp only
      exact h ▸ rfl

theorem statements_eq_of_skipSeparators {text other : List Char}
    (h : skipSeparators text = skipSeparators other) : statements text = statements other := by
  rw [statements_eq, statements_eq other, h]

/-- A statement that is read is put in front of what is read from the rest. -/
theorem statements_of_statement {text rest : List Char} {action : Action}
    (h : statement (skipSeparators text) = .ok (action, rest)) :
    statements text =
      match statements rest with
      | .ok actions => .ok (action :: actions)
      | .error (index, failure) => .error (index + 1, failure) := by
  have hne : (skipSeparators text).isEmpty = false := by
    have hlt := shrinks_statement _ _ _ h
    rw [List.isEmpty_eq_false_iff]
    intro hnil
    rw [hnil] at hlt
    exact absurd hlt (Nat.not_lt_zero _)
  rw [statements_eq, hne, h]
  rfl

/-- Behind a script and a semicolon on the next line, a second script is read as it is by itself,
and its first fault counts the statements of the first script. -/
theorem statements_lineBreak {text : List Char} {first : Program}
    (h : statements text = .ok first) (more : List Char) :
    statements (text ++ '\n' :: ';' :: more) =
      match statements more with
      | .ok second => .ok (first ++ second)
      | .error (index, failure) => .error (first.length + index, failure) := by
  induction first generalizing text with
  | nil =>
    rcases statements_eq_ok_iff.1 h with ⟨hnone, -⟩ | ⟨_, _, _, -, -, hcons⟩
    · have hsame : skipSeparators (text ++ '\n' :: ';' :: more) = skipSeparators more := by
        rw [skipSeparators_lineBreak, hnone]
        exact skipSeparators_semicolon more
      rw [statements_eq_of_skipSeparators hsame]
      rcases statements more with ⟨index, failure⟩ | second
      · dsimp only
        rw [List.length_nil, Nat.zero_add]
      · rfl
    · cases hcons
  | cons action first ih =>
    rcases statements_eq_ok_iff.1 h with ⟨-, hnil⟩ | ⟨_, rest, _, hread, hrest, hcons⟩
    · cases hnil
    · cases hcons
      obtain ⟨after, hstatement, hafter⟩ := statement_lineBreak hread more
      have hskip : skipSeparators (text ++ '\n' :: ';' :: more) =
          skipSeparators text ++ '\n' :: ';' :: more := by
        rw [skipSeparators_lineBreak]
        cases htext : skipSeparators text with
        | nil =>
          have hlt := shrinks_statement _ _ _ hread
          rw [htext] at hlt
          exact absurd hlt (Nat.not_lt_zero _)
        | cons c body => rfl
      rw [← hskip] at hstatement
      rw [statements_of_statement hstatement, statements_eq_of_skipSeparators hafter, ih hrest]
      rcases statements more with ⟨index, failure⟩ | second
      · dsimp only
        rw [List.length_cons, Nat.add_right_comm]
      · rfl

end Syntax

open CaseScript.Text CaseScript.Syntax

/-! ## Places -/

theorem takeWhile_ne_append_cons (mark : Char) (text more : List Char) :
    (text ++ mark :: more).takeWhile (· != mark) = text.takeWhile (· != mark) := by
  induction text with
  | nil => simp
  | cons c text ih => simp only [List.cons_append, List.takeWhile_cons, ih]

/-- A fault in a text behind a line break is the fault that it is by itself, with as many statements
before it as there are more, and with the text in front before it. -/
theorem SyntaxError.ofFailure_lineBreak {source : List Char} {failure : Failure}
    (h : failure.rest <:+ source) (front : List Char) (count statement : Nat) :
    let error := ofFailure source statement failure
    ofFailure (front ++ '\n' :: source) (count + statement) failure =
      { error with
        statement := count + error.statement
        offset := utf8Length front + 1 + error.offset
        line := error.line + 1 + front.count '\n' } := by
  intro error
  have hlength := h.length_le
  have hbefore : (front ++ '\n' :: source).take
      ((front ++ '\n' :: source).length - failure.rest.length) =
        front ++ '\n' :: source.take (source.length - failure.rest.length) := by
    have hcount : (front ++ '\n' :: source).length - failure.rest.length =
        front.length + (source.length - failure.rest.length + 1) := by
      rw [List.length_append, List.length_cons]
      omega
    rw [hcount, List.take_length_add_append, List.take_succ_cons]
  have hcolumn : ((front ++ '\n' :: source.take (source.length - failure.rest.length)).reverse
      |>.takeWhile (· != '\n')) =
        (source.take (source.length - failure.rest.length)).reverse.takeWhile (· != '\n') := by
    rw [List.reverse_append, List.reverse_cons, List.append_assoc, List.singleton_append,
      takeWhile_ne_append_cons]
  have hbreak : utf8Length ('\n' :: source.take (source.length - failure.rest.length)) =
      1 + utf8Length (source.take (source.length - failure.rest.length)) := rfl
  simp only [error, ofFailure, hbefore, hcolumn, utf8Length_append, hbreak, List.count_append,
    List.count_cons_self, SyntaxError.mk.injEq, true_and, and_true]
  omega

theorem Program.parse_eq_error_iff {source : String} {error : SyntaxError} :
    Program.parse source = .error error ↔
      ∃ index failure, statements source.toList = .error (index, failure) ∧
        error = .ofFailure source.toList index failure := by
  unfold Program.parse
  split
  · rename_i program h
    simp [h]
  · rename_i index failure h
    simp [h, eq_comm]

/-- Two scripts with a semicolon between them, on a line of its own, are read as the two programs
one after the other, and a fault of the second script is reported as it is by itself, behind the
statements, the bytes and the lines of the first and the separator. -/
theorem Program.parse_append {first : String} {program : Program}
    (h : Program.parse first = .ok program) (second : String) :
    (∀ more, Program.parse second = .ok more →
      Program.parse (first ++ "\n;\n" ++ second) = .ok (program ++ more)) ∧
    ∀ error, Program.parse second = .error error →
      Program.parse (first ++ "\n;\n" ++ second) = .error
        { error with
          statement := program.length + error.statement
          offset := first.utf8ByteSize + 3 + error.offset
          line := error.line + 2 + first.toList.count '\n' } := by
  have htext : (first ++ "\n;\n" ++ second).toList =
      first.toList ++ '\n' :: ';' :: '\n' :: second.toList := by
    simp [String.toList_append]
  have hmore : statements ('\n' :: second.toList) = statements second.toList :=
    statements_eq_of_skipSeparators (skipSeparators_newline second.toList)
  have hwhole := statements_lineBreak (Program.parse_eq_ok_iff.1 h) ('\n' :: second.toList)
  rw [← htext, hmore] at hwhole
  constructor
  · intro more hsecond
    rw [Program.parse_eq_ok_iff] at hsecond ⊢
    rw [hwhole, hsecond]
  · intro error hsecond
    obtain ⟨index, failure, hread, rfl⟩ := Program.parse_eq_error_iff.1 hsecond
    rw [hread] at hwhole
    refine Program.parse_eq_error_iff.2 ⟨program.length + index, failure, hwhole, ?_⟩
    -- the separator without its last line break counts as a part of the first script
    have hplace := SyntaxError.ofFailure_lineBreak (suffix_of_statements_error hread)
      (first.toList ++ ['\n', ';']) program.length index
    rw [htext, show first.toList ++ '\n' :: ';' :: '\n' :: second.toList =
      first.toList ++ ['\n', ';'] ++ '\n' :: second.toList by simp]
    rw [hplace]
    have hmark : utf8Length ['\n', ';'] = 2 := by decide
    have hlines : ['\n', ';'].count '\n' = 1 := by decide
    simp only [utf8Length_append, utf8Length_toList, List.count_append, hmark, hlines,
      SyntaxError.mk.injEq, true_and, and_true]
    omega

/-- The comment at the end of the first script ends in front of the separator, and the word that is
no statement form is found on the third line behind the first one. -/
theorem Program.parse_append_of_comment :
    Program.parse "case scope 'a' // note" = .ok [.scope "a"] ∧
    Program.parse "\ncase frob" =
      .error ⟨0, 6, 2, 6, [.word .add, .word .copy, .word .cross, .word .filter, .word .load,
        .word .merge, .word .move, .word .remove, .word .rename, .word .save, .word .scope],
        "frob"⟩ ∧
    Program.parse ("case scope 'a' // note" ++ "\n;\n" ++ "\ncase frob") =
      .error ⟨1, 31, 4, 6, [.word .add, .word .copy, .word .cross, .word .filter, .word .load,
        .word .merge, .word .move, .word .remove, .word .rename, .word .save, .word .scope],
        "frob"⟩ := by
  have hfirst : Program.parse "case scope 'a' // note" = .ok [.scope "a"] := by decide +kernel
  have hsecond : Program.parse "\ncase frob" =
      .error ⟨0, 6, 2, 6, [.word .add, .word .copy, .word .cross, .word .filter, .word .load,
        .word .merge, .word .move, .word .remove, .word .rename, .word .save, .word .scope],
        "frob"⟩ := by decide +kernel
  exact ⟨hfirst, hsecond, (Program.parse_append hfirst "\ncase frob").2 _ hsecond⟩

end CaseScript
