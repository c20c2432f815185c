import CaseScript.Proofs.Syntax.Cut
import CaseScript.Proofs.Syntax.Missing

/-!
# Scripts that can be completed

The text in front of a syntax error can be completed to a script with each of the tokens that the
error names, and the script starts with the statements before the faulty one.

* `Expected.Spelling` and `Expected.Acceptable` say what completing with a token means,
  `SyntaxError.StandsAt` where an error stands.
* `Stop.exists_reads`, `Lacks.exists_denotes` and `Fault.exists_statements` complete a lexeme, a row
  of the statement table and the faulty statement.
* `ReadsUpTo.acceptable` puts the statements before it in front, and
  `Program.acceptable_of_parse_eq_error` is the result.
-/

namespace CaseScript

open CaseScript.Text CaseScript.Syntax Reader

/-- How a token is spelled.  Nothing spells the end of the script. -/
inductive Expected.Spelling : Expected → String → Prop where
  | word (keyword : Keyword) : Spelling (.word keyword) keyword.word
  | quotedText {quote : Char} {inside : String} :
    isQuote quote = true → quote ∉ inside.toList →
      Spelling .quotedText (String.ofList (quote :: (inside.toList ++ [quote])))
  | closingQuote {quote : Char} :
    isQuote quote = true → Spelling .closingQuote (String.ofList [quote])
  | openBrace : Spelling .openBrace "\x7b"
  | closeBrace : Spelling .closeBrace "\x7d"
  | semicolon : Spelling .semicolon ";"

/-- The text goes on with the token on a new line to a script that starts with the actions,
however the token is spelled.  It is a script already where the token is the end of the script. -/
def Expected.Acceptable (front : String) (before : Program) : Expected → Prop
  | .endOfInput => ∃ more, Program.parse (front ++ "\n") = .ok (before ++ more)
  | token => (∃ spelling, token.Spelling spelling) ∧ ∀ spelling, token.Spelling spelling →
    ∃ further more,
      Program.parse (front ++ "\n" ++ spelling ++ further) = .ok (before ++ more)

/-- The error stands between `failing` and `rest`: `earlier` is a script for the actions before the
faulty statement, and the text behind it fails in its first statement. -/
structure SyntaxError.StandsAt (error : SyntaxError) (earlier failing rest : String)
    (before : Program) : Prop where
  parse_earlier : Program.parse earlier = .ok before
  statement : before.length = error.statement
  offset : (earlier ++ failing).utf8ByteSize = error.offset
  fault : ∃ fault, Program.parse (failing ++ rest) = .error fault ∧ fault.statement = 0 ∧
    fault.offset = failing.utf8ByteSize ∧ fault.expected = error.expected

namespace Syntax

/-! ## Completed texts -/

theorem closes_replicate (depth : Nat) : Closes depth (List.replicate depth '}') := by
  induction depth with
  | zero => exact closes_nil_iff.2 rfl
  | succ depth ih => exact closes_close_iff.2 ⟨depth, rfl, ih⟩

/-- A text that does not close its braces does so with enough further ones. -/
theorem exists_untilClosed {depth : Nat} {body : List Char} (h : untilClosed depth body = none) :
    ∃ extra inside, ∀ more,
      untilClosed depth (body ++ '\n' :: '}' :: (extra ++ more)) = some (inside, more) := by
  induction body generalizing depth with
  | nil =>
    refine ⟨List.replicate depth '}', '\n' :: List.replicate depth '}', fun more => ?_⟩
    refine untilClosed_eq_some_iff.2 ⟨?_, (closes_cons_iff (by decide)).2 (closes_replicate depth)⟩
    rw [List.nil_append, ← List.cons_append, ← List.replicate_succ, List.replicate_succ',
      List.append_assoc, List.cons_append]
    rfl
  | cons c body ih =>
    rw [untilClosed.eq_def] at h
    dsimp only at h
    split at h
    · rename_i hc
      cases depth with
      | zero => cases h
      | succ inner =>
        obtain ⟨extra, inside, hmore⟩ := ih (Option.map_eq_none_iff.1 h)
        refine ⟨extra, c :: inside, fun more => ?_⟩
        rw [List.cons_append, untilClosed.eq_def]
        dsimp only
        rw [if_pos hc, hmore]
        rfl
    · rename_i hc
      obtain ⟨extra, inside, hmore⟩ := ih (Option.map_eq_none_iff.1 h)
      refine ⟨extra, c :: inside, fun more => ?_⟩
      rw [List.cons_append, untilClosed.eq_def]
      dsimp only
      rw [if_neg hc, hmore]
      rfl

/-- A quoted text that is not closed goes on to the next quote.  The other quote is a character of
the text like any other, so behind it the right one is added. -/
theorem exists_reads_quoted {front body : List Char} {quote mark : Char}
    (hopen : skipTrivia front = quote :: body) (hquote : isQuote quote = true)
    (hmem : quote ∉ body) :
    ∃ extra value, ∀ more,
      (Lexeme.quoted value).Reads (front ++ '\n' :: mark :: (extra ++ more)) more := by
  have hbreak : quote ≠ '\n' := by
    rintro rfl
    cases hquote
  have hends : ∃ inside extra, quote ∉ inside ∧ '\n' :: mark :: extra = inside ++ [quote] := by
    by_cases hmark : mark = quote
    · exact ⟨['\n'], [], by simpa using hbreak, by rw [hmark]; rfl⟩
    · exact ⟨['\n', mark], [quote], by simpa using ⟨hbreak, Ne.symm hmark⟩, rfl⟩
  obtain ⟨inside, extra, hinside, hend⟩ := hends
  refine ⟨extra, String.ofList (body ++ inside), fun more => ?_⟩
  refine quotedText_eq_ok_iff.2 ⟨quote, hquote, ?_, ?_⟩
  · rw [String.toList_ofList, List.mem_append]
    exact not_or_intro hmem hinside
  · have hspelled : '\n' :: mark :: (extra ++ more) = inside ++ quote :: more := by
      rw [← List.cons_append, ← List.cons_append, hend, List.append_assoc, List.singleton_append]
    rw [skipTrivia_lineBreak, hopen]
    dsimp only
    rw [hspelled, String.toList_ofList, List.append_assoc]

/-- A text in braces that is not closed is closed by enough braces. -/
theorem exists_reads_braced {front body : List Char} (hopen : skipTrivia front = '{' :: body)
    (hnone : untilClosed 0 body = none) :
    ∃ extra value, ∀ more,
      (Lexeme.braced value).Reads (front ++ '\n' :: '}' :: (extra ++ more)) more := by
  obtain ⟨extra, inside, hmore⟩ := exists_untilClosed hnone
  refine ⟨extra, String.ofList (trim inside), fun more => ?_⟩
  obtain ⟨hbody, hinside⟩ := untilClosed_eq_some_iff.1 (hmore more)
  refine braceText_eq_ok_iff.2 ⟨inside, ?_, closes_zero_iff.1 hinside, rfl⟩
  rw [skipTrivia_lineBreak, hopen, ← hbody]

/-- With the missing token on the next line the lexeme of which it is a part is read. -/
theorem Stop.exists_reads {front rest : List Char} {token : Expected} {spelling : String}
    (h : Stop (front ++ rest) rest token) (hspelling : token.Spelling spelling) :
    ∃ extra lexeme, PartOf token lexeme ∧ ∀ more, endsWord more = true →
      lexeme.Reads (front ++ '\n' :: (spelling.toList ++ (extra ++ more))) more := by
  generalize htext : front ++ rest = text at h
  have hskip : skipTrivia text = rest → ∀ more,
      skipTrivia (front ++ '\n' :: more) = skipTrivia more := by
    intro hrest more
    have hnone : skipTrivia front = [] := skipTrivia_cut (by rw [htext, hrest]; rfl)
    rw [skipTrivia_lineBreak, hnone]
  cases h with
  | word keyword =>
    cases hspelling
    refine ⟨[], .word keyword, .word keyword, fun more hmore => ?_⟩
    have hread := word_written keyword hmore
    rw [← word_skipTrivia, ← hskip rfl, word_skipTrivia] at hread
    exact hread
  | quotedText =>
    cases hspelling with
    | @quotedText quote inside hquote hmem =>
      refine ⟨[], .quoted inside, .quotedText inside, fun more _ => ?_⟩
      refine quotedText_eq_ok_iff.2 ⟨quote, hquote, hmem, ?_⟩
      rw [hskip rfl, String.toList_ofList, List.cons_append, skipTrivia_quote hquote]
      simp
  | closingQuote hopen hquote hmem =>
    cases hspelling with
    | @closingQuote mark _ =>
      rw [List.append_nil] at htext
      obtain ⟨extra, value, hread⟩ := exists_reads_quoted (htext ▸ hopen) hquote hmem
      refine ⟨extra, .quoted value, .closingQuote value, fun more _ => ?_⟩
      rw [String.toList_ofList]
      exact hread more
  | openBrace =>
    cases hspelling
    refine ⟨['}'], .braced (String.ofList (trim [])), .openBrace _, fun more _ => ?_⟩
    refine braceText_eq_ok_iff.2 ⟨[], ?_, balanced_nil, rfl⟩
    rw [hskip rfl]
    exact skipTrivia_cons (by decide) (by decide)
  | closeBrace hopen hnone =>
    cases hspelling
    rw [List.append_nil] at htext
    obtain ⟨extra, value, hread⟩ := exists_reads_braced (htext ▸ hopen) hnone
    exact ⟨extra, .braced value, .closeBrace value, fun more _ => hread more⟩

theorem endsWord_writtenAll (lexemes : List Lexeme) : endsWord (writtenAll lexemes) = true := by
  cases lexemes <;> rfl

/-- With the missing token on the next line the form is read to its end. -/
theorem Lacks.exists_denotes {form : Form} {lead rest : List Char} {token : Expected}
    {spelling : String} (h : Lacks form (lead ++ rest) rest token)
    (hspelling : token.Spelling spelling) :
    ∃ further lexemes action, Denotes form lexemes action ∧
      ReadsAll lexemes (lead ++ '\n' :: (spelling.toList ++ further)) [] := by
  obtain ⟨done, text, hdone, hstop, hgo⟩ := h
  obtain ⟨middle, rfl⟩ := hstop.suffix
  obtain ⟨extra, lexeme, hpart, hread⟩ := hstop.exists_reads hspelling
  obtain ⟨others, action, hothers, hdenotes⟩ := hgo lexeme hpart
  refine ⟨extra ++ writtenAll others, (done ++ [lexeme]) ++ others, action, hdenotes, ?_⟩
  have hwritten : ReadsAll others (writtenAll others ++ []) [] := readsAll_written hothers rfl
  rw [List.append_nil] at hwritten
  refine readsAll_append.2 ⟨writtenAll others, ?_, hwritten⟩
  exact readsAll_concat (readsAll_lineBreak (readsAll_cut hdone) _)
    (hread _ (endsWord_writtenAll others))

/-- A statement in front of a script is read with it. -/
theorem statements_of_reads {form : Form} {lexemes : List Lexeme} {action : Action}
    {text start middle rest : List Char} {actions : Program}
    (hcase : (Lexeme.word .caseWord).Reads text start) (hdenotes : Denotes form lexemes action)
    (hreads : ReadsAll lexemes start middle) (hend : endOfStatement middle = .ok ((), rest))
    (hrest : statements rest = .ok actions) : statements text = .ok (action :: actions) := by
  have hstatement : statement (skipSeparators text) = .ok (action, rest) := by
    rw [skipSeparators_of_caseWord hcase]
    exact statement_eq_ok_iff.2
      ⟨start, form, lexemes, middle, reads_caseWord_skipTrivia.2 hcase, hdenotes, hreads, hend⟩
  rw [statements_of_statement hstatement, hrest]

theorem endOfStatement_congr {text other : List Char} (h : skipTrivia text = skipTrivia other) :
    endOfStatement text = endOfStatement other := by
  rw [endOfStatement, endOfStatement, h]

/-- A statement that lacks its end may have it on the next line. -/
theorem statements_of_ending {form : Form} {lexemes : List Lexeme} {action : Action}
    {lead rest start middle more after : List Char} {actions : Program}
    (hcase : (Lexeme.word .caseWord).Reads (lead ++ rest) start)
    (hdenotes : Denotes form lexemes action) (hreads : ReadsAll lexemes start middle)
    (hskip : skipTrivia middle = rest) (hend : endOfStatement more = .ok ((), after))
    (hmore : statements after = .ok actions) :
    statements (lead ++ '\n' :: more) = .ok (action :: actions) := by
  have hmiddle : rest <:+ middle := hskip ▸ suffix_skipTrivia middle
  obtain ⟨last, rfl⟩ := hmiddle
  obtain ⟨start, rfl⟩ := (List.suffix_append last rest).trans (suffix_of_readsAll hreads)
  have hnone : skipTrivia last = [] := skipTrivia_cut hskip
  refine statements_of_reads (hcase.cut.lineBreak more) hdenotes
    (readsAll_lineBreak (readsAll_cut hreads) more) ?_ hmore
  rw [← hend]
  refine endOfStatement_congr ?_
  rw [skipTrivia_lineBreak, hnone]

theorem statements_nil : statements [] = .ok [] :=
  statements_eq_ok_iff.2 (.inl ⟨by rw [skipSeparators_eq]; rfl, rfl⟩)

theorem statements_scope : statements "case scope ''".toList = .ok [.scope ""] := by
  rw [← Program.parse_eq_ok_iff]
  decide +kernel

/-- With the missing token on the next line the faulty statement can be read to its end. -/
theorem Fault.exists_statements {lead rest : List Char} {token : Expected} {spelling : String}
    (h : Fault (lead ++ rest) rest token) (hspelling : token.Spelling spelling) :
    ∃ further actions,
      statements (lead ++ '\n' :: (spelling.toList ++ further)) = .ok actions := by
  generalize htext : lead ++ rest = text at h
  cases h with
  | caseWord =>
    cases hspelling
    have hnone : skipTrivia lead = [] := skipTrivia_cut (congrArg skipTrivia htext)
    refine ⟨" scope ''".toList, [.scope ""], ?_⟩
    rw [← statements_scope]
    refine statements_eq_of_skipSeparators ?_
    rw [skipSeparators_lineBreak, skipSeparators_eq lead, hnone]
    rfl
  | lacks hcase hlacks =>
    subst htext
    obtain ⟨start, rfl⟩ := hlacks.suffix
    obtain ⟨further, lexemes, action, hdenotes, hreads⟩ := hlacks.exists_denotes hspelling
    exact ⟨further, [action],
      statements_of_reads (hcase.cut.lineBreak _) hdenotes hreads rfl statements_nil⟩
  | @ending form lexemes action _ start middle _ hcase hdenotes hreads htoken =>
    subst htext
    cases hspelling with
    | semicolon =>
      exact ⟨[], [action], statements_of_ending hcase hdenotes hreads rfl rfl statements_nil⟩
    | word keyword =>
      obtain rfl : keyword = .caseWord := by simpa using htoken
      refine ⟨" scope ''".toList, [action, .scope ""], ?_⟩
      exact statements_of_ending hcase hdenotes hreads rfl rfl statements_scope
    | _ => simp at htoken

/-- Where the script could have come to its end, the faulty statement is read in front of it. -/
theorem Fault.exists_statements_of_end {lead rest : List Char}
    (h : Fault (lead ++ rest) rest .endOfInput) :
    ∃ actions, statements (lead ++ ['\n']) = .ok actions := by
  generalize htext : lead ++ rest = text at h
  cases h with
  | lacks hcase hlacks =>
    obtain ⟨_, _, -, hstop, -⟩ := hlacks
    cases hstop
  | @ending form lexemes action _ start middle _ hcase hdenotes hreads htoken =>
    subst htext
    exact ⟨[action], statements_of_ending hcase hdenotes hreads rfl rfl statements_nil⟩

theorem ReadsUpTo.skipSeparators_start {text start : List Char} {before : Program}
    (h : ReadsUpTo text before start) : skipSeparators start = start := by
  induction h with
  | nothing text => exact skipSeparators_idem text
  | next _ _ ih => exact ih

end Syntax

/-! ## Errors -/

theorem Expected.exists_spelling {token : Expected} (h : token ≠ .endOfInput) :
    ∃ spelling, token.Spelling spelling := by
  cases token with
  | word keyword => exact ⟨_, .word keyword⟩
  | quotedText => exact ⟨_, @Spelling.quotedText '"' "" rfl (by simp)⟩
  | closingQuote => exact ⟨_, @Spelling.closingQuote '"' rfl⟩
  | openBrace => exact ⟨_, .openBrace⟩
  | closeBrace => exact ⟨_, .closeBrace⟩
  | semicolon => exact ⟨_, .semicolon⟩
  | endOfInput => exact absurd rfl h

theorem Expected.acceptable_of {token : Expected} {front : String} {before : Program}
    (hend : token = .endOfInput → ∃ more, Program.parse (front ++ "\n") = .ok (before ++ more))
    (hgo : ∀ spelling, token.Spelling spelling → ∃ further more,
      Program.parse (front ++ "\n" ++ spelling ++ further) = .ok (before ++ more)) :
    token.Acceptable front before := by
  cases token with
  | endOfInput => exact hend rfl
  | _ => exact ⟨exists_spelling (by simp), hgo⟩

section Errors

variable {earlier lead rest : List Char} {before : Program} {expected : List Expected}

/-- The text up to the fault goes on with every token that the faulty statement names. -/
theorem Syntax.ReadsUpTo.acceptable {token : Expected}
    (hbefore : ReadsUpTo (earlier ++ lead ++ rest) before (lead ++ rest))
    (hne : lead ++ rest ≠ []) (hfault : statement (lead ++ rest) = .error ⟨rest, expected⟩)
    (htoken : token ∈ expected) :
    token.Acceptable (String.ofList earlier ++ String.ofList lead) before := by
  have hcase : ∀ after, (Lexeme.word .caseWord).Reads (lead ++ rest) after → rest <:+ after := by
    intro after hnext
    have hsuffix := remainder_statement hnext
    rwa [hfault] at hsuffix
  have hplace : Fault (lead ++ rest) rest token := fault_of_statement hfault htoken
  have hfront : (String.ofList earlier ++ String.ofList lead).toList = earlier ++ lead := by
    simp [String.toList_append]
  refine Expected.acceptable_of (fun hend => ?_) fun spelling hspelling => ?_
  · subst hend
    obtain ⟨actions, hactions⟩ := hplace.exists_statements_of_end
    refine ⟨actions, Program.parse_eq_ok_iff.2 ?_⟩
    rw [String.toList_append, hfront]
    exact hbefore.goesOn hne hcase hactions
  · obtain ⟨further, actions, hactions⟩ := hplace.exists_statements hspelling
    have hfurther : (String.ofList further).toList = further := String.toList_ofList
    refine ⟨String.ofList further, actions, Program.parse_eq_ok_iff.2 ?_⟩
    rw [String.toList_append, String.toList_append, String.toList_append, hfront, hfurther,
      List.append_assoc, List.append_assoc]
    exact hbefore.goesOn hne hcase hactions

/-- What stands in front of the place of a failure. -/
theorem take_front (front rest : List Char) :
    (front ++ rest).take ((front ++ rest).length - rest.length) = front := by
  rw [List.length_append, Nat.add_sub_cancel, List.take_left]

theorem SyntaxError.offset_ofFailure (front rest : List Char) (index : Nat)
    (expected : List Expected) :
    (ofFailure (front ++ rest) index ⟨rest, expected⟩).offset = utf8Length front :=
  congrArg utf8Length (take_front front rest)

/-- The fault stands in the statement behind those that are read before it. -/
theorem Syntax.ReadsUpTo.standsAt
    (hbefore : ReadsUpTo (earlier ++ lead ++ rest) before (lead ++ rest))
    (hne : lead ++ rest ≠ []) (hfault : statement (lead ++ rest) = .error ⟨rest, expected⟩) :
    (SyntaxError.ofFailure (earlier ++ lead ++ rest) before.length ⟨rest, expected⟩).StandsAt
      (String.ofList earlier) (String.ofList lead) (String.ofList rest) before where
  parse_earlier := by
    rw [Program.parse_eq_ok_iff, String.toList_ofList]
    rw [List.append_assoc] at hbefore
    exact hbefore.statements_front
  statement := rfl
  offset := by
    rw [SyntaxError.offset_ofFailure, ← utf8Length_toList, String.toList_append,
      String.toList_ofList, String.toList_ofList]
  fault := by
    have htext : (String.ofList lead ++ String.ofList rest).toList = lead ++ rest := by
      simp [String.toList_append]
    have hempty : (lead ++ rest).isEmpty = false := List.isEmpty_eq_false_iff.2 hne
    have hread : statements (lead ++ rest) = .error (0, ⟨rest, expected⟩) := by
      rw [statements_eq, hbefore.skipSeparators_start, hempty, hfault]
      rfl
    refine ⟨.ofFailure (lead ++ rest) 0 ⟨rest, expected⟩, ?_, rfl, ?_, rfl⟩
    · rw [Program.parse_eq_error_iff, htext]
      exact ⟨0, ⟨rest, expected⟩, hread, rfl⟩
    · rw [SyntaxError.offset_ofFailure, ← utf8Length_toList, String.toList_ofList]

end Errors

/-- The text in front of a syntax error can be completed with every token that the error names, and
what is read then starts with the statements before the faulty one. -/
theorem Program.acceptable_of_parse_eq_error {source : String} {error : SyntaxError}
    (h : Program.parse source = .error error) :
    ∃ earlier failing rest before, source = earlier ++ failing ++ rest ∧
      error.StandsAt earlier failing rest before ∧
      ∀ token ∈ error.expected, token.Acceptable (earlier ++ failing) before := by
  obtain ⟨index, ⟨rest, expected⟩, hread, rfl⟩ := Program.parse_eq_error_iff.1 h
  obtain ⟨before, start, hbefore, rfl, hne, hfault⟩ := exists_readsUpTo hread
  obtain ⟨lead, rfl⟩ : rest <:+ start := by
    have hsuffix := leavesEnd_statement start
    rwa [hfault] at hsuffix
  obtain ⟨earlier, hearlier⟩ := hbefore.suffix
  rw [← List.append_assoc] at hearlier
  have hsource : source = String.ofList earlier ++ String.ofList lead ++ String.ofList rest := by
    rw [← String.toList_inj, ← hearlier]
    simp [String.toList_append]
  rw [← hearlier] at hbefore ⊢
  refine ⟨_, _, _, before, hsource, hbefore.standsAt hne hfault, fun token htoken => ?_⟩
  have htoken : token ∈ expected := by
    simpa [SyntaxError.ofFailure, Expected.mem_inLabelOrder] using htoken
  exact hbefore.acceptable hne hfault htoken

/-- A word that is cut off, behind one statement and a form that could end in front of it. -/
theorem Program.acceptable_of_cut_word :
    Program.parse "case scope 'a' case add column 'x' valu" =
      .error ⟨1, 35, 1, 36, [.semicolon, .word .caseWord, .endOfInput, .word .values], "valu"⟩ ∧
    ∃ earlier failing rest before,
      "case scope 'a' case add column 'x' valu" = earlier ++ failing ++ rest ∧
      before.length = 1 ∧
      ∀ token ∈ [.semicolon, .word .caseWord, .endOfInput, .word .values],
        Expected.Acceptable (earlier ++ failing) before token := by
  have hfault : Program.parse "case scope 'a' case add column 'x' valu" =
      .error ⟨1, 35, 1, 36, [.semicolon, .word .caseWord, .endOfInput, .word .values],
        "valu"⟩ := by decide +kernel
  obtain ⟨earlier, failing, rest, before, hsource, hplace, haccept⟩ :=
    Program.acceptable_of_parse_eq_error hfault
  exact ⟨hfault, earlier, failing, rest, before, hsource, hplace.statement, haccept⟩

end CaseScript
