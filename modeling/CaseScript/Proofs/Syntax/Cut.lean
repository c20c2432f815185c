import CaseScript.Proofs.Syntax.Compose

/-!
# Scripts cut off

A script is cut off at a place.  What was read in front of that place is still read, also when the
script goes on in another way on a new line.

There are three groups.

* Tokens.  `skipTrivia_cut`, `Lexeme.Reads.cut` and `readsAll_cut`: what is read up to an end of a
  text is read without this end.
* Statements.  `endOfStatement_eq_ok_iff` says how a statement ends.  The word `case` ahead ends
  one as well, so a statement that is read still ends there only if this word is not cut off:
  `statement_cut` and `statement_goesOn`.
* Scripts.  `ReadsUpTo` is the way of the reader to the statement at which it stops,
  `ReadsUpTo.statements_front` reads the script in front of it, and `ReadsUpTo.goesOn` replaces what
  follows a place in it.
-/

namespace CaseScript.Syntax

open CaseScript.Text Reader

/-! ## Tokens -/

/-- Two slashes cannot be told apart from one by what follows them: the end that is kept is no part
of a comment. -/
theorem startsComment_cut {c : Char} {front middle tail : List Char}
    (h : startsComment (c :: (front ++ tail)) = true)
    (hskip : skipFrom true (front ++ tail) = middle ++ tail) :
    startsComment (c :: front) = true := by
  cases front with
  | cons d front => exact h
  | nil =>
    cases tail with
    | nil => cases h
    | cons d tail =>
      have hlength : (skipFrom true (d :: tail)).length ≤ tail.length := by
        rw [skipFrom, if_pos rfl]
        exact length_skipFrom_le _ tail
      rw [List.nil_append] at hskip
      rw [hskip, List.length_append, List.length_cons] at hlength
      omega

/-- What is skipped in front of an end is skipped without it. -/
theorem skipFrom_cut {inComment : Bool} {front middle tail : List Char}
    (h : skipFrom inComment (front ++ tail) = middle ++ tail) :
    skipFrom inComment front = middle := by
  induction front generalizing inComment with
  | nil =>
    have hlength := length_skipFrom_le inComment tail
    rw [List.nil_append] at h
    rw [h, List.length_append] at hlength
    rw [skipFrom, List.length_eq_zero_iff.1 (by omega : middle.length = 0)]
  | cons c front ih =>
    rw [List.cons_append, skipFrom] at h
    rw [skipFrom]
    split at h
    · rename_i hin
      rw [if_pos hin]
      exact ih h
    · rename_i hin
      rw [if_neg hin]
      split at h
      · rename_i hblank
        rw [if_pos hblank]
        exact ih h
      · rename_i hblank
        rw [if_neg hblank]
        split at h
        · rename_i hcomment
          rw [if_pos (startsComment_cut hcomment h)]
          exact ih h
        · rename_i hcomment
          have hplain : ¬ startsComment (c :: front) = true := by
            cases front with
            | nil => exact Bool.false_ne_true
            | cons d front => exact hcomment
          rw [if_neg hplain]
          exact List.append_cancel_right h

theorem skipTrivia_cut {front middle tail : List Char}
    (h : skipTrivia (front ++ tail) = middle ++ tail) : skipTrivia front = middle :=
  skipFrom_cut h

/-- A lexeme in front of an end stands there without it. -/
theorem Lexeme.Reads.cut {lexeme : Lexeme} {front middle tail : List Char}
    (h : lexeme.Reads (front ++ tail) (middle ++ tail)) : lexeme.Reads front middle := by
  cases lexeme with
  | word keyword =>
    obtain ⟨hstrip, hend⟩ := word_eq_ok_iff.1 h
    obtain ⟨letters, htext, hletters⟩ := stripWord_eq_some_iff.1 hstrip
    rw [← List.append_assoc] at htext
    refine word_eq_ok_iff.2 ⟨?_, ?_⟩
    · rw [skipTrivia_cut htext]
      exact stripWord_eq_some_iff.2 ⟨letters, rfl, hletters⟩
    · cases middle with
      | nil => rfl
      | cons c middle => exact hend
  | quoted value =>
    obtain ⟨quote, hquote, hmem, htext⟩ := quotedText_eq_ok_iff.1 h
    refine quotedText_eq_ok_iff.2 ⟨quote, hquote, hmem, skipTrivia_cut (htext.trans ?_)⟩
    rw [List.cons_append, List.append_assoc, List.cons_append]
  | braced value =>
    obtain ⟨inside, htext, hinside, hvalue⟩ := braceText_eq_ok_iff.1 h
    refine braceText_eq_ok_iff.2 ⟨inside, skipTrivia_cut (htext.trans ?_), hinside, hvalue⟩
    rw [List.cons_append, List.append_assoc, List.cons_append]

theorem readsAll_cut {lexemes : List Lexeme} {front middle tail : List Char}
    (h : ReadsAll lexemes (front ++ tail) (middle ++ tail)) : ReadsAll lexemes front middle := by
  induction lexemes generalizing front with
  | nil => exact List.append_cancel_right h
  | cons lexeme lexemes ih =>
    obtain ⟨rest, hread, hrest⟩ := h
    obtain ⟨between, rfl⟩ := (List.suffix_append middle tail).trans (suffix_of_readsAll hrest)
    exact ⟨between, hread.cut, ih hrest⟩

/-! ## Statements -/

/-- A statement ends with the script, at a semicolon or in front of the word `case`. -/
theorem endOfStatement_eq_ok_iff {text rest : List Char} :
    endOfStatement text = .ok ((), rest) ↔
      (skipTrivia text = [] ∧ rest = []) ∨ skipTrivia text = ';' :: rest ∨
        skipTrivia text = rest ∧ ∃ after, (Lexeme.word .caseWord).Reads rest after := by
  constructor
  · intro h
    unfold endOfStatement at h
    split at h
    · rename_i htext
      cases h
      exact .inl ⟨htext, rfl⟩
    · rename_i c body htext
      split at h
      · rename_i hc
        cases h
        exact .inr (.inl (by rw [htext, beq_iff_eq.1 hc]))
      · split at h
        · rename_i result hword
          cases h
          exact .inr (.inr ⟨htext, result.2, hword⟩)
        · cases h
  · rintro (⟨htext, rfl⟩ | htext | ⟨rfl, after, hcase⟩)
    · rw [endOfStatement, htext]
    · rw [endOfStatement, htext]
      rfl
    · obtain ⟨c, body, htext, hc⟩ := hcase.start
      rw [skipTrivia_idem] at htext
      have hword : word .caseWord (c :: body) = .ok ((), after) := htext ▸ hcase
      rw [endOfStatement, htext]
      simp only [Lexeme.ne_semicolon hc, hword]
      rfl

/-- The lexemes of a statement that is read in front of an end, without this end. -/
theorem exists_of_statement_append {front middle tail : List Char} {action : Action}
    (h : statement (front ++ tail) = .ok (action, middle ++ tail)) :
    ∃ start form lexemes last, (Lexeme.word .caseWord).Reads front start ∧
      Denotes form lexemes action ∧ ReadsAll lexemes start last ∧
      endOfStatement (last ++ tail) = .ok ((), middle ++ tail) := by
  obtain ⟨start, form, lexemes, last, hfirst, hdenotes, hreads, hend⟩ := statement_eq_ok_iff.1 h
  have hfirst : (Lexeme.word .caseWord).Reads (front ++ tail) start := hfirst
  have hlast : tail <:+ last := by
    have hrest := leavesEnd_endOfStatement last
    rw [hend] at hrest
    exact (List.suffix_append middle tail).trans hrest
  obtain ⟨last, rfl⟩ := hlast
  obtain ⟨start, rfl⟩ := (List.suffix_append last tail).trans (suffix_of_readsAll hreads)
  exact ⟨start, form, lexemes, last, hfirst.cut, hdenotes, readsAll_cut hreads, hend⟩

/-- A statement that is read in front of an end is read without it, unless the end takes away a part
of the word `case` at which the statement stops. -/
theorem statement_cut {front middle tail : List Char} {action : Action}
    (h : statement (front ++ tail) = .ok (action, middle ++ tail))
    (hcase : ∀ after, skipTrivia (middle ++ tail) = middle ++ tail →
      (Lexeme.word .caseWord).Reads (middle ++ tail) after → middle = [] ∨ tail <:+ after) :
    statement front = .ok (action, middle) := by
  obtain ⟨start, form, lexemes, last, hfirst, hdenotes, hreads, hend⟩ :=
    exists_of_statement_append h
  refine statement_eq_ok_iff.2 ⟨start, form, lexemes, last, hfirst, hdenotes, hreads, ?_⟩
  rw [endOfStatement_eq_ok_iff] at hend ⊢
  rcases hend with ⟨hnone, hnil⟩ | hmark | ⟨hskip, after, hnext⟩
  · obtain ⟨rfl, rfl⟩ := List.append_eq_nil_iff.1 hnil
    exact .inl ⟨skipTrivia_cut hnone, rfl⟩
  · exact .inr (.inl (skipTrivia_cut hmark))
  · have hidem : skipTrivia (middle ++ tail) = middle ++ tail := by rw [← hskip, skipTrivia_idem]
    rcases hcase after hidem hnext with rfl | ⟨after, rfl⟩
    · exact .inl ⟨skipTrivia_cut hskip, rfl⟩
    · exact .inr (.inr ⟨skipTrivia_cut hskip, after, hnext.cut⟩)

/-- A statement that is not ended by the script is read whatever follows it on the next line,
unless a part of the word `case` is taken away at which it stops. -/
theorem statement_goesOn {front middle tail : List Char} {action : Action}
    (h : statement (front ++ tail) = .ok (action, middle ++ tail)) (hne : middle ++ tail ≠ [])
    (hcase : ∀ after, (Lexeme.word .caseWord).Reads (middle ++ tail) after → tail <:+ after)
    (more : List Char) :
    statement (front ++ '\n' :: more) = .ok (action, middle ++ '\n' :: more) := by
  obtain ⟨start, form, lexemes, last, hfirst, hdenotes, hreads, hend⟩ :=
    exists_of_statement_append h
  refine statement_eq_ok_iff.2 ⟨start ++ '\n' :: more, form, lexemes, last ++ '\n' :: more,
    hfirst.lineBreak more, hdenotes, readsAll_lineBreak hreads more, ?_⟩
  rw [endOfStatement_eq_ok_iff] at hend ⊢
  rcases hend with ⟨-, hnil⟩ | hmark | ⟨hskip, after, hnext⟩
  · exact absurd hnil hne
  · refine .inr (.inl ?_)
    have hmark : skipTrivia last = ';' :: middle := skipTrivia_cut hmark
    rw [skipTrivia_lineBreak, hmark]
  · obtain ⟨after, rfl⟩ := hcase after hnext
    have hnext := hnext.cut
    have hskip := skipTrivia_cut hskip
    obtain ⟨c, body, hmiddle, -⟩ := hnext.start
    rw [← hskip, skipTrivia_idem, hskip] at hmiddle
    refine .inr (.inr ⟨?_, after ++ '\n' :: more, hnext.lineBreak more⟩)
    rw [skipTrivia_lineBreak, hskip, hmiddle]
    rfl

/-! ## Scripts -/

theorem skipSeparators_cut {front middle tail : List Char}
    (h : skipSeparators (front ++ tail) = middle ++ tail) : skipSeparators front = middle := by
  generalize htext : front ++ tail = text at h
  fun_induction skipSeparators text generalizing front with
  | case1 text hnone =>
    subst htext
    obtain ⟨rfl, rfl⟩ := List.append_eq_nil_iff.1 h.symm
    rw [List.append_nil] at hnone
    rw [skipSeparators_eq, hnone]
  | case2 text c rest hskip hlt hc ih =>
    subst htext
    have hrest := (List.suffix_append middle tail).trans (h ▸ suffix_skipSeparators rest)
    obtain ⟨rest, rfl⟩ := hrest
    have hfront : skipTrivia front = c :: rest := skipTrivia_cut hskip
    rw [skipSeparators_eq, hfront]
    dsimp only
    rw [if_pos hc]
    exact ih rfl h
  | case3 text c rest hskip hlt hc =>
    subst htext
    rw [h] at hskip
    rw [skipSeparators_eq, skipTrivia_cut hskip]
    cases middle with
    | nil => rfl
    | cons d middle =>
      obtain ⟨rfl, -⟩ := List.cons.inj h
      dsimp only
      rw [if_neg hc]

/-- The statements of a text up to one at which it has more: they are read as the actions, and the
next one is left. -/
inductive ReadsUpTo : List Char → Program → List Char → Prop where
  | nothing (text : List Char) : ReadsUpTo text [] (skipSeparators text)
  | next {text rest start : List Char} {action : Action} {before : Program} :
    statement (skipSeparators text) = .ok (action, rest) → ReadsUpTo rest before start →
      ReadsUpTo text (action :: before) start

/-- The faulty statement of a script is the one behind as many statements as are counted. -/
theorem exists_readsUpTo {text : List Char} {index : Nat} {failure : Failure}
    (h : statements text = .error (index, failure)) :
    ∃ before start, ReadsUpTo text before start ∧ before.length = index ∧ start ≠ [] ∧
      statement start = .error failure := by
  fun_induction statements text generalizing index with
  | case1 => cases h
  | case2 text hne failure' hread =>
    cases h
    exact ⟨[], _, .nothing text, rfl, by simpa using hne, hread⟩
  | case3 text hne action rest hread hlt actions hrest ih => cases h
  | case4 text hne action rest hread hlt index' failure' hrest ih =>
    cases h
    obtain ⟨before, start, hbefore, rfl, hfault⟩ := ih hrest
    exact ⟨action :: before, start, .next hread hbefore, rfl, hfault⟩

theorem suffix_of_statement {text rest : List Char} {action : Action}
    (h : statement text = .ok (action, rest)) : rest <:+ text := by
  have hsuffix := leavesEnd_statement text
  rwa [h] at hsuffix

theorem ReadsUpTo.suffix {text start : List Char} {before : Program}
    (h : ReadsUpTo text before start) : start <:+ text := by
  induction h with
  | nothing text => exact suffix_skipSeparators text
  | @next text _ _ _ _ hread _ ih =>
    exact ih.trans ((suffix_of_statement hread).trans (suffix_skipSeparators text))

/-- What a statement leaves and where it fails are behind its first word. -/
theorem remainder_statement {text after : List Char}
    (h : (Lexeme.word .caseWord).Reads text after) : remainder (statement text) <:+ after := by
  have hword : word .caseWord text = .ok ((), after) := h
  change remainder (word .caseWord text >>= fun step =>
    firstOf (Form.all.map Form.ended) step.2) <:+ after
  rw [hword]
  exact leavesEnd_firstOf Form.leavesEnd_of_mem after

theorem skipSeparators_of_caseWord {text after : List Char}
    (h : (Lexeme.word .caseWord).Reads text after) : skipSeparators text = skipTrivia text := by
  obtain ⟨c, body, htext, hc⟩ := h.start
  rw [skipSeparators_eq, htext]
  simp only [Lexeme.ne_semicolon hc, Bool.false_eq_true, if_false]

theorem reads_caseWord_skipTrivia {text after : List Char} :
    (Lexeme.word .caseWord).Reads (skipTrivia text) after ↔
      (Lexeme.word .caseWord).Reads text after := by
  simp only [Lexeme.Reads, word_skipTrivia]

/-- Where the next statement starts with `case`, reading comes to a stop there or behind it. -/
theorem ReadsUpTo.of_caseWord {text start after : List Char} {before : Program}
    (h : ReadsUpTo text before start) (hcase : (Lexeme.word .caseWord).Reads text after) :
    start = skipTrivia text ∨ start <:+ after := by
  cases h with
  | nothing => exact .inl (skipSeparators_of_caseWord hcase)
  | @next _ rest _ action before hread hrest =>
    rw [skipSeparators_of_caseWord hcase] at hread
    have hsuffix := remainder_statement (reads_caseWord_skipTrivia.2 hcase)
    rw [hread] at hsuffix
    exact .inr (hrest.suffix.trans hsuffix)

/-- The script in front of a statement is read by itself. -/
theorem ReadsUpTo.statements_front {front start : List Char} {before : Program}
    (h : ReadsUpTo (front ++ start) before start) : statements front = .ok before := by
  generalize htext : front ++ start = text at h
  induction h generalizing front with
  | nothing text =>
    have hnone : skipSeparators front = [] := skipSeparators_cut (congrArg skipSeparators htext)
    exact statements_eq_ok_iff.2 (.inl ⟨hnone, rfl⟩)
  | @next text rest start action before hread hbefore ih =>
    obtain ⟨middle, rfl⟩ := hbefore.suffix
    obtain ⟨lead, hlead⟩ := hbefore.suffix.trans (suffix_of_statement hread)
    rw [← hlead] at hread
    rw [← htext] at hlead
    have hfront : skipSeparators front = lead := skipSeparators_cut hlead.symm
    have hstatement : statement lead = .ok (action, middle) := by
      refine statement_cut hread fun after hskip hcase => ?_
      refine (hbefore.of_caseWord hcase).imp_left fun hstart => ?_
      rw [hskip] at hstart
      exact List.append_left_eq_self.1 hstart.symm
    rw [← hfront] at hstatement
    exact statements_eq_ok_iff.2 (.inr ⟨action, middle, before, hstatement, ih rfl, rfl⟩)

theorem skipSeparators_idem (text : List Char) :
    skipSeparators (skipSeparators text) = skipSeparators text := by
  fun_induction skipSeparators text with
  | case1 => rw [skipSeparators_eq]; rfl
  | case2 text c rest htext hlt hc ih => exact ih
  | case3 text c rest htext hlt hc =>
    rw [skipSeparators_eq, ← htext, skipTrivia_idem, htext]
    dsimp only
    rw [if_neg hc]

/-- What follows a place in a statement may be replaced on the next line. -/
theorem ReadsUpTo.goesOn {front lead tail more : List Char} {before actions : Program}
    (h : ReadsUpTo (front ++ tail) before (lead ++ tail)) (hne : lead ++ tail ≠ [])
    (hcase : ∀ after, (Lexeme.word .caseWord).Reads (lead ++ tail) after → tail <:+ after)
    (hmore : statements (lead ++ '\n' :: more) = .ok actions) :
    statements (front ++ '\n' :: more) = .ok (before ++ actions) := by
  generalize htext : front ++ tail = text at h
  generalize hstart : lead ++ tail = start at h
  induction h generalizing front with
  | nothing text =>
    rw [← htext] at hstart
    have hfront : skipSeparators front = lead := skipSeparators_cut hstart.symm
    have hlead : skipSeparators lead = lead := by rw [← hfront, skipSeparators_idem]
    rw [List.nil_append, ← hmore]
    refine statements_eq_of_skipSeparators ?_
    rw [skipSeparators_lineBreak, skipSeparators_lineBreak, hfront, hlead]
  | @next text rest start action before hread hbefore ih =>
    subst hstart
    have htail : tail <:+ rest := (List.suffix_append lead tail).trans hbefore.suffix
    obtain ⟨middle, rfl⟩ := htail
    obtain ⟨first, hfirst⟩ :=
      (List.suffix_append middle tail).trans (suffix_of_statement hread)
    rw [← hfirst] at hread
    rw [← htext] at hfirst
    have hfront : skipSeparators front = first := skipSeparators_cut hfirst.symm
    have hrest : middle ++ tail ≠ [] := by
      intro hnil
      have hsuffix := hbefore.suffix
      rw [hnil] at hsuffix
      exact hne (List.eq_nil_of_suffix_nil hsuffix)
    have hnext : ∀ after, (Lexeme.word .caseWord).Reads (middle ++ tail) after →
        tail <:+ after := by
      intro after hnext
      rcases hbefore.of_caseWord hnext with hstart | hsuffix
      · refine hcase after ?_
        rw [hstart]
        exact reads_caseWord_skipTrivia.2 hnext
      · exact (List.suffix_append lead tail).trans hsuffix
    have hstatement := statement_goesOn hread hrest hnext more
    have hseparators : skipSeparators (front ++ '\n' :: more) = first ++ '\n' :: more := by
      rw [skipSeparators_lineBreak, hfront]
      cases first with
      | nil =>
        have hlt := shrinks_statement _ _ _ hread
        rw [List.length_append, List.nil_append] at hlt
        omega
      | cons c first => rfl
    rw [← hseparators] at hstatement
    rw [statements_of_statement hstatement, ih rfl rfl]
    rfl

end CaseScript.Syntax
