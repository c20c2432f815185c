import CaseScript.Proofs.Syntax.Grammar

/-!
# What readers leave

A reader takes something off the front of a text.  What it leaves behind is an end of that text, and
so is the place at which it fails.

There are four groups.

* Readers.  `Reader.LeavesEnd` is the property, with one lemma for each way to put readers together.
* Tokens.  `suffix_skipTrivia` and one lemma for each token.
* Forms.  `Form.read_of_tokens`: what holds of the readers of tokens and is kept by putting readers
  together holds of every form.
* Statements.  `leavesEnd_statement` for one of them, and `suffix_of_statements_error` for the place
  of the first fault of a script.
-/

namespace CaseScript.Syntax

open CaseScript.Text Reader

/-! ## Readers -/

namespace Reader

variable {α β : Type}

/-- What is left of a text after a value, or where the reader has failed. -/
def remainder : Except Failure (α × List Char) → List Char
  | .ok (_, rest) => rest
  | .error failure => failure.rest

/-- What the reader leaves, or where it fails, is an end of the text that it was given. -/
def LeavesEnd (reader : Reader α) : Prop := ∀ text, remainder (reader text) <:+ text

theorem leavesEnd_pure (value : α) : LeavesEnd (pure value : Reader α) :=
  fun text => List.suffix_refl text

theorem LeavesEnd.bind {reader : Reader α} {next : α → Reader β} (h : LeavesEnd reader)
    (hn : ∀ value, LeavesEnd (next value)) : LeavesEnd (reader >>= next) := by
  intro text
  have htext := h text
  change remainder (reader text >>= fun step => next step.1 step.2) <:+ text
  cases hread : reader text with
  | error failure =>
    rw [hread] at htext
    exact htext
  | ok step =>
    rw [hread] at htext
    exact (hn step.1 step.2).trans htext

/-- Ends of one text that are equally long are the same. -/
theorem eq_of_suffix {first second text : List Char} (hfirst : first <:+ text)
    (hsecond : second <:+ text) (h : first.length = second.length) : first = second :=
  (List.suffix_of_suffix_length_le hfirst hsecond (Nat.le_of_eq h)).eq_of_length h

theorem suffix_furthest {a b : Failure} {text : List Char} (ha : a.rest <:+ text)
    (hb : b.rest <:+ text) : (a.furthest b).rest <:+ text := by
  unfold Failure.furthest
  split
  · exact ha
  · split
    · exact hb
    · exact ha

theorem leavesEnd_firstOf {readers : List (Reader α)}
    (h : ∀ reader ∈ readers, LeavesEnd reader) : LeavesEnd (firstOf readers) := by
  induction readers with
  | nil => exact fun text => List.suffix_refl text
  | cons reader readers ih =>
    obtain ⟨hreader, hreaders⟩ := List.forall_mem_cons.1 h
    intro text
    have hfirst := hreader text
    have hothers := ih hreaders text
    unfold firstOf
    cases hread : reader text with
    | ok result =>
      rw [hread] at hfirst
      exact hfirst
    | error failure =>
      rw [hread] at hfirst
      cases hrest : firstOf readers text with
      | ok result =>
        rw [hrest] at hothers
        exact hothers
      | error other =>
        rw [hrest] at hothers
        exact suffix_furthest hfirst hothers

theorem leavesEnd_optional {reader : Reader α} (h : LeavesEnd reader) :
    LeavesEnd (optional reader) := by
  intro text
  have htext := h text
  unfold optional
  cases hread : reader text with
  | ok result =>
    rw [hread] at htext
    exact htext
  | error failure => exact List.suffix_refl text

end Reader

/-! ## Tokens -/

theorem suffix_skipFrom (inComment : Bool) (text : List Char) :
    skipFrom inComment text <:+ text := by
  induction text generalizing inComment with
  | nil => exact List.suffix_refl []
  | cons c rest ih =>
    have hrest : ∀ inComment, skipFrom inComment rest <:+ c :: rest := fun inComment =>
      (ih inComment).trans (List.suffix_cons c rest)
    unfold skipFrom
    split
    · exact hrest _
    · split
      · exact hrest _
      · split
        · exact hrest _
        · exact List.suffix_refl _

theorem suffix_skipTrivia (text : List Char) : skipTrivia text <:+ text :=
  suffix_skipFrom false text

theorem leavesEnd_word (keyword : Keyword) : LeavesEnd (word keyword) := by
  intro text
  have htrivia := suffix_skipTrivia text
  unfold word
  dsimp only
  split
  · rename_i rest hstrip
    obtain ⟨front, htext, -⟩ := stripWord_eq_some_iff.1 hstrip
    split
    · rw [htext] at htrivia
      exact (List.suffix_append front rest).trans htrivia
    · exact htrivia
  · exact htrivia

theorem leavesEnd_quotedText : LeavesEnd quotedText := by
  intro text
  have htrivia := suffix_skipTrivia text
  unfold quotedText
  split
  · exact List.nil_suffix
  · rename_i quote body htext
    rw [htext] at htrivia
    split
    · split
      · rename_i c rest hdrop
        have hbody := List.dropWhile_suffix (l := body) (· != quote)
        rw [hdrop] at hbody
        exact (List.suffix_cons c rest).trans
          (hbody.trans ((List.suffix_cons quote body).trans htrivia))
      · exact List.nil_suffix
    · exact htrivia

theorem leavesEnd_braceText : LeavesEnd braceText := by
  intro text
  have htrivia := suffix_skipTrivia text
  unfold braceText
  split
  · exact List.nil_suffix
  · rename_i c body htext
    rw [htext] at htrivia
    split
    · split
      · rename_i inside rest hclosed
        obtain ⟨rfl, -⟩ := untilClosed_eq_some_iff.1 hclosed
        have hrest : rest <:+ inside ++ '}' :: rest :=
          (List.suffix_cons '}' rest).trans (List.suffix_append inside _)
        exact hrest.trans ((List.suffix_cons c _).trans htrivia)
      · exact List.nil_suffix
    · exact htrivia

theorem suffix_leadingQuoted (text : List Char) : (leadingQuoted text).2 <:+ text := by
  fun_induction leadingQuoted text with
  | case1 text value rest hread hlt values after heq ih =>
    have htext := leavesEnd_quotedText text
    rw [hread] at htext
    rw [heq] at ih
    exact ih.trans htext
  | case2 text => exact List.suffix_refl text

theorem leavesEnd_quotedTexts : LeavesEnd quotedTexts :=
  leavesEnd_quotedText.bind fun _ => suffix_leadingQuoted

theorem Lexeme.Reads.suffix {lexeme : Lexeme} {text rest : List Char}
    (h : lexeme.Reads text rest) : rest <:+ text := by
  cases lexeme with
  | word keyword =>
    have hread : Syntax.word keyword text = .ok ((), rest) := h
    have hsuffix := leavesEnd_word keyword text
    rwa [hread] at hsuffix
  | quoted value =>
    have hread : quotedText text = .ok (value, rest) := h
    have hsuffix := leavesEnd_quotedText text
    rwa [hread] at hsuffix
  | braced value =>
    have hread : braceText text = .ok (value, rest) := h
    have hsuffix := leavesEnd_braceText text
    rwa [hread] at hsuffix

theorem suffix_of_readsAll {lexemes : List Lexeme} {text rest : List Char}
    (h : ReadsAll lexemes text rest) : rest <:+ text := by
  induction lexemes generalizing text with
  | nil => exact h ▸ List.suffix_refl text
  | cons lexeme lexemes ih =>
    obtain ⟨middle, hread, hrest⟩ := h
    exact (ih hrest).trans hread.suffix

theorem leavesEnd_endOfStatement : LeavesEnd endOfStatement := by
  intro text
  have htrivia := suffix_skipTrivia text
  unfold endOfStatement
  split
  · exact List.nil_suffix
  · rename_i c rest htext
    rw [htext] at htrivia
    split
    · exact (List.suffix_cons c rest).trans htrivia
    · split
      · exact htrivia
      · exact htrivia

/-! ## Statements -/

/-- A choice between words. -/
theorem leavesEnd_wordChoice {α : Type} (keyword : α → Keyword) (values : List α) :
    LeavesEnd (firstOf (values.map fun value => do word (keyword value); return value)) := by
  refine leavesEnd_firstOf ?_
  simp only [List.mem_map]
  rintro reader ⟨value, -, rfl⟩
  exact (leavesEnd_word _).bind fun _ => leavesEnd_pure _

theorem leavesEnd_direction : LeavesEnd direction :=
  leavesEnd_wordChoice Direction.keyword [.left, .right]

theorem leavesEnd_operator : LeavesEnd operator :=
  leavesEnd_wordChoice Operator.keyword [.equal, .like]

/-- What holds of the readers of single tokens, and of readers one behind the other when it holds of
each, holds of the reader of every form. -/
theorem Form.read_of_tokens {Holds : ∀ {α : Type}, Reader α → Prop}
    (hpure : ∀ {α : Type} (value : α), Holds (pure value : Reader α))
    (hbind : ∀ {α β : Type} {reader : Reader α} {next : α → Reader β}, Holds reader →
      (∀ value, Holds (next value)) → Holds (reader >>= next))
    (hword : ∀ keyword, Holds (word keyword))
    (hoptional : ∀ keyword, Holds (optional (word keyword)))
    (hquoted : Holds quotedText) (hquotedTexts : Holds quotedTexts) (hbraced : Holds braceText)
    (hdirection : Holds direction) (hoperator : Holds operator) (form : Form) :
    Holds form.read := by
  cases form <;>
    refine hbind (hword _) fun _ => ?_ <;>
    repeat' with_reducible first
      | exact hpure _
      | refine hbind (hword _) fun _ => ?_
      | refine hbind hquoted fun _ => ?_
      | refine hbind hquotedTexts fun _ => ?_
      | refine hbind hbraced fun _ => ?_
      | refine hbind (hoptional _) fun _ => ?_
      | refine hbind hdirection fun _ => ?_
      | refine hbind hoperator fun _ => ?_

theorem Form.leavesEnd_read (form : Form) : LeavesEnd form.read :=
  form.read_of_tokens leavesEnd_pure LeavesEnd.bind leavesEnd_word
    (fun keyword => leavesEnd_optional (leavesEnd_word keyword)) leavesEnd_quotedText
    leavesEnd_quotedTexts leavesEnd_braceText leavesEnd_direction leavesEnd_operator

theorem Form.leavesEnd_ended (form : Form) : LeavesEnd form.ended :=
  form.leavesEnd_read.bind fun _ => leavesEnd_endOfStatement.bind fun _ => leavesEnd_pure _

theorem Form.leavesEnd_of_mem : ∀ reader ∈ Form.all.map Form.ended, LeavesEnd reader := by
  simp only [List.mem_map]
  rintro reader ⟨form, -, rfl⟩
  exact form.leavesEnd_ended

theorem leavesEnd_statement : LeavesEnd statement := by
  refine (leavesEnd_word _).bind fun _ => leavesEnd_firstOf ?_
  simp only [List.mem_map]
  rintro reader ⟨form, -, rfl⟩
  exact form.leavesEnd_ended

theorem suffix_skipSeparators (text : List Char) : skipSeparators text <:+ text := by
  fun_induction skipSeparators text with
  | case1 => exact List.nil_suffix
  | case2 text c rest htext hlt hc ih =>
    have htrivia := suffix_skipTrivia text
    rw [htext] at htrivia
    exact ih.trans ((List.suffix_cons c rest).trans htrivia)
  | case3 text c rest htext hlt hc =>
    rw [← htext]
    exact suffix_skipTrivia text

/-- The first fault of a script stands in it. -/
theorem suffix_of_statements_error {text : List Char} {index : Nat} {failure : Failure}
    (h : statements text = .error (index, failure)) : failure.rest <:+ text := by
  fun_induction statements text generalizing index with
  | case1 => cases h
  | case2 text hne failure' hread =>
    cases h
    have hstatement := leavesEnd_statement (skipSeparators text)
    rw [hread] at hstatement
    exact hstatement.trans (suffix_skipSeparators text)
  | case3 text hne action rest hread hlt actions hrest ih => cases h
  | case4 text hne action rest hread hlt index' failure' hrest ih =>
    cases h
    have hstatement := leavesEnd_statement (skipSeparators text)
    rw [hread] at hstatement
    exact (ih hrest).trans (hstatement.trans (suffix_skipSeparators text))

end CaseScript.Syntax
