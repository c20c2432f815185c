import CaseScript.Proofs.Syntax.Balance
import Mathlib.Data.List.Nodup

/-!
# Lexemes

A lexeme is a token with what it denotes.  `Lexeme.Reads` says that it stands in front of a text,
`ReadsAll` that a sequence does.

There are three groups.

* Words.  `word_eq_ok_iff` and `stripWord_eq_some_iff` say what a word is, and `word_unique` that no
  two words start the same text.
* Quoted and braced texts.  `quotedText_eq_ok_iff` and `braceText_eq_ok_iff` say what they are.
* One reading.  `Lexeme.Reads.unique`: at most one lexeme stands in front of a text.
  `readsAll_unique`: a statement is cut into lexemes in at most one way.
-/

namespace CaseScript

/-- The labels are sorted, so no two tokens share one. -/
theorem Expected.label_injective {a b : Expected} (h : a.label = b.label) : a = b :=
  List.inj_on_of_nodup_map (inLabelOrder_sorted.imp String.ne_of_lt) (mem_inLabelOrder a)
    (mem_inLabelOrder b) h

namespace Syntax

open CaseScript.Text Reader

/-! ## Words -/

/-- A letter of a word, in whatever case, is a letter. -/
theorem isAlpha_of_toLower {c : Char} (h : c.toLower.isLower = true) : c.isAlpha = true := by
  refine Bool.or_eq_true_iff.2 ?_
  by_cases hupper : c.isUpper = true
  · exact .inl hupper
  · have hsame : c.toLower = c := dif_neg fun hrange => hupper (decide_eq_true hrange)
    rw [hsame] at h
    exact .inr h

/-- A letter is no trivia. -/
theorem isBlank_of_isAlpha {c : Char} (h : c.isAlpha = true) : isBlank c = false ∧ c ≠ '/' := by
  have hc : 65 ≤ c.toNat ∧ c.toNat ≤ 90 ∨ 97 ≤ c.toNat ∧ c.toNat ≤ 122 := by
    rcases Bool.or_eq_true_iff.1 h with hupper | hlower
    · have hrange : 65 ≤ c.toNat ∧ c.toNat ≤ 90 := of_decide_eq_true hupper
      exact .inl hrange
    · have hrange := Bool.and_eq_true_iff.1 hlower
      exact .inr ⟨of_decide_eq_true hrange.1, of_decide_eq_true hrange.2⟩
  constructor
  · simp only [isBlank, Bool.or_eq_false_iff, Bool.and_eq_false_iff, decide_eq_false_iff_not,
      beq_eq_false_iff_ne, ne_eq]
    omega
  · intro h
    subst h
    exact absurd hc (by decide)

theorem stripWord_eq_some_iff {letters text rest : List Char} :
    stripWord letters text = some rest ↔
      ∃ front, text = front ++ rest ∧ front.map Char.toLower = letters := by
  induction letters generalizing text with
  | nil => simp [stripWord, eq_comm]
  | cons letter letters ih =>
    cases text with
    | nil => simp [stripWord]
    | cons c text =>
      simp only [stripWord]
      split
      · rename_i hc
        rw [ih]
        constructor
        · intro h
          rcases h with ⟨front, rfl, hfront⟩
          exact ⟨c :: front, rfl, by simpa [hfront] using hc⟩
        · intro h
          rcases h with ⟨front, htext, hfront⟩
          cases front with
          | nil => cases hfront
          | cons d front =>
            simp only [List.cons_append, List.cons.injEq, List.map_cons] at htext hfront
            exact ⟨front, htext.2, hfront.2⟩
      · rename_i hc
        simp only [reduceCtorEq, false_iff]
        intro h
        rcases h with ⟨front, htext, hfront⟩
        cases front with
        | nil => cases hfront
        | cons d front =>
          simp only [List.cons_append, List.cons.injEq, List.map_cons] at htext hfront
          rw [htext.1, hfront.1] at hc
          simp at hc

theorem word_eq_ok_iff {keyword : Keyword} {text rest : List Char} {value : Unit} :
    word keyword text = .ok (value, rest) ↔
      stripWord keyword.word.toList (skipTrivia text) = some rest ∧ endsWord rest = true := by
  unfold word
  dsimp only
  split
  · rename_i after h
    split
    · rename_i hend
      simp only [Except.ok.injEq, Prod.mk.injEq, true_and, h, Option.some.injEq]
      constructor
      · intro h
        subst h
        exact ⟨rfl, hend⟩
      · exact And.left
    · rename_i hend
      simp only [failAt, reduceCtorEq, h, Option.some.injEq, false_iff]
      intro h
      rcases h with ⟨rfl, h⟩
      exact hend h
  · rename_i h
    simp [failAt, h]

/-- A word passes over the trivia in front of it. -/
theorem word_skipTrivia (keyword : Keyword) (text : List Char) :
    word keyword (skipTrivia text) = word keyword text := by
  rw [word, word, skipTrivia_idem]

theorem keyword_start {keyword : Keyword} {text rest : List Char}
    (h : stripWord keyword.word.toList text = some rest) :
    ∃ c body, text = c :: body ∧ c.toLower.isLower = true := by
  obtain ⟨front, rfl, hfront⟩ := stripWord_eq_some_iff.1 h
  cases front with
  | nil =>
    have := keyword.length_word_pos
    rw [← hfront] at this
    cases this
  | cons c front =>
    refine ⟨c, front ++ rest, rfl, keyword.isLower_of_mem_word c.toLower ?_⟩
    rw [← hfront]
    simp

/-- Of two words at the same place neither is longer: the longer one would go on with a letter
where the shorter one ends. -/
theorem stripWord_length_le {a b : Keyword} {text rest rest' : List Char}
    (ha : stripWord a.word.toList text = some rest)
    (hb : stripWord b.word.toList text = some rest') (hend : endsWord rest = true) :
    rest.length ≤ rest'.length := by
  obtain ⟨front, htext, -⟩ := stripWord_eq_some_iff.1 ha
  obtain ⟨front', htext', hfront'⟩ := stripWord_eq_some_iff.1 hb
  rcases List.append_eq_append_iff.1 (htext.symm.trans htext') with
    ⟨more, rfl, rfl⟩ | ⟨more, rfl, rfl⟩
  · cases more with
    | nil => simp
    | cons c more =>
      have hlower : c.toLower.isLower = true := by
        refine b.isLower_of_mem_word _ ?_
        rw [← hfront']
        simp
      simp [endsWord, isWordChar_of_isAlpha (isAlpha_of_toLower hlower)] at hend
  · simp

theorem word_unique {a b : Keyword} {text rest rest' : List Char} {u v : Unit}
    (ha : word a text = .ok (u, rest)) (hb : word b text = .ok (v, rest')) :
    a = b ∧ rest = rest' := by
  obtain ⟨ha, hend⟩ := word_eq_ok_iff.1 ha
  obtain ⟨hb, hend'⟩ := word_eq_ok_iff.1 hb
  have hlen : rest.length = rest'.length :=
    Nat.le_antisymm (stripWord_length_le ha hb hend) (stripWord_length_le hb ha hend')
  obtain ⟨front, htext, hfront⟩ := stripWord_eq_some_iff.1 ha
  obtain ⟨front', htext', hfront'⟩ := stripWord_eq_some_iff.1 hb
  obtain ⟨rfl, rfl⟩ := List.append_inj' (htext.symm.trans htext') hlen
  have hlabel : (Expected.word a).label = (Expected.word b).label :=
    String.toList_inj.1 (hfront.symm.trans hfront')
  exact ⟨Expected.word.inj (Expected.label_injective hlabel), rfl⟩

/-! ## Quoted and braced texts -/

theorem all_ne_of_not_mem {quote : Char} {inside : List Char} (h : quote ∉ inside) :
    ∀ c ∈ inside, (c != quote) = true := by
  intro c hc
  simp only [bne_iff_ne]
  intro h
  subst h
  exact h hc

theorem takeWhile_ne_append {quote : Char} {inside rest : List Char} (h : quote ∉ inside) :
    (inside ++ quote :: rest).takeWhile (· != quote) = inside := by
  rw [List.takeWhile_append_of_pos (all_ne_of_not_mem h)]
  simp

theorem dropWhile_ne_append {quote : Char} {inside rest : List Char} (h : quote ∉ inside) :
    (inside ++ quote :: rest).dropWhile (· != quote) = quote :: rest := by
  rw [List.dropWhile_append_of_pos (all_ne_of_not_mem h)]
  simp

theorem quotedText_eq_ok_iff {text rest : List Char} {value : String} :
    quotedText text = .ok (value, rest) ↔
      ∃ quote, isQuote quote = true ∧ quote ∉ value.toList ∧
        skipTrivia text = quote :: (value.toList ++ quote :: rest) := by
  unfold quotedText
  constructor
  · intro h
    split at h
    · cases h
    · rename_i quote body htext
      split at h
      · rename_i hquote
        split at h
        · rename_i d after hdrop
          have hd := List.head?_dropWhile_not (· != quote) body
          rw [hdrop] at hd
          have hd : d = quote := by simpa using hd
          subst hd
          cases h
          refine ⟨d, hquote, ?_, ?_⟩
          · intro hmem
            rw [String.toList_ofList] at hmem
            simpa using List.all_eq_true.1 List.all_takeWhile d hmem
          · rw [htext, String.toList_ofList, ← hdrop, List.takeWhile_append_dropWhile]
        · cases h
      · cases h
  · intro h
    rcases h with ⟨quote, hquote, hmem, htext⟩
    simp only [htext, hquote, if_true, dropWhile_ne_append hmem, takeWhile_ne_append hmem,
      String.ofList_toList]

theorem braceText_eq_ok_iff {text rest : List Char} {value : String} :
    braceText text = .ok (value, rest) ↔
      ∃ inside, skipTrivia text = '{' :: (inside ++ '}' :: rest) ∧ Balanced inside ∧
        value = String.ofList (trim inside) := by
  unfold braceText
  cases htext : skipTrivia text with
  | nil => simp [failAt]
  | cons c body =>
    by_cases hc : c = '{'
    · subst hc
      simp only [beq_self_eq_true, if_true, List.cons.injEq, true_and]
      split
      · rename_i inside after h
        obtain ⟨hbody, hinside⟩ := untilClosed_eq_some_iff.1 h
        simp only [Except.ok.injEq, Prod.mk.injEq]
        constructor
        · intro h
          rcases h with ⟨rfl, rfl⟩
          exact ⟨inside, hbody, closes_zero_iff.1 hinside, rfl⟩
        · intro h
          rcases h with ⟨inside', hbody', hinside', rfl⟩
          have h' := untilClosed_eq_some_iff.2 ⟨hbody', closes_zero_iff.2 hinside'⟩
          rw [h] at h'
          cases h'
          exact ⟨rfl, rfl⟩
      · rename_i h
        simp only [failAt, reduceCtorEq, false_iff]
        intro h
        rcases h with ⟨inside, hbody, hinside, -⟩
        rw [untilClosed_eq_some_iff.2 ⟨hbody, closes_zero_iff.2 hinside⟩] at h
        cases h
    · simp [hc, failAt]

/-! ## One reading -/

/-- A token with what it denotes. -/
inductive Lexeme where
  /-- A word of the language. -/
  | word (keyword : Keyword)
  /-- A text between quotes. -/
  | quoted (text : String)
  /-- A text between braces, trimmed. -/
  | braced (text : String)
  deriving DecidableEq, Repr

/-- The lexeme stands in front of the text, and the rest follows it. -/
def Lexeme.Reads (text rest : List Char) : Lexeme → Prop
  | word keyword => Syntax.word keyword text = .ok ((), rest)
  | quoted value => quotedText text = .ok (value, rest)
  | braced value => braceText text = .ok (value, rest)

/-- The lexemes stand in front of the text, and the rest follows them. -/
def ReadsAll : List Lexeme → List Char → List Char → Prop
  | [], text, rest => text = rest
  | lexeme :: lexemes, text, rest =>
    ∃ middle, lexeme.Reads text middle ∧ ReadsAll lexemes middle rest

@[simp] theorem readsAll_nil {text rest : List Char} : ReadsAll [] text rest ↔ text = rest :=
  Iff.rfl

@[simp] theorem readsAll_cons {lexeme : Lexeme} {lexemes : List Lexeme} {text rest : List Char} :
    ReadsAll (lexeme :: lexemes) text rest ↔
      ∃ middle, lexeme.Reads text middle ∧ ReadsAll lexemes middle rest :=
  Iff.rfl

theorem readsAll_append {first second : List Lexeme} {text rest : List Char} :
    ReadsAll (first ++ second) text rest ↔
      ∃ middle, ReadsAll first text middle ∧ ReadsAll second middle rest := by
  induction first generalizing text with
  | nil => simp
  | cons lexeme first ih =>
    simp only [List.cons_append, readsAll_cons, ih]
    constructor
    · intro h
      rcases h with ⟨behind, hlexeme, middle, hfirst, hsecond⟩
      exact ⟨middle, ⟨behind, hlexeme, hfirst⟩, hsecond⟩
    · intro h
      rcases h with ⟨middle, ⟨behind, hlexeme, hfirst⟩, hsecond⟩
      exact ⟨behind, hlexeme, middle, hfirst, hsecond⟩

theorem readsAll_concat {done : List Lexeme} {lexeme : Lexeme} {start text rest : List Char}
    (h : ReadsAll done start text) (hread : lexeme.Reads text rest) :
    ReadsAll (done ++ [lexeme]) start rest :=
  readsAll_append.2 ⟨text, h, rest, hread, rfl⟩

/-- The first character of a lexeme: a letter, a quote or a brace. -/
def Lexeme.startsWith (c : Char) : Lexeme → Bool
  | word _ => c.toLower.isLower
  | quoted _ => isQuote c
  | braced _ => c == '{'

theorem Lexeme.Reads.start {lexeme : Lexeme} {text rest : List Char} (h : lexeme.Reads text rest) :
    ∃ c body, skipTrivia text = c :: body ∧ lexeme.startsWith c = true := by
  cases lexeme with
  | word keyword => exact keyword_start (word_eq_ok_iff.1 h).1
  | quoted value =>
    obtain ⟨quote, hquote, -, htext⟩ := quotedText_eq_ok_iff.1 h
    exact ⟨quote, _, htext, hquote⟩
  | braced value =>
    obtain ⟨inside, htext, -, -⟩ := braceText_eq_ok_iff.1 h
    exact ⟨'{', _, htext, rfl⟩

/-- No lexeme starts with trivia. -/
theorem Lexeme.startsToken (lexeme : Lexeme) {c : Char} (h : lexeme.startsWith c = true)
    (text : List Char) : StartsToken (c :: text) := by
  cases lexeme with
  | word keyword =>
    obtain ⟨hblank, hc⟩ := isBlank_of_isAlpha (isAlpha_of_toLower h)
    exact startsToken_cons hblank hc text
  | quoted value =>
    simp only [startsWith, isQuote, Bool.or_eq_true, beq_iff_eq] at h
    rcases h with rfl | rfl
    · exact startsToken_cons (by decide) (by decide) text
    · exact startsToken_cons (by decide) (by decide) text
  | braced value =>
    obtain rfl := eq_of_beq h
    exact startsToken_cons (by decide) (by decide) text

theorem Lexeme.not_startsWith_semicolon (lexeme : Lexeme) : lexeme.startsWith ';' = false := by
  cases lexeme <;> rfl

theorem Lexeme.ne_semicolon {lexeme : Lexeme} {c : Char} (h : lexeme.startsWith c = true) :
    (c == ';') = false := by
  refine beq_false_of_ne ?_
  rintro rfl
  rw [lexeme.not_startsWith_semicolon] at h
  cases h

theorem Lexeme.eq_braced_of_startsWith {lexeme : Lexeme} (h : lexeme.startsWith '{' = true) :
    ∃ value, lexeme = braced value := by
  cases lexeme with
  | word keyword => exact absurd h Bool.false_ne_true
  | quoted value => exact absurd h Bool.false_ne_true
  | braced value => exact ⟨value, rfl⟩

theorem Lexeme.eq_quoted_of_startsWith {lexeme : Lexeme} {c : Char} (hc : isQuote c = true)
    (h : lexeme.startsWith c = true) : ∃ value, lexeme = quoted value := by
  simp only [isQuote, Bool.or_eq_true, beq_iff_eq] at hc
  cases lexeme with
  | word keyword => rcases hc with rfl | rfl <;> exact absurd h Bool.false_ne_true
  | quoted value => exact ⟨value, rfl⟩
  | braced value => rcases hc with rfl | rfl <;> exact absurd h Bool.false_ne_true

/-- At most one lexeme stands in front of a text. -/
theorem Lexeme.Reads.unique {a b : Lexeme} {text rest rest' : List Char}
    (ha : a.Reads text rest) (hb : b.Reads text rest') : a = b ∧ rest = rest' := by
  obtain ⟨c, body, htext, hc⟩ := ha.start
  obtain ⟨d, body', htext', hd⟩ := hb.start
  obtain ⟨rfl, -⟩ := List.cons.inj (htext.symm.trans htext')
  cases a with
  | word keyword =>
    cases b with
    | word keyword' =>
      obtain ⟨rfl, rfl⟩ := word_unique ha hb
      exact ⟨rfl, rfl⟩
    | quoted value =>
      obtain ⟨_, h⟩ := eq_quoted_of_startsWith hd hc
      cases h
    | braced value =>
      obtain rfl := eq_of_beq hd
      obtain ⟨_, h⟩ := eq_braced_of_startsWith hc
      cases h
  | quoted value =>
    obtain ⟨value', rfl⟩ := eq_quoted_of_startsWith hc hd
    cases (show Except.ok (value, rest) = Except.ok (value', rest') from ha.symm.trans hb)
    exact ⟨rfl, rfl⟩
  | braced value =>
    obtain rfl := eq_of_beq hc
    obtain ⟨value', rfl⟩ := eq_braced_of_startsWith hd
    cases (show Except.ok (value, rest) = Except.ok (value', rest') from ha.symm.trans hb)
    exact ⟨rfl, rfl⟩

/-- Where a statement ends, no lexeme follows but the word that starts the next one. -/
theorem Lexeme.Reads.eq_caseWord {lexeme : Lexeme} {text rest rest' : List Char} {value : Unit}
    (h : lexeme.Reads text rest) (hend : endOfStatement text = .ok (value, rest')) :
    lexeme = .word .caseWord := by
  obtain ⟨c, body, htext, hc⟩ := h.start
  rw [endOfStatement, htext] at hend
  dsimp only at hend
  split at hend
  · rename_i hsemicolon
    rw [beq_iff_eq] at hsemicolon
    subst hsemicolon
    rw [lexeme.not_startsWith_semicolon] at hc
    cases hc
  · split at hend
    · rename_i result hword
      have hcase : Syntax.word .caseWord text = .ok result := by
        rw [← hword, ← htext, word_skipTrivia]
      exact (h.unique (b := .word .caseWord) hcase).1
    · cases hend

/-- A statement is cut into lexemes in at most one way. -/
theorem readsAll_unique {first second : List Lexeme} {text middle middle' rest rest' : List Char}
    {u v : Unit} (hfirst : ReadsAll first text middle) (hsecond : ReadsAll second text middle')
    (hend : endOfStatement middle = .ok (u, rest))
    (hend' : endOfStatement middle' = .ok (v, rest'))
    (hcase : .word .caseWord ∉ first) (hcase' : .word .caseWord ∉ second) :
    first = second ∧ rest = rest' := by
  induction first generalizing second text with
  | nil =>
    cases second with
    | nil =>
      rw [readsAll_nil] at hfirst hsecond
      subst hfirst hsecond
      rw [hend] at hend'
      cases hend'
      exact ⟨rfl, rfl⟩
    | cons lexeme second =>
      rcases hsecond with ⟨after, hread, -⟩
      rw [readsAll_nil] at hfirst
      subst hfirst
      cases hread.eq_caseWord hend
      exact absurd (by simp) hcase'
  | cons lexeme first ih =>
    rcases hfirst with ⟨after, hread, hfirst⟩
    cases second with
    | nil =>
      rw [readsAll_nil] at hsecond
      subst hsecond
      cases hread.eq_caseWord hend'
      exact absurd (by simp) hcase
    | cons lexeme' second =>
      rcases hsecond with ⟨after', hread', hsecond⟩
      obtain ⟨rfl, rfl⟩ := hread.unique hread'
      obtain ⟨rfl, rfl⟩ := ih hfirst hsecond (fun h => hcase (by simp [h]))
        fun h => hcase' (by simp [h])
      exact ⟨rfl, rfl⟩

end Syntax

end CaseScript
