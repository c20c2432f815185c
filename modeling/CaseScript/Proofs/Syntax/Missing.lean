import CaseScript.Proofs.Syntax.Remainder
import CaseScript.Proofs.Syntax.RoundTrip

/-!
# Missing tokens

A reader that fails names the tokens that it misses.  This file shows that every token that a
statement names is one with which it could go on: the text up to the place of the failure is a part
of a statement, and the token is the next part.

There are four groups.

* Readers.  `bind_eq_error` and `exists_of_firstOf_error` trace a failure back to the reader that
  has failed.  `mem_expected_furthest` says what the furthest of two failures names.
* Tokens.  `Stop` says where reading stops because a token is missing, and `PartOf` which lexemes
  the token belongs to.  `ReadsOne.stops` says both of a reader of one lexeme.
* Forms.  `Follows` says of a reader that behind given lexemes it names only tokens with which a row
  of the statement table goes on, with one lemma for each way to put readers together.
  `Chain.follows` puts them together along the chain of a form.
* Statements.  `Fault` lists the three ways in which a statement stops, and `fault_of_statement`
  shows that there are no others.
-/

namespace CaseScript.Syntax

open CaseScript.Text Reader

/-! ## Readers -/

namespace Reader

variable {α β : Type} {a b : Failure}

theorem bind_eq_error {reader : Reader α} {next : α → Reader β} {text : List Char}
    {failure : Failure} :
    (reader >>= next) text = .error failure ↔ reader text = .error failure ∨
      ∃ value rest, reader text = .ok (value, rest) ∧ next value rest = .error failure := by
  change (reader text >>= fun step => next step.1 step.2) = _ ↔ _
  cases reader text with
  | error failure => simp [bind, Except.bind]
  | ok step => simp [bind, Except.bind, Prod.ext_iff]

theorem optional_ne_error {reader : Reader α} {text : List Char} {failure : Failure} :
    optional reader text ≠ .error failure := by
  unfold optional
  split <;> simp

theorem furthest_of_lt (h : a.rest.length < b.rest.length) : a.furthest b = a := if_pos h

theorem furthest_of_gt (h : b.rest.length < a.rest.length) : a.furthest b = b := by
  rw [Failure.furthest, if_neg (by omega), if_pos h]

theorem furthest_of_eq (h : a.rest.length = b.rest.length) :
    a.furthest b = ⟨a.rest, a.expected ++ b.expected⟩ := by
  rw [Failure.furthest, if_neg (by omega), if_neg (by omega)]

theorem length_rest_furthest (a b : Failure) :
    (a.furthest b).rest.length = min a.rest.length b.rest.length := by
  rcases Nat.lt_trichotomy a.rest.length b.rest.length with h | h | h
  · rw [furthest_of_lt h]
    omega
  · rw [furthest_of_eq h]
    dsimp only
    omega
  · rw [furthest_of_gt h]
    omega

/-- The furthest of two failures names what the one names that stands further, and what both name
where they stand at one place. -/
theorem mem_expected_furthest {token : Expected} :
    token ∈ (a.furthest b).expected ↔
      a.rest.length ≤ b.rest.length ∧ token ∈ a.expected ∨
      b.rest.length ≤ a.rest.length ∧ token ∈ b.expected := by
  rcases Nat.lt_trichotomy a.rest.length b.rest.length with h | h | h
  · simp [furthest_of_lt h, Nat.le_of_lt h, Nat.not_le.2 h]
  · simp [furthest_of_eq h, h]
  · simp [furthest_of_gt h, Nat.le_of_lt h, Nat.not_le.2 h]

/-- The furthest of two failures is one of them, or both where they are at the same place. -/
theorem mem_furthest {text : List Char} {token : Expected}
    (ha : a.rest <:+ text) (hb : b.rest <:+ text) (h : token ∈ (a.furthest b).expected) :
    (a.rest = (a.furthest b).rest ∧ token ∈ a.expected) ∨
      (b.rest = (a.furthest b).rest ∧ token ∈ b.expected) := by
  have hends := suffix_furthest ha hb
  have hlength := length_rest_furthest a b
  refine (mem_expected_furthest.1 h).imp (fun hfirst => ?_) fun hsecond => ?_
  · exact ⟨eq_of_suffix ha hends (by omega), hfirst.2⟩
  · exact ⟨eq_of_suffix hb hends (by omega), hsecond.2⟩

/-- A token that a choice names is one that a reader of the choice names, at the same place. -/
theorem exists_of_firstOf_error {readers : List (Reader α)} {text : List Char}
    {failure : Failure} {token : Expected} (hends : ∀ reader ∈ readers, LeavesEnd reader)
    (h : firstOf readers text = .error failure) (htoken : token ∈ failure.expected) :
    ∃ reader ∈ readers, ∃ other, reader text = .error other ∧ other.rest = failure.rest ∧
      token ∈ other.expected := by
  induction readers generalizing failure with
  | nil =>
    cases h
    cases htoken
  | cons reader readers ih =>
    obtain ⟨hreader, hreaders⟩ := List.forall_mem_cons.1 hends
    unfold firstOf at h
    split at h
    · cases h
    · rename_i first hfirst
      split at h
      · cases h
      · rename_i second hsecond
        cases h
        have hrest := hreader text
        have hrest' := leavesEnd_firstOf hreaders text
        rw [hfirst] at hrest
        rw [hsecond] at hrest'
        rcases mem_furthest hrest hrest' htoken with ⟨hplace, hmem⟩ | ⟨hplace, hmem⟩
        · exact ⟨reader, List.mem_cons_self, first, hfirst, hplace, hmem⟩
        · obtain ⟨other, hother, found, hfound, hfoundPlace, hnamed⟩ := ih hreaders hsecond hmem
          exact ⟨other, List.mem_cons_of_mem _ hother, found, hfound, hfoundPlace.trans hplace,
            hnamed⟩

end Reader

/-! ## Tokens -/

/-- Reading stops because the token is missing, and the rest is left.  Inside of quotes or braces
the text has come to its end. -/
inductive Stop : List Char → List Char → Expected → Prop where
  | word (text : List Char) (keyword : Keyword) : Stop text (skipTrivia text) (.word keyword)
  | quotedText (text : List Char) : Stop text (skipTrivia text) .quotedText
  | closingQuote {text body : List Char} {quote : Char} :
    skipTrivia text = quote :: body → isQuote quote = true → quote ∉ body →
      Stop text [] .closingQuote
  | openBrace (text : List Char) : Stop text (skipTrivia text) .openBrace
  | closeBrace {text body : List Char} :
    skipTrivia text = '{' :: body → untilClosed 0 body = none → Stop text [] .closeBrace

/-- The token is the lexeme or stands at one of its ends. -/
inductive PartOf : Expected → Lexeme → Prop where
  | word (keyword : Keyword) : PartOf (.word keyword) (.word keyword)
  | quotedText (value : String) : PartOf .quotedText (.quoted value)
  | closingQuote (value : String) : PartOf .closingQuote (.quoted value)
  | openBrace (value : String) : PartOf .openBrace (.braced value)
  | closeBrace (value : String) : PartOf .closeBrace (.braced value)

theorem PartOf.eq_word {keyword : Keyword} {part : Lexeme} (h : PartOf (.word keyword) part) :
    part = .word keyword := by
  cases h
  rfl

theorem word_eq_error {keyword : Keyword} {text : List Char} {failure : Failure}
    (h : word keyword text = .error failure) :
    failure = ⟨skipTrivia text, [.word keyword]⟩ := by
  unfold word at h
  dsimp only at h
  split at h
  · split at h <;> cases h
    rfl
  · cases h
    rfl

theorem stop_of_word {keyword : Keyword} {text : List Char} {failure : Failure} {token : Expected}
    (h : word keyword text = .error failure) (htoken : token ∈ failure.expected) :
    token = .word keyword ∧ Stop text failure.rest token := by
  rw [word_eq_error h] at htoken ⊢
  obtain rfl := List.mem_singleton.1 htoken
  exact ⟨rfl, .word text keyword⟩

/-- A choice between words names only words of the choice. -/
theorem stop_of_wordChoice {α : Type} (keyword : α → Keyword) (values : List α) {text : List Char}
    {failure : Failure} {token : Expected}
    (h : firstOf (values.map fun value => do word (keyword value); return value) text =
      .error failure) (htoken : token ∈ failure.expected) :
    (∃ value, token = .word (keyword value)) ∧ Stop text failure.rest token := by
  have hends : ∀ reader ∈ values.map fun value =>
      (do word (keyword value); return value : Reader α), LeavesEnd reader := by
    simp only [List.mem_map]
    rintro reader ⟨value, -, rfl⟩
    exact (leavesEnd_word _).bind fun _ => leavesEnd_pure _
  obtain ⟨reader, hmem, other, hother, hplace, hnamed⟩ := exists_of_firstOf_error hends h htoken
  obtain ⟨value, -, rfl⟩ := List.mem_map.1 hmem
  rcases bind_eq_error.1 hother with hword | ⟨_, _, -, hpure⟩
  · obtain ⟨htoken, hstop⟩ := stop_of_word hword hnamed
    exact ⟨⟨value, htoken⟩, hplace ▸ hstop⟩
  · cases hpure

theorem stop_of_quotedText {text : List Char} {failure : Failure} {token : Expected}
    (h : quotedText text = .error failure) (htoken : token ∈ failure.expected) :
    (token = .quotedText ∨ token = .closingQuote) ∧ Stop text failure.rest token := by
  unfold quotedText at h
  split at h
  · rename_i htext
    cases h
    obtain rfl := List.mem_singleton.1 htoken
    exact ⟨.inl rfl, htext ▸ .quotedText text⟩
  · rename_i quote body htext
    split at h
    · rename_i hquote
      split at h
      · cases h
      · rename_i hdrop
        cases h
        obtain rfl := List.mem_singleton.1 htoken
        have hmem : quote ∉ body := by
          have hbody := List.takeWhile_append_dropWhile (p := (· != quote)) (l := body)
          rw [hdrop, List.append_nil] at hbody
          intro hmem
          rw [← hbody] at hmem
          simpa using List.all_eq_true.1 List.all_takeWhile _ hmem
        exact ⟨.inr rfl, .closingQuote htext hquote hmem⟩
    · cases h
      obtain rfl := List.mem_singleton.1 htoken
      exact ⟨.inl rfl, htext ▸ .quotedText text⟩

theorem stop_of_braceText {text : List Char} {failure : Failure} {token : Expected}
    (h : braceText text = .error failure) (htoken : token ∈ failure.expected) :
    (token = .openBrace ∨ token = .closeBrace) ∧ Stop text failure.rest token := by
  unfold braceText at h
  split at h
  · rename_i htext
    cases h
    obtain rfl := List.mem_singleton.1 htoken
    exact ⟨.inl rfl, htext ▸ .openBrace text⟩
  · rename_i c body htext
    split at h
    · rename_i hc
      split at h
      · cases h
      · rename_i hopen
        cases h
        obtain rfl := List.mem_singleton.1 htoken
        rw [beq_iff_eq.1 hc] at htext
        exact ⟨.inr rfl, .closeBrace htext hopen⟩
    · cases h
      obtain rfl := List.mem_singleton.1 htoken
      exact ⟨.inl rfl, htext ▸ .openBrace text⟩

theorem balanced_nil : Balanced [] := closes_zero_iff.1 (closes_nil_iff.2 rfl)

section ReadsOne

variable {α : Type} {reader : Reader α} {lexeme : α → Lexeme}

/-- A reader of one lexeme that fails names parts of such a lexeme. -/
theorem ReadsOne.stops (h : ReadsOne reader lexeme) {text : List Char} {failure : Failure}
    {token : Expected} (hfail : reader text = .error failure) (htoken : token ∈ failure.expected) :
    Stop text failure.rest token ∧ ∀ part, PartOf token part → ∃ value, part = lexeme value := by
  cases h with
  | word keyword =>
    obtain ⟨rfl, hstop⟩ := stop_of_word hfail htoken
    exact ⟨hstop, fun part hpart => ⟨(), hpart.eq_word⟩⟩
  | quoted =>
    obtain ⟨hkind, hstop⟩ := stop_of_quotedText hfail htoken
    refine ⟨hstop, fun part hpart => ?_⟩
    rcases hkind with rfl | rfl <;> cases hpart <;> exact ⟨_, rfl⟩
  | braced =>
    obtain ⟨hkind, hstop⟩ := stop_of_braceText hfail htoken
    refine ⟨hstop, fun part hpart => ?_⟩
    rcases hkind with rfl | rfl <;> cases hpart <;> exact ⟨_, rfl⟩
  | direction =>
    obtain ⟨⟨side, rfl⟩, hstop⟩ :=
      stop_of_wordChoice Direction.keyword [.left, .right] hfail htoken
    exact ⟨hstop, fun part hpart => ⟨side, hpart.eq_word⟩⟩
  | operator =>
    obtain ⟨⟨comparison, rfl⟩, hstop⟩ :=
      stop_of_wordChoice Operator.keyword [.equal, .like] hfail htoken
    exact ⟨hstop, fun part hpart => ⟨comparison, hpart.eq_word⟩⟩

/-- The lexeme can be written, at least with some value. -/
theorem ReadsOne.legible (h : ReadsOne reader lexeme) : ∃ value, (lexeme value).Legible := by
  cases h with
  | word => exact ⟨(), trivial⟩
  | quoted => exact ⟨"", fun h => absurd h.1 (by simp)⟩
  | braced => exact ⟨"", rfl, balanced_nil⟩
  | direction => exact ⟨.left, trivial⟩
  | operator => exact ⟨.equal, trivial⟩

end ReadsOne

theorem Stop.suffix {text rest : List Char} {token : Expected} (h : Stop text rest token) :
    rest <:+ text := by
  cases h with
  | closingQuote | closeBrace => exact List.nil_suffix
  | _ => exact suffix_skipTrivia text

/-! ## Forms -/

/-- Lexemes that can be written come behind the given ones in a row of the table. -/
def Completable (form : Form) (done : List Lexeme) : Prop :=
  ∃ others action, (∀ lexeme ∈ others, lexeme.Legible) ∧ Denotes form (done ++ others) action

/-- The start of the text is read for the form up to where the token is missing, and the form goes
on with this token. -/
def Lacks (form : Form) (start rest : List Char) (token : Expected) : Prop :=
  ∃ done text, ReadsAll done start text ∧ Stop text rest token ∧
    ∀ lexeme, PartOf token lexeme → Completable form (done ++ [lexeme])

theorem Lacks.suffix {form : Form} {start rest : List Char} {token : Expected}
    (h : Lacks form start rest token) : rest <:+ start := by
  obtain ⟨done, text, hdone, hstop, -⟩ := h
  exact hstop.suffix.trans (suffix_of_readsAll hdone)

/-- Behind the given lexemes the reader reads what the form asks for: where it fails, every token
that it names is one with which the form goes on. -/
structure Follows {α : Type} (form : Form) (done : List Lexeme) (reader : Reader α) : Prop where
  completable : Completable form done
  lacks : ∀ start text failure token, ReadsAll done start text → reader text = .error failure →
    token ∈ failure.expected → Lacks form start failure.rest token

theorem completable_of_append {form : Form} {done : List Lexeme} {lexeme : Lexeme}
    (h : Completable form (done ++ [lexeme])) (hlegible : lexeme.Legible) :
    Completable form done := by
  obtain ⟨others, action, hothers, hdenotes⟩ := h
  rw [List.append_assoc] at hdenotes
  exact ⟨lexeme :: others, action, List.forall_mem_cons.2 ⟨hlegible, hothers⟩, hdenotes⟩

section Follows

variable {α β : Type} {form : Form} {done : List Lexeme}

/-- The form has come to its end. -/
theorem follows_pure {action : Action} (h : Denotes form done action) :
    Follows form done (pure action : Reader Action) where
  completable := ⟨[], action, by simp, by rwa [List.append_nil]⟩
  lacks := by
    intro start text failure token _ hfail
    cases hfail

/-- A lexeme in front of what follows it. -/
theorem Follows.after {reader : Reader α} {lexeme : α → Lexeme} {next : α → Reader β}
    (hreader : ReadsOne reader lexeme)
    (h : ∀ value, Follows form (done ++ [lexeme value]) (next value)) :
    Follows form done (reader >>= next) where
  completable := by
    obtain ⟨value, hlegible⟩ := hreader.legible
    exact completable_of_append (h value).completable hlegible
  lacks := by
    intro start text failure token hdone hfail htoken
    rcases bind_eq_error.1 hfail with hstopped | ⟨value, rest, hread, hnext⟩
    · obtain ⟨hstop, hpart⟩ := hreader.stops hstopped htoken
      refine ⟨done, text, hdone, hstop, fun part h' => ?_⟩
      obtain ⟨value, rfl⟩ := hpart part h'
      exact (h value).completable
    · exact (h value).lacks start rest failure token
        (readsAll_concat hdone (hreader.reads hread)) hnext htoken

/-- A word that may be left out. -/
theorem Follows.afterOptional {keyword : Keyword} {next : Option Unit → Reader β}
    (hnone : Follows form done (next none))
    (hsome : Follows form (done ++ [.word keyword]) (next (some ()))) :
    Follows form done (Reader.optional (word keyword) >>= next) where
  completable := hnone.completable
  lacks := by
    intro start text failure token hdone hfail htoken
    rcases bind_eq_error.1 hfail with hoptional | ⟨value, rest, hread, hnext⟩
    · exact absurd hoptional optional_ne_error
    · cases value with
      | none =>
        obtain ⟨hrest, -⟩ := optional_eq_none.1 hread
        rw [hrest] at hnext
        exact hnone.lacks start text failure token hdone hnext htoken
      | some value =>
        have hread := optional_eq_some.1 hread
        exact hsome.lacks start rest failure token (readsAll_concat hdone hread) hnext htoken

/-- Quoted texts at the end of a form: only the first one can be missing. -/
theorem Follows.afterQuotedTexts {next : List String → Reader β}
    (h : ∀ value values,
      Follows form (done ++ .quoted value :: values.map .quoted) (next (value :: values))) :
    Follows form done (quotedTexts >>= next) where
  completable := by
    obtain ⟨value, hlegible⟩ := ReadsOne.quoted.legible
    exact completable_of_append (h value []).completable hlegible
  lacks := by
    intro start text failure token hdone hfail htoken
    rcases bind_eq_error.1 hfail with hquoted | ⟨values, rest, hread, hnext⟩
    · rcases bind_eq_error.1 hquoted with hquoted | ⟨_, _, -, hleading⟩
      · obtain ⟨hstop, hpart⟩ := ReadsOne.quoted.stops hquoted htoken
        refine ⟨done, text, hdone, hstop, fun part h' => ?_⟩
        obtain ⟨value, rfl⟩ := hpart part h'
        exact (h value []).completable
      · cases hleading
    · obtain ⟨value, more, middle, rfl, hvalue, hmore⟩ := quotedTexts_eq_ok_iff.1 hread
      refine (h value more).lacks start rest failure token ?_ hnext htoken
      exact readsAll_append.2 ⟨text, hdone, middle, hvalue, readsAll_of_leadingQuoted hmore⟩

end Follows

/-- A chain goes on with each token that it names where it fails. -/
theorem Chain.follows {form : Form} {done : List Lexeme} {reader : Reader Action}
    (h : Chain form done reader) : Follows form done reader := by
  induction h with
  | finish hdenotes => exact follows_pure hdenotes
  | after hreader _ ih => exact .after hreader ih
  | afterOptional _ _ ihnone ihsome => exact .afterOptional ihnone ihsome
  | afterQuotedTexts _ ih => exact .afterQuotedTexts ih

/-! ## Statements -/

/-- A statement stops where the token is missing, and the rest is left: at its first word, inside of
a form, or behind a form. -/
inductive Fault : List Char → List Char → Expected → Prop where
  | caseWord (text : List Char) : Fault text (skipTrivia text) (.word .caseWord)
  | lacks {form : Form} {text start rest : List Char} {token : Expected} :
    (Lexeme.word .caseWord).Reads text start → Lacks form start rest token → Fault text rest token
  | ending {form : Form} {lexemes : List Lexeme} {action : Action} {text start middle : List Char}
    {token : Expected} :
    (Lexeme.word .caseWord).Reads text start → Denotes form lexemes action →
      ReadsAll lexemes start middle → token ∈ [.semicolon, .word .caseWord, .endOfInput] →
        Fault text (skipTrivia middle) token

theorem endOfStatement_eq_error {text : List Char} {failure : Failure}
    (h : endOfStatement text = .error failure) :
    failure = ⟨skipTrivia text, [.semicolon, .word .caseWord, .endOfInput]⟩ := by
  unfold endOfStatement at h
  split at h
  · cases h
  · rename_i c body htext
    split at h
    · cases h
    · split at h
      · cases h
      · cases h
        rw [htext]

theorem fault_of_statement {text : List Char} {failure : Failure} {token : Expected}
    (h : statement text = .error failure) (htoken : token ∈ failure.expected) :
    Fault text failure.rest token := by
  rcases bind_eq_error.1 h with hword | ⟨_, start, hcase, hforms⟩
  · rw [word_eq_error hword] at htoken ⊢
    obtain rfl := List.mem_singleton.1 htoken
    exact .caseWord text
  · obtain ⟨reader, hmem, other, hother, hplace, hnamed⟩ :=
      exists_of_firstOf_error Form.leavesEnd_of_mem hforms htoken
    obtain ⟨form, -, rfl⟩ := List.mem_map.1 hmem
    rw [← hplace]
    rcases bind_eq_error.1 hother with hread | ⟨action, middle, hread, hend⟩
    · exact .lacks hcase (form.chain.follows.lacks start start other token rfl hread hnamed)
    · obtain ⟨lexemes, hdenotes, hreads⟩ := Form.exists_denotes hread
      rcases bind_eq_error.1 hend with hend | ⟨_, _, -, hpure⟩
      · rw [endOfStatement_eq_error hend] at hnamed ⊢
        exact .ending hcase hdenotes hreads hnamed
      · cases hpure

end CaseScript.Syntax
