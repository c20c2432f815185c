import CaseScript.Proofs.Syntax.Lexeme
import CaseScript.Syntax.Script

/-!
# The statement table

`Denotes` is the table of statement forms: which lexemes a form consists of, and which action they
denote.  It does not mention readers.

There are five groups.

* The parts of a form.  Directions, comparisons and runs of quoted texts are read as lexemes.
* What a form reads.  `Chain` takes the reader of a form apart into the readers of its parts, beside
  the rows that they make up, and `Form.chain` does so for every form.  By induction on the chain
  `Form.exists_denotes` shows that what a form reads is a row of the table.
* Which rows are read.  `ReadsRow` says that a reader reads a row in front of the end of a
  statement, with one lemma for each way to put readers together.  `Form.readsRow_of_denotes` puts
  them together for every row.
* All forms.  `Form.ended_unique`: no text fits two forms.  `statement_eq_ok_iff`: a statement is
  the word `case` and a row of the table.
* Scripts.  `statements_eq_ok_iff`, `Program.parse_eq_ok_iff` and `Action.parse_eq_ok_iff` say when
  a script is read as a whole.
-/

namespace CaseScript

/-- The word for a direction. -/
def Direction.keyword : Direction → Keyword
  | left => .left
  | right => .right

/-- The word for a comparison. -/
def Operator.keyword : Operator → Keyword
  | equal => .equal
  | like => .like

theorem Operator.keyword_ne_notWord (comparison : Operator) : comparison.keyword ≠ .notWord := by
  cases comparison <;> decide

namespace Syntax

open CaseScript.Text Reader

/-- The word that turns a filter around, where it is. -/
def negation : Bool → List Lexeme
  | true => [.word .notWord]
  | false => []

/-- The lexemes of a statement after the word `case`, and the action that they denote. -/
inductive Denotes : Form → List Lexeme → Action → Prop where
  | loadFile (path : String) :
    Denotes .loadFile [.word .load, .word .file, .quoted path] (.load (.file path))
  | loadQueryFile (path connection : String) :
    Denotes .loadQueryFile
      [.word .load, .word .query, .quoted path, .word .onWord, .quoted connection]
      (.load (.queryFile path connection))
  | loadQueryText (text connection : String) :
    Denotes .loadQueryText
      [.word .load, .word .query, .braced text, .word .onWord, .quoted connection]
      (.load (.queryText text connection))
  | remove (column : String) :
    Denotes .remove [.word .remove, .word .column, .quoted column] (.remove column)
  | rename (column name : String) :
    Denotes .rename
      [.word .rename, .word .column, .quoted column, .word .into, .quoted name]
      (.rename column name)
  | move (column : String) (side : Direction) :
    Denotes .move
      [.word .move, .word .column, .quoted column, .word .toWord, .word side.keyword]
      (.move column side)
  | filter (column : String) (negate : Bool) (comparison : Operator) (value : String)
      (values : List String) :
    Denotes .filter
      (.word .filter :: .word .onWord :: .word .column :: .quoted column :: .word .values ::
        (negation negate ++ .word comparison.keyword :: (value :: values).map .quoted))
      (.filter column comparison (value :: values) negate)
  | distinctOn :
    Denotes .filterDistinct [.word .filter, .word .onWord, .word .distinct] .distinct
  | distinct : Denotes .filterDistinct [.word .filter, .word .distinct] .distinct
  | scope (name : String) : Denotes .scope [.word .scope, .quoted name] (.scope name)
  | crossOnKey (first second key : String) :
    Denotes .crossOnKey
      [.word .cross, .quoted first, .word .withWord, .quoted second, .word .onWord, .quoted key]
      (.cross first second (some key))
  | cross (first second : String) :
    Denotes .cross [.word .cross, .quoted first, .word .withWord, .quoted second]
      (.cross first second none)
  | save (path : String) :
    Denotes .save [.word .save, .word .asWord, .quoted path] (.save path)
  | copy (source target : String) :
    Denotes .copy [.word .copy, .quoted source, .word .toWord, .quoted target]
      (.copy source target)
  | addFilled (column fill : String) :
    Denotes .addFilled
      [.word .add, .word .column, .quoted column, .word .values, .quoted fill]
      (.add column (some fill))
  | add (column : String) :
    Denotes .add [.word .add, .word .column, .quoted column] (.add column none)
  | merge (name : String) :
    Denotes .merge [.word .merge, .word .withWord, .quoted name] (.merge name)

/-! ## The parts of a form -/

theorem wordThen_eq_ok_iff {α : Type} {keyword : Keyword} {value : α} {text : List Char}
    {result : α × List Char} :
    (do word keyword; return value : Reader α) text = .ok result ↔
      word keyword text = .ok ((), result.2) ∧ result.1 = value := by
  rw [bind_eq_ok]
  simp only [pure_eq_ok]
  constructor
  · intro h
    rcases h with ⟨_, rest, hword, rfl⟩
    exact ⟨hword, rfl⟩
  · intro h
    rcases h with ⟨hword, rfl⟩
    exact ⟨(), result.2, hword, rfl⟩

/-- A choice between values that have different words. -/
theorem wordChoice_eq_ok_iff {α : Type} (keyword : α → Keyword) (values : List α)
    (hinj : ∀ a b, keyword a = keyword b → a = b) {text rest : List Char} {value : α} :
    firstOf (values.map fun value => do word (keyword value); return value) text =
        .ok (value, rest) ↔
      value ∈ values ∧ word (keyword value) text = .ok ((), rest) := by
  constructor
  · intro h
    obtain ⟨reader, hmem, hread⟩ := exists_of_firstOf h
    obtain ⟨found, hfound, rfl⟩ := List.mem_map.1 hmem
    obtain ⟨hword, rfl⟩ := wordThen_eq_ok_iff.1 hread
    exact ⟨hfound, hword⟩
  · intro h
    rcases h with ⟨hmem, hword⟩
    refine firstOf_eq_ok (List.mem_map.2 ⟨value, hmem, rfl⟩)
      (wordThen_eq_ok_iff.2 ⟨hword, rfl⟩) ?_
    intro other hother found hread
    obtain ⟨value', -, rfl⟩ := List.mem_map.1 hother
    obtain ⟨hword', hvalue⟩ := wordThen_eq_ok_iff.1 hread
    obtain ⟨hkeyword, hrest⟩ := word_unique hword' hword
    exact Prod.ext (hvalue.trans (hinj _ _ hkeyword)) hrest

theorem direction_eq_ok_iff {text rest : List Char} {side : Direction} :
    direction text = .ok (side, rest) ↔ word side.keyword text = .ok ((), rest) := by
  refine (wordChoice_eq_ok_iff Direction.keyword [.left, .right] ?_).trans (and_iff_right ?_)
  · intro a b
    cases a <;> cases b <;> simp [Direction.keyword]
  · cases side <;> simp

theorem operator_eq_ok_iff {text rest : List Char} {comparison : Operator} :
    operator text = .ok (comparison, rest) ↔
      word comparison.keyword text = .ok ((), rest) := by
  refine (wordChoice_eq_ok_iff Operator.keyword [.equal, .like] ?_).trans (and_iff_right ?_)
  · intro a b
    cases a <;> cases b <;> simp [Operator.keyword]
  · cases comparison <;> simp

/-- Where another word stands, the optional word is passed over. -/
theorem optional_word_of_ne {keyword other : Keyword} {text rest : List Char} {value : Unit}
    (hother : word other text = .ok (value, rest)) (h : keyword ≠ other) :
    optional (word keyword) text = .ok (none, text) := by
  refine optional_eq_none.2 ⟨rfl, ?_⟩
  intro result hword
  have hword : word keyword text = .ok (result.1, result.2) := hword
  exact h (word_unique hword hother).1

theorem readsAll_of_leadingQuoted {text rest : List Char} {values : List String}
    (h : leadingQuoted text = (values, rest)) : ReadsAll (values.map .quoted) text rest := by
  fun_induction leadingQuoted text generalizing values with
  | case1 text value after hread hlt more rest' heq ih =>
    cases h
    exact ⟨after, hread, ih heq⟩
  | case2 text failure hread =>
    cases h
    rfl

theorem leadingQuoted_of_readsAll {text rest : List Char} {values : List String}
    (h : ReadsAll (values.map .quoted) text rest) (hstop : ∀ result, quotedText rest ≠ .ok result) :
    leadingQuoted text = (values, rest) := by
  induction values generalizing text with
  | nil =>
    rw [List.map_nil, readsAll_nil] at h
    subst h
    rw [leadingQuoted]
    split
    · rename_i value after hread
      exact absurd hread (hstop _)
    · rfl
  | cons value values ih =>
    rcases h with ⟨after, hread, h⟩
    have hread : quotedText text = .ok (value, after) := hread
    rw [leadingQuoted]
    split
    · rename_i value' after' hread'
      rw [hread] at hread'
      cases hread'
      rw [ih h]
    · rename_i failure hread'
      rw [hread] at hread'
      cases hread'

theorem quotedTexts_eq_ok_iff {text rest : List Char} {values : List String} :
    quotedTexts text = .ok (values, rest) ↔
      ∃ value more after, values = value :: more ∧ quotedText text = .ok (value, after) ∧
        leadingQuoted after = (more, rest) := by
  rw [quotedTexts, bind_eq_ok]
  constructor
  · intro h
    rcases h with ⟨value, after, hvalue, h⟩
    cases h
    exact ⟨value, _, after, rfl, hvalue, rfl⟩
  · intro h
    rcases h with ⟨value, more, after, rfl, hvalue, hmore⟩
    refine ⟨value, after, hvalue, ?_⟩
    change Except.ok (value :: (leadingQuoted after).1, (leadingQuoted after).2) = _
    rw [hmore]

/-! ## What a form reads -/

/-- The readers of one lexeme, with the lexeme that each of their values comes from. -/
inductive ReadsOne : {α : Type} → Reader α → (α → Lexeme) → Prop where
  | word (keyword : Keyword) : ReadsOne (word keyword) fun _ => .word keyword
  | quoted : ReadsOne quotedText .quoted
  | braced : ReadsOne braceText .braced
  | direction : ReadsOne direction fun side => .word side.keyword
  | operator : ReadsOne operator fun comparison => .word comparison.keyword

theorem ReadsOne.reads {α : Type} {reader : Reader α} {lexeme : α → Lexeme}
    (h : ReadsOne reader lexeme) {text rest : List Char} {value : α}
    (hread : reader text = .ok (value, rest)) : (lexeme value).Reads text rest := by
  cases h with
  | word | quoted | braced => exact hread
  | direction => exact direction_eq_ok_iff.1 hread
  | operator => exact operator_eq_ok_iff.1 hread

/-- Behind the given lexemes the reader takes the parts of the form that are left, and at its end
stands the action of a row of the table. -/
inductive Chain (form : Form) : List Lexeme → Reader Action → Prop where
  | finish {done : List Lexeme} {action : Action} :
    Denotes form done action → Chain form done (pure action)
  | after {α : Type} {done : List Lexeme} {reader : Reader α} {lexeme : α → Lexeme}
    {next : α → Reader Action} :
    ReadsOne reader lexeme → (∀ value, Chain form (done ++ [lexeme value]) (next value)) →
      Chain form done (reader >>= next)
  /-- A word that may be left out. -/
  | afterOptional {done : List Lexeme} {keyword : Keyword} {next : Option Unit → Reader Action} :
    Chain form done (next none) → Chain form (done ++ [.word keyword]) (next (some ())) →
      Chain form done (optional (word keyword) >>= next)
  | afterQuotedTexts {done : List Lexeme} {next : List String → Reader Action} :
    (∀ value values,
      Chain form (done ++ .quoted value :: values.map .quoted) (next (value :: values))) →
      Chain form done (quotedTexts >>= next)

theorem Chain.afterWord {form : Form} {done : List Lexeme} {keyword : Keyword}
    {next : Unit → Reader Action} (h : Chain form (done ++ [.word keyword]) (next ())) :
    Chain form done (word keyword >>= next) :=
  .after (.word keyword) fun _ => h

theorem Chain.afterQuoted {form : Form} {done : List Lexeme} {next : String → Reader Action}
    (h : ∀ value, Chain form (done ++ [.quoted value]) (next value)) :
    Chain form done (quotedText >>= next) :=
  .after .quoted h

/-- Every form is a chain of readers. -/
theorem Form.chain (form : Form) : Chain form [] form.read := by
  cases form with
  | loadFile =>
    refine .afterWord (.afterWord (.afterQuoted fun path => ?_))
    exact .finish (.loadFile path)
  | loadQueryFile =>
    refine .afterWord (.afterWord (.afterQuoted fun path => .afterWord ?_))
    exact .afterQuoted fun connection => .finish (.loadQueryFile path connection)
  | loadQueryText =>
    refine .afterWord (.afterWord (.after .braced fun query => .afterWord ?_))
    exact .afterQuoted fun connection => .finish (.loadQueryText query connection)
  | remove =>
    refine .afterWord (.afterWord (.afterQuoted fun column => ?_))
    exact .finish (.remove column)
  | rename =>
    refine .afterWord (.afterWord (.afterQuoted fun column => .afterWord ?_))
    exact .afterQuoted fun name => .finish (.rename column name)
  | move =>
    refine .afterWord (.afterWord (.afterQuoted fun column => .afterWord ?_))
    exact .after .direction fun side => .finish (.move column side)
  | filter =>
    refine .afterWord (.afterWord (.afterWord (.afterQuoted fun column => .afterWord ?_)))
    refine .afterOptional ?_ ?_
    · refine .after .operator fun comparison => .afterQuotedTexts fun value values => ?_
      exact .finish (.filter column false comparison value values)
    · refine .after .operator fun comparison => .afterQuotedTexts fun value values => ?_
      exact .finish (.filter column true comparison value values)
  | filterDistinct =>
    exact .afterWord (.afterOptional (.afterWord (.finish .distinct))
      (.afterWord (.finish .distinctOn)))
  | scope => exact .afterWord (.afterQuoted fun name => .finish (.scope name))
  | crossOnKey =>
    refine .afterWord (.afterQuoted fun first => .afterWord (.afterQuoted fun second => ?_))
    exact .afterWord (.afterQuoted fun key => .finish (.crossOnKey first second key))
  | cross =>
    refine .afterWord (.afterQuoted fun first => .afterWord (.afterQuoted fun second => ?_))
    exact .finish (.cross first second)
  | save => exact .afterWord (.afterWord (.afterQuoted fun path => .finish (.save path)))
  | copy =>
    refine .afterWord (.afterQuoted fun source => .afterWord (.afterQuoted fun target => ?_))
    exact .finish (.copy source target)
  | addFilled =>
    refine .afterWord (.afterWord (.afterQuoted fun column => .afterWord ?_))
    exact .afterQuoted fun fill => .finish (.addFilled column fill)
  | add => exact .afterWord (.afterWord (.afterQuoted fun column => .finish (.add column)))
  | merge => exact .afterWord (.afterWord (.afterQuoted fun name => .finish (.merge name)))

/-- The lexemes behind which a chain starts and those that it reads are a row of the table. -/
theorem Chain.exists_denotes {form : Form} {done : List Lexeme} {reader : Reader Action}
    (h : Chain form done reader) {start text rest : List Char} {action : Action}
    (hdone : ReadsAll done start text) (hread : reader text = .ok (action, rest)) :
    ∃ lexemes, Denotes form lexemes action ∧ ReadsAll lexemes start rest := by
  induction h generalizing text with
  | @finish done action hdenotes =>
    cases pure_eq_ok.1 hread
    exact ⟨done, hdenotes, hdone⟩
  | after hreader _ ih =>
    obtain ⟨value, middle, hvalue, hnext⟩ := bind_eq_ok.1 hread
    exact ih value (readsAll_concat hdone (hreader.reads hvalue)) hnext
  | afterOptional _ _ ihnone ihsome =>
    obtain ⟨found, middle, hfound, hnext⟩ := bind_eq_ok.1 hread
    cases found with
    | none =>
      obtain ⟨rfl, -⟩ := optional_eq_none.1 hfound
      exact ihnone hdone hnext
    | some found =>
      exact ihsome (readsAll_concat hdone (optional_eq_some.1 hfound)) hnext
  | afterQuotedTexts _ ih =>
    obtain ⟨values, middle, hvalues, hnext⟩ := bind_eq_ok.1 hread
    obtain ⟨value, more, after, rfl, hvalue, hmore⟩ := quotedTexts_eq_ok_iff.1 hvalues
    refine ih value more (readsAll_append.2 ⟨text, hdone, after, hvalue, ?_⟩) hnext
    exact readsAll_of_leadingQuoted hmore

/-- What a form reads is a row of the table. -/
theorem Form.exists_denotes {form : Form} {text rest : List Char} {action : Action}
    (h : form.read text = .ok (action, rest)) :
    ∃ lexemes, Denotes form lexemes action ∧ ReadsAll lexemes text rest :=
  form.chain.exists_denotes rfl h

/-! ## Which rows are read -/

/-- In front of the end of a statement the reader reads the lexemes and gives the action. -/
def ReadsRow (reader : Reader Action) (lexemes : List Lexeme) (action : Action) : Prop :=
  ∀ text middle rest, ReadsAll lexemes text middle → endOfStatement middle = .ok ((), rest) →
    reader text = .ok (action, middle)

section ReadsRow

variable {α : Type} {lexemes : List Lexeme} {action : Action}

theorem readsRow_pure : ReadsRow (pure action) [] action := by
  intro text middle rest hlexemes _
  obtain rfl := readsAll_nil.1 hlexemes
  rfl

/-- A lexeme that the reader reads as the value, in front of what the value leads to. -/
theorem ReadsRow.after {reader : Reader α} {next : α → Reader Action} {lexeme : Lexeme} {value : α}
    (hreader : ∀ {text rest}, lexeme.Reads text rest → reader text = .ok (value, rest))
    (h : ReadsRow (next value) lexemes action) :
    ReadsRow (reader >>= next) (lexeme :: lexemes) action := by
  intro text middle rest hlexemes hend
  obtain ⟨behind, hlexeme, hlexemes⟩ := readsAll_cons.1 hlexemes
  exact bind_eq_ok.2 ⟨value, behind, hreader hlexeme, h behind middle rest hlexemes hend⟩

theorem ReadsRow.afterWord {keyword : Keyword} {next : Unit → Reader Action}
    (h : ReadsRow (next ()) lexemes action) :
    ReadsRow (word keyword >>= next) (.word keyword :: lexemes) action :=
  .after (fun hword => hword) h

theorem ReadsRow.afterQuoted {next : String → Reader Action} {value : String}
    (h : ReadsRow (next value) lexemes action) :
    ReadsRow (quotedText >>= next) (.quoted value :: lexemes) action :=
  .after (fun hquoted => hquoted) h

/-- An optional word that is left out: another word stands in its place. -/
theorem ReadsRow.afterNone {keyword other : Keyword} {next : Option Unit → Reader Action}
    (hne : keyword ≠ other) (h : ReadsRow (next none) (.word other :: lexemes) action) :
    ReadsRow (optional (word keyword) >>= next) (.word other :: lexemes) action := by
  intro text middle rest hlexemes hend
  obtain ⟨behind, hother, -⟩ := readsAll_cons.1 hlexemes
  refine bind_eq_ok.2 ⟨none, text, optional_word_of_ne hother hne, ?_⟩
  exact h text middle rest hlexemes hend

theorem quotedText_ne_ok_of_end {text rest : List Char} {value : Unit}
    (hend : endOfStatement text = .ok (value, rest)) (result : String × List Char) :
    quotedText text ≠ .ok result := by
  intro hread
  have hread : (Lexeme.quoted result.1).Reads text result.2 := hread
  cases hread.eq_caseWord hend

/-- Quoted texts up to the end of the statement: none of them is left. -/
theorem readsRow_quotedTexts {next : List String → Reader Action} {value : String}
    {values : List String} (h : ReadsRow (next (value :: values)) [] action) :
    ReadsRow (quotedTexts >>= next) ((value :: values).map .quoted) action := by
  intro text middle rest hlexemes hend
  obtain ⟨behind, hvalue, hvalues⟩ := readsAll_cons.1 hlexemes
  have hmore := leadingQuoted_of_readsAll hvalues (quotedText_ne_ok_of_end hend)
  refine bind_eq_ok.2 ⟨value :: values, middle, ?_, h middle middle rest rfl hend⟩
  exact quotedTexts_eq_ok_iff.2 ⟨value, values, behind, rfl, hvalue, hmore⟩

end ReadsRow

/-- Every row of the table is read by its form. -/
theorem Form.readsRow_of_denotes {form : Form} {lexemes : List Lexeme} {action : Action}
    (h : Denotes form lexemes action) : ReadsRow form.read lexemes action := by
  cases h with
  | loadFile => exact .afterWord (.afterWord (.afterQuoted readsRow_pure))
  | loadQueryFile =>
    exact .afterWord (.afterWord (.afterQuoted (.afterWord (.afterQuoted readsRow_pure))))
  | loadQueryText =>
    refine .afterWord (.afterWord (.after (fun hbraced => hbraced) ?_))
    exact .afterWord (.afterQuoted readsRow_pure)
  | remove => exact .afterWord (.afterWord (.afterQuoted readsRow_pure))
  | rename =>
    exact .afterWord (.afterWord (.afterQuoted (.afterWord (.afterQuoted readsRow_pure))))
  | move =>
    refine .afterWord (.afterWord (.afterQuoted (.afterWord ?_)))
    exact .after direction_eq_ok_iff.2 readsRow_pure
  | filter column negate comparison value values =>
    refine .afterWord (.afterWord (.afterWord (.afterQuoted (.afterWord ?_))))
    cases negate with
    | true =>
      refine .after optional_eq_some.2 (.after operator_eq_ok_iff.2 ?_)
      exact readsRow_quotedTexts readsRow_pure
    | false =>
      refine .afterNone comparison.keyword_ne_notWord.symm (.after operator_eq_ok_iff.2 ?_)
      exact readsRow_quotedTexts readsRow_pure
  | distinctOn => exact .afterWord (.after optional_eq_some.2 (.afterWord readsRow_pure))
  | distinct => exact .afterWord (.afterNone (by decide) (.afterWord readsRow_pure))
  | scope => exact .afterWord (.afterQuoted readsRow_pure)
  | crossOnKey =>
    refine .afterWord (.afterQuoted (.afterWord (.afterQuoted ?_)))
    exact .afterWord (.afterQuoted readsRow_pure)
  | cross => exact .afterWord (.afterQuoted (.afterWord (.afterQuoted readsRow_pure)))
  | save => exact .afterWord (.afterWord (.afterQuoted readsRow_pure))
  | copy => exact .afterWord (.afterQuoted (.afterWord (.afterQuoted readsRow_pure)))
  | addFilled =>
    exact .afterWord (.afterWord (.afterQuoted (.afterWord (.afterQuoted readsRow_pure))))
  | add => exact .afterWord (.afterWord (.afterQuoted readsRow_pure))
  | merge => exact .afterWord (.afterWord (.afterQuoted readsRow_pure))

theorem Form.ended_eq_ok_iff {form : Form} {text rest : List Char} {action : Action} :
    form.ended text = .ok (action, rest) ↔
      ∃ lexemes middle, Denotes form lexemes action ∧ ReadsAll lexemes text middle ∧
        endOfStatement middle = .ok ((), rest) := by
  simp only [ended, bind_eq_ok, pure_eq_ok]
  constructor
  · intro h
    rcases h with ⟨found, middle, hread, _, after, hend, h⟩
    cases h
    obtain ⟨lexemes, hdenotes, hreads⟩ := exists_denotes hread
    exact ⟨lexemes, middle, hdenotes, hreads, hend⟩
  · intro h
    rcases h with ⟨lexemes, middle, hdenotes, hreads, hend⟩
    have hread := readsRow_of_denotes hdenotes text middle rest hreads hend
    exact ⟨action, middle, hread, (), rest, hend, rfl⟩

/-! ## All forms -/

/-- The form that a sequence of lexemes can have. -/
def formOf : List Lexeme → Option Form
  | .word .load :: .word .file :: _ => some .loadFile
  | .word .load :: .word .query :: .quoted _ :: _ => some .loadQueryFile
  | .word .load :: .word .query :: _ => some .loadQueryText
  | .word .remove :: _ => some .remove
  | .word .rename :: _ => some .rename
  | .word .move :: _ => some .move
  | .word .filter :: .word .onWord :: .word .column :: _ => some .filter
  | .word .filter :: _ => some .filterDistinct
  | .word .scope :: _ => some .scope
  | [.word .cross, .quoted _, .word .withWord, .quoted _] => some .cross
  | .word .cross :: _ => some .crossOnKey
  | .word .save :: _ => some .save
  | .word .copy :: _ => some .copy
  | [.word .add, .word .column, .quoted _] => some .add
  | .word .add :: _ => some .addFilled
  | .word .merge :: _ => some .merge
  | _ => none

theorem formOf_of_denotes {form : Form} {lexemes : List Lexeme} {action : Action}
    (h : Denotes form lexemes action) : formOf lexemes = some form := by
  cases h <;> rfl

/-- The word that starts a statement does not stand inside one. -/
theorem caseWord_not_mem_of_denotes {form : Form} {lexemes : List Lexeme} {action : Action}
    (h : Denotes form lexemes action) : .word .caseWord ∉ lexemes := by
  cases h
  case filter column negate comparison value values =>
    cases negate <;> cases comparison <;> simp [negation, Operator.keyword]
  case move column side => cases side <;> simp [Direction.keyword]
  all_goals simp

/-- No text fits two forms up to the end of its statement. -/
theorem Form.ended_unique {first second : Form} {text : List Char} {found found'}
    (hfirst : first.ended text = .ok found) (hsecond : second.ended text = .ok found') :
    first = second ∧ found = found' := by
  have hfirst : first.ended text = .ok (found.1, found.2) := hfirst
  have hsecond' : second.ended text = .ok (found'.1, found'.2) := hsecond
  obtain ⟨lexemes, middle, hdenotes, hreads, hend⟩ := ended_eq_ok_iff.1 hfirst
  obtain ⟨lexemes', middle', hdenotes', hreads', hend'⟩ := ended_eq_ok_iff.1 hsecond'
  obtain ⟨rfl, -⟩ := readsAll_unique hreads hreads' hend hend'
    (caseWord_not_mem_of_denotes hdenotes) (caseWord_not_mem_of_denotes hdenotes')
  have hform := (formOf_of_denotes hdenotes).symm.trans (formOf_of_denotes hdenotes')
  cases hform
  exact ⟨rfl, Except.ok.inj (hfirst.symm.trans hsecond)⟩

theorem Form.mem_all (form : Form) : form ∈ all := by
  cases form <;> decide

/-- A statement is the word `case`, a row of the table and the end of a statement. -/
theorem statement_eq_ok_iff {text rest : List Char} {action : Action} :
    statement text = .ok (action, rest) ↔
      ∃ start form lexemes middle, word .caseWord text = .ok ((), start) ∧
        Denotes form lexemes action ∧ ReadsAll lexemes start middle ∧
        endOfStatement middle = .ok ((), rest) := by
  rw [statement, bind_eq_ok]
  constructor
  · intro h
    rcases h with ⟨_, start, hcase, h⟩
    obtain ⟨reader, hmem, hread⟩ := exists_of_firstOf h
    obtain ⟨form, -, rfl⟩ := List.mem_map.1 hmem
    obtain ⟨lexemes, middle, hdenotes, hreads, hend⟩ := Form.ended_eq_ok_iff.1 hread
    exact ⟨start, form, lexemes, middle, hcase, hdenotes, hreads, hend⟩
  · intro h
    rcases h with ⟨start, form, lexemes, middle, hcase, hdenotes, hreads, hend⟩
    have hended := Form.ended_eq_ok_iff.2 ⟨lexemes, middle, hdenotes, hreads, hend⟩
    refine ⟨(), start, hcase, firstOf_eq_ok (List.mem_map.2 ⟨form, form.mem_all, rfl⟩) hended ?_⟩
    intro reader hmem found hfound
    obtain ⟨other, -, rfl⟩ := List.mem_map.1 hmem
    exact (Form.ended_unique hfound hended).2

/-! ## Scripts -/

theorem skipSeparators_eq (text : List Char) :
    skipSeparators text =
      match skipTrivia text with
      | [] => []
      | c :: rest => if c == ';' then skipSeparators rest else c :: rest := by
  rw [skipSeparators]
  split
  · rename_i h
    rw [h]
  · rename_i c rest h
    simp only [h]

theorem statements_eq_ok_iff {text : List Char} {program : Program} :
    statements text = .ok program ↔
      (skipSeparators text = [] ∧ program = []) ∨
      ∃ action rest actions, statement (skipSeparators text) = .ok (action, rest) ∧
        statements rest = .ok actions ∧ program = action :: actions := by
  rw [statements]
  split
  · rename_i hempty
    rw [List.isEmpty_iff] at hempty
    simp only [Except.ok.injEq, hempty, true_and, eq_comm (a := program)]
    refine ⟨.inl, ?_⟩
    rintro (h | ⟨action, rest, actions, hstatement, -⟩)
    · exact h
    · exact absurd (shrinks_statement _ _ _ hstatement) (Nat.not_lt_zero _)
  · rename_i hempty
    rw [List.isEmpty_iff] at hempty
    split
    · rename_i failure hstatement
      simp [hempty, hstatement]
    · rename_i action rest hstatement
      dsimp only
      cases hactions : statements rest with
      | error failure => simp [hempty, hstatement, hactions]
      | ok actions => simp [hempty, hstatement, hactions, eq_comm]

end Syntax

open Syntax

theorem Action.parse_eq_ok_iff {source : String} {action : Action} :
    Action.parse source = .ok action ↔
      ∃ rest, statement source.toList = .ok (action, rest) ∧ skipTrivia rest = [] := by
  unfold Action.parse
  split
  · rename_i failure h
    simp [h]
  · rename_i found rest h
    split
    · rename_i hrest
      simp [h, hrest]
    · rename_i hrest
      simp only [h, reduceCtorEq, Except.ok.injEq, Prod.mk.injEq, false_iff]
      intro h
      rcases h with ⟨_, ⟨-, rfl⟩, hnil⟩
      exact hrest hnil

theorem Program.parse_eq_ok_iff {source : String} {program : Program} :
    Program.parse source = .ok program ↔ statements source.toList = .ok program := by
  unfold Program.parse
  split
  · rename_i found h
    simp [h]
  · rename_i index failure h
    simp [h]

end CaseScript
