import CaseScript.Proofs.Syntax.Grammar

/-!
# Actions that read back

An action is written as a statement and a statement is read as an action.  This file says which
actions read back as they were.

There are four groups.

* `Action.Renderable`: no text of the action holds both quotes, a filter has a value, and an inline
  query is trimmed and balanced.
* What is read is renderable: `Lexeme.Reads.legible` for a lexeme and `renderable_of_statement` for
  a statement.
* What is written reads back: `Lexeme.reads_written` for a lexeme and `statement_render` for a
  statement.
* Programs.  `statements_render` and `renderable_of_statements` carry both to scripts, and
  `parse_render_iff_renderable` is the result.
-/

namespace CaseScript

open CaseScript.Text CaseScript.Syntax Reader

/-! ## Renderable actions -/

/-- The text does not hold both quotes. -/
def Quotable (text : String) : Prop := ¬ ('\'' ∈ text.toList ∧ '"' ∈ text.toList)

/-- The texts of an action that are written between quotes: all but an inline query. -/
def Action.literals : Action → List String
  | load (.file path) => [path]
  | load (.queryFile path connection) => [path, connection]
  | load (.queryText _ connection) => [connection]
  | remove column => [column]
  | rename column name => [column, name]
  | move column _ => [column]
  | filter column _ values _ => column :: values
  | distinct => []
  | scope name => [name]
  | cross first second key => first :: second :: key.toList
  | save path => [path]
  | copy source target => [source, target]
  | add column fill => column :: fill.toList
  | merge name => [name]

/-- The written form of the action is a statement for it. -/
structure Action.Renderable (action : Action) : Prop where
  literals : ∀ text ∈ action.literals, Quotable text
  values : ∀ column operator values negate,
    action = .filter column operator values negate → values ≠ []
  query : ∀ text connection, action = .load (.queryText text connection) →
    trim text.toList = text.toList ∧ Balanced text.toList

namespace Syntax

/-- The written form of the lexeme reads back. -/
def Lexeme.Legible : Lexeme → Prop
  | word _ => True
  | quoted text => Quotable text
  | braced text => trim text.toList = text.toList ∧ Balanced text.toList

/-! ## What is read is renderable -/

theorem quotable_of_not_mem {quote : Char} {text : String} (hquote : isQuote quote = true)
    (h : quote ∉ text.toList) : Quotable text := by
  intro h
  rcases h with ⟨hsingle, hdouble⟩
  simp only [isQuote, Bool.or_eq_true, beq_iff_eq] at hquote
  rcases hquote with rfl | rfl
  · exact h hsingle
  · exact h hdouble

theorem Lexeme.Reads.legible {lexeme : Lexeme} {text rest : List Char}
    (h : lexeme.Reads text rest) : lexeme.Legible := by
  cases lexeme with
  | word keyword => trivial
  | quoted value =>
    obtain ⟨quote, hquote, hmem, -⟩ := quotedText_eq_ok_iff.1 h
    exact quotable_of_not_mem hquote hmem
  | braced value =>
    obtain ⟨inside, -, hbalanced, rfl⟩ := braceText_eq_ok_iff.1 h
    rw [Legible, String.toList_ofList]
    exact ⟨trim_idem inside, hbalanced.trim⟩

theorem legible_of_readsAll {lexemes : List Lexeme} {text rest : List Char}
    (h : ReadsAll lexemes text rest) : ∀ lexeme ∈ lexemes, lexeme.Legible := by
  induction lexemes generalizing text with
  | nil => simp
  | cons first lexemes ih =>
    rcases h with ⟨middle, hread, h⟩
    intro lexeme hmem
    rcases List.mem_cons.1 hmem with rfl | hmem
    · exact hread.legible
    · exact ih h lexeme hmem

/-- The texts of an action are those of its lexemes. -/
theorem renderable_of_denotes {form : Form} {lexemes : List Lexeme} {action : Action}
    (h : Denotes form lexemes action) (hlegible : ∀ lexeme ∈ lexemes, lexeme.Legible) :
    action.Renderable := by
  have hquoted : ∀ text, .quoted text ∈ lexemes → Quotable text := fun text hmem =>
    hlegible (.quoted text) hmem
  cases h
  case loadQueryText text connection =>
    refine ⟨?_, by simp, ?_⟩
    · intro literal hmem
      exact hquoted literal (by simpa [Action.literals] using hmem)
    · rintro _ _ ⟨⟩
      exact hlegible (.braced text) (by simp)
  case filter column negate comparison value values =>
    refine ⟨?_, ?_, by simp⟩
    · intro literal hmem
      refine hquoted literal ?_
      simp only [Action.literals, List.mem_cons] at hmem
      rcases hmem with rfl | rfl | hmem <;> simp [*]
    · rintro _ _ _ _ ⟨⟩
      simp
  case distinctOn => exact ⟨by simp [Action.literals], by simp, by simp⟩
  case distinct => exact ⟨by simp [Action.literals], by simp, by simp⟩
  all_goals
    refine ⟨?_, by simp, by simp⟩
    intro literal hmem
    exact hquoted literal (by simpa [Action.literals] using hmem)

theorem renderable_of_statement {text rest : List Char} {action : Action}
    (h : statement text = .ok (action, rest)) : action.Renderable := by
  obtain ⟨start, form, lexemes, middle, -, hdenotes, hreads, -⟩ := statement_eq_ok_iff.1 h
  exact renderable_of_denotes hdenotes (legible_of_readsAll hreads)

/-! ## What is written reads back -/

/-- A lexeme as it is written in a statement. -/
def Lexeme.written : Lexeme → List Char
  | word keyword => keyword.word.toList
  | quoted text => (CaseScript.quoted text).toList
  | braced text => '{' :: ' ' :: (text.toList ++ [' ', '}'])

/-- Lexemes with a space in front of each. -/
def writtenAll (lexemes : List Lexeme) : List Char :=
  lexemes.flatMap fun lexeme => ' ' :: lexeme.written

@[simp] theorem writtenAll_nil : writtenAll [] = [] := rfl

@[simp] theorem writtenAll_cons (lexeme : Lexeme) (lexemes : List Lexeme) :
    writtenAll (lexeme :: lexemes) = ' ' :: (lexeme.written ++ writtenAll lexemes) := rfl

@[simp] theorem Lexeme.written_quoted (text : String) :
    (quoted text).written = (CaseScript.quoted text).toList := rfl

theorem skipTrivia_space (text : List Char) : skipTrivia (' ' :: text) = skipTrivia text := rfl

theorem skipTrivia_cons {c : Char} {text : List Char} (hblank : isBlank c = false) (hc : c ≠ '/') :
    skipTrivia (c :: text) = c :: text :=
  skipTrivia_of_startsToken (startsToken_cons hblank hc text)

/-- A word is written in small letters, so it is read as it stands. -/
theorem word_written (keyword : Keyword) {rest : List Char} (hend : endsWord rest = true) :
    word keyword (keyword.word.toList ++ rest) = .ok ((), rest) := by
  have hsmall : keyword.word.toList.map Char.toLower = keyword.word.toList := by
    cases keyword <;> decide
  have hskip : skipTrivia (keyword.word.toList ++ rest) = keyword.word.toList ++ rest := by
    have hlower := keyword.isLower_of_mem_word
    cases hword : keyword.word.toList with
    | nil =>
      have := keyword.length_word_pos
      rw [hword] at this
      cases this
    | cons c letters =>
      have halpha : c.isAlpha = true := Bool.or_eq_true_iff.2 (.inr (hlower c (by simp [hword])))
      obtain ⟨hblank, hc⟩ := isBlank_of_isAlpha halpha
      exact skipTrivia_cons hblank hc
  rw [word_eq_ok_iff, hskip]
  exact ⟨stripWord_eq_some_iff.2 ⟨_, rfl, hsmall⟩, hend⟩

/-- A text is written between quotes that it does not hold. -/
theorem exists_quoted {text : String} (h : Quotable text) :
    ∃ quote, isQuote quote = true ∧ quote ∉ text.toList ∧
      (CaseScript.quoted text).toList = quote :: (text.toList ++ [quote]) := by
  unfold CaseScript.quoted
  split
  · rename_i hsingle
    refine ⟨'"', rfl, fun hdouble => h ⟨?_, hdouble⟩, by simp⟩
    simpa using hsingle
  · rename_i hsingle
    exact ⟨'\'', rfl, by simpa using hsingle, by simp⟩

theorem skipTrivia_quote {quote : Char} (h : isQuote quote = true) (text : List Char) :
    skipTrivia (quote :: text) = quote :: text :=
  skipTrivia_of_startsToken ((Lexeme.quoted "").startsToken h text)

/-- Blanks around a text are no braces. -/
theorem Balanced.padded {text : List Char} (h : Balanced text) :
    Balanced (' ' :: (text ++ [' '])) := by
  constructor
  · simpa [List.count_append, List.count_cons] using h.total
  · intro front hfront
    rcases List.prefix_cons_iff.1 hfront with rfl | ⟨inner, rfl, hinner⟩
    · simp
    · rcases List.prefix_concat_iff.1 hinner with rfl | hinner
      · simpa [List.count_append, List.count_cons] using Nat.le_of_eq h.total.symm
      · simpa [List.count_cons] using h.ofPrefix inner hinner

/-- A lexeme that is written after a space is read. -/
theorem Lexeme.reads_written {lexeme : Lexeme} {rest : List Char} (h : lexeme.Legible)
    (hend : endsWord rest = true) : lexeme.Reads (' ' :: (lexeme.written ++ rest)) rest := by
  cases lexeme with
  | word keyword =>
    have hword := word_written keyword hend
    rw [word_eq_ok_iff, ← skipTrivia_space] at hword
    exact word_eq_ok_iff.2 hword
  | quoted text =>
    obtain ⟨quote, hquote, hmem, htext⟩ := exists_quoted h
    refine quotedText_eq_ok_iff.2 ⟨quote, hquote, hmem, ?_⟩
    rw [skipTrivia_space, written, htext, List.cons_append, List.append_assoc,
      skipTrivia_quote hquote]
    rfl
  | braced text =>
    rcases h with ⟨htrim, hbalanced⟩
    refine braceText_eq_ok_iff.2 ⟨' ' :: (text.toList ++ [' ']), ?_, hbalanced.padded, ?_⟩
    · rw [skipTrivia_space, written, List.cons_append,
        skipTrivia_cons (by decide) (by decide)]
      simp
    · rw [trim_cons_of_blank rfl, trim_append_blank rfl, htrim, String.ofList_toList]

theorem readsAll_written {lexemes : List Lexeme} {rest : List Char}
    (h : ∀ lexeme ∈ lexemes, lexeme.Legible) (hend : endsWord rest = true) :
    ReadsAll lexemes (writtenAll lexemes ++ rest) rest := by
  induction lexemes with
  | nil => rfl
  | cons lexeme lexemes ih =>
    refine ⟨writtenAll lexemes ++ rest, ?_, ih fun other hmem => h other (by simp [hmem])⟩
    -- what follows a lexeme is a space or the rest, and neither goes on with a word
    have hnext : endsWord (writtenAll lexemes ++ rest) = true := by
      cases lexemes with
      | nil => exact hend
      | cons => rfl
    simpa [writtenAll] using Lexeme.reads_written (h lexeme (by simp)) hnext

/-! ## Statements -/

theorem toList_join_quoted (values : List String) :
    (String.join (values.map fun value => " " ++ CaseScript.quoted value)).toList =
      writtenAll (values.map .quoted) := by
  induction values with
  | nil => rfl
  | cons value values ih =>
    rw [List.map_cons, String.join_cons, String.toList_append, ih]
    simp

/-- The lexemes of a renderable action are legible. -/
theorem legible_of_denotes {form : Form} {lexemes : List Lexeme} {action : Action}
    (h : Denotes form lexemes action) (hrender : action.Renderable) :
    ∀ lexeme ∈ lexemes, lexeme.Legible := by
  have hliteral : ∀ text ∈ action.literals, Lexeme.Legible (.quoted text) := hrender.literals
  cases h
  case loadQueryText text connection =>
    have hquery := hrender.query text connection rfl
    simpa [Action.literals, Lexeme.Legible, hquery] using hliteral
  case filter column negate comparison value values =>
    cases negate <;> simpa [negation, Action.literals, Lexeme.Legible] using hliteral
  case distinctOn => simp [Lexeme.Legible]
  case distinct => simp [Lexeme.Legible]
  all_goals simpa [Action.literals, Lexeme.Legible] using hliteral

/-- A renderable action is written as a row of the table. -/
theorem exists_written {action : Action} (h : action.Renderable) :
    ∃ form lexemes, Denotes form lexemes action ∧
      action.render.toList = Keyword.caseWord.word.toList ++ writtenAll lexemes := by
  unfold Action.render
  cases action with
  | load source =>
    cases source with
    | file path =>
      refine ⟨_, _, .loadFile path, ?_⟩
      simp [Source.render, Lexeme.written, Keyword.word]
    | queryFile path connection =>
      refine ⟨_, _, .loadQueryFile path connection, ?_⟩
      simp [Source.render, Lexeme.written, Keyword.word]
    | queryText text connection =>
      refine ⟨_, _, .loadQueryText text connection, ?_⟩
      simp [Source.render, Lexeme.written, Keyword.word]
  | remove column =>
    refine ⟨_, _, .remove column, ?_⟩
    simp [Lexeme.written, Keyword.word]
  | rename column name =>
    refine ⟨_, _, .rename column name, ?_⟩
    simp [Lexeme.written, Keyword.word]
  | move column side =>
    refine ⟨_, _, .move column side, ?_⟩
    cases side <;> simp [Lexeme.written, Keyword.word, Direction.keyword, Direction.render]
  | filter column comparison values negate =>
    cases values with
    | nil => exact absurd rfl (h.values column comparison [] negate rfl)
    | cons value values =>
      refine ⟨_, _, .filter column negate comparison value values, ?_⟩
      rw [String.toList_append, toList_join_quoted]
      cases negate <;> cases comparison <;>
        simp [Lexeme.written, Keyword.word, negation, Operator.keyword, Operator.render]
  | distinct =>
    refine ⟨_, _, .distinctOn, ?_⟩
    simp [Lexeme.written, Keyword.word]
  | scope name =>
    refine ⟨_, _, .scope name, ?_⟩
    simp [Lexeme.written, Keyword.word]
  | cross first second key =>
    cases key with
    | none =>
      refine ⟨_, _, .cross first second, ?_⟩
      simp [Lexeme.written, Keyword.word]
    | some key =>
      refine ⟨_, _, .crossOnKey first second key, ?_⟩
      simp [Lexeme.written, Keyword.word]
  | save path =>
    refine ⟨_, _, .save path, ?_⟩
    simp [Lexeme.written, Keyword.word]
  | copy source target =>
    refine ⟨_, _, .copy source target, ?_⟩
    simp [Lexeme.written, Keyword.word]
  | add column fill =>
    cases fill with
    | none =>
      refine ⟨_, _, .add column, ?_⟩
      simp [Lexeme.written, Keyword.word]
    | some fill =>
      refine ⟨_, _, .addFilled column fill, ?_⟩
      simp [Lexeme.written, Keyword.word]
  | merge name =>
    refine ⟨_, _, .merge name, ?_⟩
    simp [Lexeme.written, Keyword.word]

/-- A written action is read where the end of a statement follows it. -/
theorem statement_render {action : Action} {rest after : List Char} (h : action.Renderable)
    (hend : endsWord rest = true) (hstop : endOfStatement rest = .ok ((), after)) :
    statement (action.render.toList ++ rest) = .ok (action, after) := by
  obtain ⟨form, lexemes, hdenotes, htext⟩ := exists_written h
  have hread := readsAll_written (legible_of_denotes hdenotes h) hend
  -- every statement has lexemes, so a space follows its first word
  have hspace : endsWord (writtenAll lexemes ++ rest) = true := by
    cases lexemes with
    | nil => exact hend
    | cons => rfl
  rw [htext, List.append_assoc]
  exact statement_eq_ok_iff.2 ⟨_, form, lexemes, rest, word_written .caseWord hspace, hdenotes,
    hread, hstop⟩

/-! ## Scripts -/

theorem skipSeparators_newline (text : List Char) :
    skipSeparators ('\n' :: text) = skipSeparators text := by
  rw [skipSeparators_eq, skipSeparators_eq text]
  rfl

/-- A written action starts with no trivia and no semicolon. -/
theorem skipSeparators_render {action : Action} (h : action.Renderable) (rest : List Char) :
    skipSeparators (action.render.toList ++ rest) = action.render.toList ++ rest := by
  obtain ⟨form, lexemes, -, htext⟩ := exists_written h
  rw [htext, skipSeparators_eq]
  rfl

theorem statements_render {program : Program} (h : ∀ action ∈ program, action.Renderable) :
    statements program.render.toList = .ok program := by
  induction program with
  | nil => exact statements_eq_ok_iff.2 (.inl ⟨by rw [skipSeparators_eq]; rfl, rfl⟩)
  | cons action program ih =>
    obtain ⟨haction, hprogram⟩ := List.forall_mem_cons.1 h
    have htext : (Program.render (action :: program)).toList =
        action.render.toList ++ (';' :: '\n' :: (Program.render program).toList) := by
      simp [Program.render]
    have hrest : statements ('\n' :: (Program.render program).toList) = .ok program := by
      have := ih hprogram
      rw [statements_eq_ok_iff] at this ⊢
      rwa [skipSeparators_newline]
    rw [htext]
    refine statements_eq_ok_iff.2 (.inr ⟨action, _, program, ?_, hrest, rfl⟩)
    rw [skipSeparators_render haction]
    exact statement_render haction rfl rfl

theorem renderable_of_statements {text : List Char} {program : Program}
    (h : statements text = .ok program) : ∀ action ∈ program, action.Renderable := by
  induction program generalizing text with
  | nil => simp
  | cons action program ih =>
    rcases statements_eq_ok_iff.1 h with ⟨-, h⟩ | ⟨first, rest, actions, hstatement, hrest, h⟩
    · cases h
    · cases h
      exact List.forall_mem_cons.2 ⟨renderable_of_statement hstatement, ih hrest⟩

end Syntax

open Syntax

theorem Action.renderable_of_parse {source : String} {action : Action}
    (h : Action.parse source = .ok action) : action.Renderable := by
  obtain ⟨rest, hstatement, -⟩ := Action.parse_eq_ok_iff.1 h
  exact renderable_of_statement hstatement

theorem Program.renderable_of_parse {source : String} {program : Program}
    (h : Program.parse source = .ok program) : ∀ action ∈ program, action.Renderable :=
  renderable_of_statements (Program.parse_eq_ok_iff.1 h)

theorem Action.parse_render {action : Action} (h : action.Renderable) :
    Action.parse action.render = .ok action := by
  have hread : statement (action.render.toList ++ []) = .ok (action, []) :=
    statement_render h rfl rfl
  rw [List.append_nil] at hread
  exact Action.parse_eq_ok_iff.2 ⟨[], hread, rfl⟩

theorem Program.parse_render {program : Program} (h : ∀ action ∈ program, action.Renderable) :
    Program.parse program.render = .ok program :=
  Program.parse_eq_ok_iff.2 (statements_render h)

/-- Writing and reading undo each other exactly on renderable actions, and reading gives no
others. -/
theorem parse_render_iff_renderable :
    (∀ action : Action, Action.parse action.render = .ok action ↔ action.Renderable) ∧
    (∀ program : Program, Program.parse program.render = .ok program ↔
      ∀ action ∈ program, action.Renderable) ∧
    (∀ source action, Action.parse source = .ok action → action.Renderable) ∧
    (∀ source program, Program.parse source = .ok program →
      (∀ action ∈ program, action.Renderable) ∧ Program.parse program.render = .ok program) := by
  refine ⟨fun action => ⟨?_, Action.parse_render⟩,
    fun program => ⟨?_, Program.parse_render⟩, ?_, ?_⟩
  · exact Action.renderable_of_parse
  · exact Program.renderable_of_parse
  · intro source action h
    exact Action.renderable_of_parse h
  · intro source program h
    have hrender := Program.renderable_of_parse h
    exact ⟨hrender, Program.parse_render hrender⟩

end CaseScript
