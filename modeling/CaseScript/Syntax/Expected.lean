/-!
# What a script may hold next

The words of the case language, and the tokens that a reader of a script can ask for at a place
where it fails.  `Expected.inLabelOrder` lists all tokens in the order of their labels, which is the
order in which a syntax error names them.
-/

namespace CaseScript

/-- The words of the case language. -/
inductive Keyword where
  | add
  | asWord
  | caseWord
  | column
  | copy
  | cross
  | distinct
  | equal
  | file
  | filter
  | into
  | left
  | like
  | load
  | merge
  | move
  | notWord
  | onWord
  | query
  | remove
  | rename
  | right
  | save
  | scope
  | toWord
  | values
  | withWord
  deriving DecidableEq, Repr

/-- The spelling of a word in small letters. -/
def Keyword.word : Keyword → String
  | add => "add"
  | asWord => "as"
  | caseWord => "case"
  | column => "column"
  | copy => "copy"
  | cross => "cross"
  | distinct => "distinct"
  | equal => "equal"
  | file => "file"
  | filter => "filter"
  | into => "into"
  | left => "left"
  | like => "like"
  | load => "load"
  | merge => "merge"
  | move => "move"
  | notWord => "not"
  | onWord => "on"
  | query => "query"
  | remove => "remove"
  | rename => "rename"
  | right => "right"
  | save => "save"
  | scope => "scope"
  | toWord => "to"
  | values => "values"
  | withWord => "with"

theorem Keyword.length_word_pos (keyword : Keyword) : 0 < keyword.word.toList.length := by
  cases keyword <;> decide

theorem Keyword.isLower_of_mem_word (keyword : Keyword) :
    ∀ c ∈ keyword.word.toList, c.isLower = true := by
  have hall : keyword.word.toList.all Char.isLower = true := by cases keyword <;> rfl
  exact List.all_eq_true.1 hall

/-- A token that would have been accepted where a reader failed. -/
inductive Expected where
  /-- A word of the language. -/
  | word (keyword : Keyword)
  /-- A text between quotes. -/
  | quotedText
  /-- The quote that ends a text. -/
  | closingQuote
  /-- The brace that opens an inline query. -/
  | openBrace
  /-- The brace that closes an inline query. -/
  | closeBrace
  /-- The mark that ends a statement. -/
  | semicolon
  /-- Nothing more. -/
  | endOfInput
  deriving DecidableEq, Repr

namespace Expected

/-- The name of a token in messages. -/
def label : Expected → String
  | word keyword => keyword.word
  | quotedText => "quoted text"
  | closingQuote => "closing quote"
  | openBrace => "\x7b"
  | closeBrace => "\x7d"
  | semicolon => ";"
  | endOfInput => "end of input"

/-- All tokens in the order of their labels. -/
def inLabelOrder : List Expected :=
  [semicolon, word .add, word .asWord, word .caseWord, closingQuote, word .column, word .copy,
    word .cross, word .distinct, endOfInput, word .equal, word .file, word .filter, word .into,
    word .left, word .like, word .load, word .merge, word .move, word .notWord, word .onWord,
    word .query, quotedText, word .remove, word .rename, word .right, word .save, word .scope,
    word .toWord, word .values, word .withWord, openBrace, closeBrace]

theorem mem_inLabelOrder (token : Expected) : token ∈ inLabelOrder := by
  cases token with
  | word keyword => cases keyword <;> decide
  | _ => decide

theorem inLabelOrder_sorted : (inLabelOrder.map label).Pairwise (· < ·) := by
  decide

end Expected

end CaseScript
