/-!
# Patterns with wildcards

A pattern describes a whole text.  The characters `%` and `*` stand for any run of characters, also
an empty one; `_` and `?` stand for exactly one character; every other character stands for itself.

A text is matched from the end of the pattern to its start.  `fits` keeps, for every suffix of the
text, whether the rest of the pattern describes it, so the work grows with the product of the two
lengths and not with the number of ways to cut the text.
-/

namespace CaseScript

/-- What one character of a pattern stands for. -/
inductive GlobPiece where
  /-- Any run of characters. -/
  | run
  /-- Any one character. -/
  | one
  /-- This character. -/
  | exactly (c : Char)
  deriving DecidableEq, Repr

/-- A pattern: one piece for each of its characters. -/
abbrev Glob := List GlobPiece

/-- The piece that a character of a pattern stands for. -/
def GlobPiece.ofChar (c : Char) : GlobPiece :=
  if c == '%' || c == '*' then run
  else if c == '_' || c == '?' then one
  else exactly c

namespace Glob

/-- The pattern that a text spells. -/
def ofString (pattern : String) : Glob := pattern.toList.map GlobPiece.ofChar

/-- For every suffix of the text, longest first, whether some suffix of it, or it itself, is
marked. -/
def anySuffix : List Bool → List Bool
  | [] => []
  | mark :: marks =>
    let after := anySuffix marks
    (mark || after.headD false) :: after

/-- The marks of the suffixes that a piece and marked suffixes describe together. -/
def step (text : List Char) (piece : GlobPiece) (marks : List Bool) : List Bool :=
  match piece with
  | .run => anySuffix marks
  | .one => marks.tail ++ [false]
  | .exactly c => List.zipWith (fun d mark => d == c && mark) text marks.tail ++ [false]

/-- For every suffix of the text, longest first, whether the pattern describes it. -/
def fits (text : List Char) (glob : Glob) : List Bool :=
  glob.foldr (step text) (List.replicate text.length false ++ [true])

/-- The pattern describes the text. -/
def describes (glob : Glob) (text : List Char) : Bool := (fits text glob).headD false

end Glob

end CaseScript
