import CaseScript.Glob

/-!
# Regular expressions

Patterns are handed to a library of regular expressions: `Glob.regex` writes the expression of a
pattern, and the library turns it into a test of texts or refuses it.  Which expressions it refuses,
and why, is up to the library.  So is all that works with patterns: it takes any `RegexLibrary`.

`RegexLibrary.patternsOnly` is a library for the expressions of patterns, to run programs with.  It
reads the parts of an expression back, takes the pattern that they spell and matches texts with
that.  How long an expression may be is its own choice.
-/

namespace CaseScript

/-! ## Expressions -/

/-- One part of a regular expression. -/
inductive RegexPart where
  /-- The start of the text. -/
  | start
  /-- The end of the text. -/
  | stop
  /-- Any one character, a line break only where these are let through. -/
  | one (lineBreaks : Bool)
  /-- Any run of such characters. -/
  | run (lineBreaks : Bool)
  /-- This character. -/
  | exactly (c : Char)
  deriving DecidableEq, Repr

/-- A regular expression: its parts, one after the other. -/
abbrev Regex := List RegexPart

namespace Regex

/-- The characters that do not stand for themselves everywhere. -/
def signs : List Char :=
  ['\\', '.', '+', '*', '?', '(', ')', '|', '[', ']', '{', '}', '^', '$', '#', '&', '-', '~']

/-- The parts that a text spells, if it has no other signs than these. -/
def partsOf (lineBreaks : Bool) : List Char → Option Regex
  | [] => some []
  | '^' :: rest => (partsOf lineBreaks rest).map (.start :: ·)
  | '$' :: rest => (partsOf lineBreaks rest).map (.stop :: ·)
  | '.' :: '*' :: rest => (partsOf lineBreaks rest).map (.run lineBreaks :: ·)
  | '.' :: rest => (partsOf lineBreaks rest).map (.one lineBreaks :: ·)
  | '\\' :: c :: rest =>
    if c ∈ signs then (partsOf lineBreaks rest).map (.exactly c :: ·) else none
  | c :: rest => if c ∈ signs then none else (partsOf lineBreaks rest).map (.exactly c :: ·)

/-- The expression that a text spells.  A flag in front lets line breaks through. -/
def ofString (source : String) : Option Regex :=
  match source.toList with
  | '(' :: '?' :: 's' :: ')' :: rest => partsOf true rest
  | text => partsOf false text

/-- A character that is to stand for itself. -/
def escape (c : Char) : List Char := if c ∈ signs then ['\\', c] else [c]

end Regex

/-- The text that asks for a piece in a regular expression. -/
def GlobPiece.regex : GlobPiece → List Char
  | run => ['.', '*']
  | one => ['.']
  | exactly c => Regex.escape c

/-- The regular expression of a pattern, for whole texts and with line breaks let through. -/
def Glob.regex (glob : Glob) : String :=
  String.ofList ('(' :: '?' :: 's' :: ')' :: '^' :: (glob.flatMap GlobPiece.regex ++ ['$']))

/-! ## Libraries -/

/-- A library of regular expressions. -/
class RegexLibrary where
  /-- The test that an expression asks for, or the reason for which the library refuses it. -/
  compile : String → Except String (String → Bool)

/-- The piece of a pattern that a part asks for. -/
def RegexPart.piece? : RegexPart → Option GlobPiece
  | run true => some .run
  | one true => some .one
  | exactly c => some (.exactly c)
  | _ => none

namespace Regex

/-- The pattern that parts spell up to the end of the text. -/
def pieces? : Regex → Option Glob
  | [] => none
  | [.stop] => some []
  | part :: parts => do return (← part.piece?) :: (← pieces? parts)

/-- The pattern that an expression spells from the start of the text to its end. -/
def glob? : Regex → Option Glob
  | .start :: parts => pieces? parts
  | _ => none

end Regex

/-- A library for the expressions of patterns, of up to 10000 characters. -/
instance (priority := low) RegexLibrary.patternsOnly : RegexLibrary where
  compile source :=
    if 10000 < source.length then .error "Compiled regex exceeds size limit of 10485760 bytes."
    else match (Regex.ofString source).bind Regex.glob? with
      | some glob => .ok fun text => glob.describes text.toList
      | none => .error "No expression of a pattern."

end CaseScript
