import CaseScript.Syntax.Error
import CaseScript.Syntax.Form

/-!
# Scripts

A script is read as a whole: it gives a program, or the first fault and no action at all.  Between
the statements and around them may stand any number of semicolons.

* `Program.parse` reads a script.
* `Action.parse` reads exactly one statement, with at most one semicolon after it.
-/

namespace CaseScript

namespace Syntax

/-- The text from the next statement on, past trivia and semicolons. -/
def skipSeparators (text : List Char) : List Char :=
  match h : skipTrivia text with
  | [] => []
  | c :: rest =>
    have := length_lt_of_skipTrivia h
    if c == ';' then skipSeparators rest else c :: rest
termination_by text.length

theorem length_skipSeparators_le (text : List Char) :
    (skipSeparators text).length ≤ text.length := by
  fun_induction skipSeparators text with
  | case1 => simp
  | case2 text c rest h hlt hc ih => omega
  | case3 text c rest h hlt hc =>
    have := length_skipTrivia_le text
    rwa [h] at this

/-- The statements of a text, or the number of statements before the faulty one and its failure. -/
def statements (text : List Char) : Except (Nat × Failure) Program :=
  if (skipSeparators text).isEmpty then .ok []
  else match h : statement (skipSeparators text) with
    | .error failure => .error (0, failure)
    | .ok (action, rest) =>
      have : rest.length < text.length :=
        Nat.lt_of_lt_of_le (shrinks_statement _ _ _ h) (length_skipSeparators_le text)
      match statements rest with
      | .ok actions => .ok (action :: actions)
      | .error (index, failure) => .error (index + 1, failure)
termination_by text.length

end Syntax

open Syntax

/-- The program that a script denotes, or its first fault. -/
def Program.parse (source : String) : Except SyntaxError Program :=
  match statements source.toList with
  | .ok program => .ok program
  | .error (index, failure) => .error (.ofFailure source.toList index failure)

/-- The action that a single statement denotes, or the first fault. -/
def Action.parse (source : String) : Except SyntaxError Action :=
  match statement source.toList with
  | .error failure => .error (.ofFailure source.toList 0 failure)
  | .ok (action, rest) =>
    match skipTrivia rest with
    | [] => .ok action
    | rest => .error (.ofFailure source.toList 0 ⟨rest, [.endOfInput]⟩)

end CaseScript
