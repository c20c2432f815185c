import CaseScript.Source.Error
import CaseScript.Text.Alphanumeric
import Std.Data.ExtTreeMap.Lemmas

/-!
# Templates

The text of a query may hold placeholders: a name between two dollar signs.  `Template.render` puts
the values of variables in their places.

A dollar sign that opens no placeholder stands for itself, and the text right after it may open one:
in `$$a$` the first dollar sign is plain and `$a$` is a placeholder.  Values are not searched for
placeholders.
-/

namespace CaseScript

open CaseScript.Text (isWordChar)

/-- The values of variables by name. -/
abbrev Bindings := Std.ExtTreeMap String String

namespace Template

/-- A part of a template. -/
inductive Segment where
  /-- A character that stands for itself. -/
  | plain (c : Char)
  /-- The place of the value of a variable. -/
  | placeholder (name : List Char)
  deriving DecidableEq, Repr

/-- The text may name a variable. -/
def isName (text : List Char) : Bool := !text.isEmpty && text.all isWordChar

/-- The character is no dollar sign. -/
def isInside (c : Char) : Bool := c != '$'

/-- The segments of a template. -/
def segments : List Char → List Segment
  | [] => []
  | c :: rest =>
    if isInside c then .plain c :: segments rest
    else match h : rest.dropWhile isInside with
      | [] => .plain c :: segments rest
      | _ :: after =>
        have : after.length < rest.length := by
          have := (List.dropWhile_sublist isInside (l := rest)).length_le
          rw [h] at this
          exact this
        let name := rest.takeWhile isInside
        if isName name then .placeholder name :: segments after
        else .plain c :: segments rest
termination_by template => template.length

/-- The text that a segment gives. -/
def Segment.render (bindings : Bindings) : Segment → Except SourceError (List Char)
  | plain c => .ok [c]
  | placeholder name =>
    match bindings[String.ofList name]? with
    | some value => .ok value.toList
    | none => .error (.undefinedVariable (String.ofList name))

/-- The template with its placeholders replaced; fails at the first one without a value. -/
def render (bindings : Bindings) (template : String) : Except SourceError String := do
  let texts ← (segments template.toList).mapM (Segment.render bindings)
  return String.ofList texts.flatten

end Template

end CaseScript
