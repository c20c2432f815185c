import CaseScript.Settings.Basic

/-!
# Decoding settings

Settings are decoded in the same way from any format that can tell records, texts and truth values
apart.  Whatever is left out has its standard value; nothing that is unknown may be there.
-/

namespace CaseScript.Settings

/-- How the values of a format are read. -/
structure Decoder (ν : Type) where
  /-- The members of a record that has no others than the named ones; nothing where one is left
  out. -/
  members? : List String → ν → Option (List (Option ν))
  /-- The entries of a record with any names. -/
  entries? : ν → Option (List (String × ν))
  text? : ν → Option String
  boolean? : ν → Option Bool
  isNull : ν → Bool

namespace Decoder

variable {ν : Type}

/-- A path, or none for null. -/
def path? (decoder : Decoder ν) (value : ν) : Option (Option Path) :=
  if decoder.isNull value then some none
  else (decoder.text? value).map fun text => some ⟨text⟩

/-- A text of one character. -/
def char? (decoder : Decoder ν) (value : ν) : Option Char := do
  let [c] := (← decoder.text? value).toList | none
  return c

/-- A name and its text. -/
def binding? (decoder : Decoder ν) (entry : String × ν) : Option (String × String) :=
  (decoder.text? entry.2).map (entry.1, ·)

/-- The values of variables; under a repeated name the last value counts. -/
def bindings? (decoder : Decoder ν) (value : ν) : Option Bindings := do
  let entries ← (← decoder.entries? value).mapM decoder.binding?
  return entries.foldl (fun bindings entry => bindings.insert entry.1 entry.2) ∅

/-- What is read off a member, or the standard value where it is left out. -/
def orStandard {α : Type} (read? : ν → Option α) (standard : α) : Option ν → Option α
  | none => some standard
  | some value => read? value

/-- Settings with the delimiter and the quote of a record. -/
def characters? (decoder : Decoder ν) (settings : Settings) (value : ν) : Option Settings := do
  let [delimiter, quote] ← decoder.members? ["delimiter", "quote"] value | none
  return { settings with
    delimiter := ← orStandard decoder.char? settings.delimiter delimiter
    quote := ← orStandard decoder.char? settings.quote quote }

/-- The settings that a value stands for. -/
def settings? (decoder : Decoder ν) (value : ν) : Option Settings := do
  let standard : Settings := {}
  let [base, bindings, characters, checkScopes, logFilter] ←
    decoder.members? ["base_directory", "variables", "csv", "validate_scopes", "log_filter"] value
    | none
  let settings ← orStandard (decoder.characters? standard) standard characters
  return { settings with
    base := ← orStandard decoder.path? standard.base base
    bindings := ← orStandard decoder.bindings? standard.bindings bindings
    checkScopes := ← orStandard decoder.boolean? standard.checkScopes checkScopes
    logFilter := ← orStandard decoder.text? standard.logFilter logFilter }

end Decoder

end CaseScript.Settings
