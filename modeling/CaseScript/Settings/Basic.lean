import CaseScript.Csv.Dialect
import CaseScript.Disk
import CaseScript.Template

/-!
# Settings

What a run can be told beforehand: the directory at which the paths of a script start, the values of
variables in queries, the characters that separate and quote fields in table files, whether the
names of scopes are checked before the first action, and how much is logged.
-/

namespace CaseScript

/-- The settings of a run. -/
structure Settings where
  base : Option Path := none
  bindings : Bindings := ∅
  delimiter : Char := ';'
  quote : Char := '"'
  checkScopes : Bool := true
  logFilter : String := "info"
  deriving DecidableEq

/-- Why there are no usable settings. -/
inductive SettingsError where
  /-- The delimiter and the quote make no dialect. -/
  | dialect (error : Csv.DialectError)
  | unreadable (file : Path) (fault : DiskFault)
  /-- The text is not written as settings are. -/
  | malformed
  deriving DecidableEq, Repr

/-- The report of a settings error. -/
def SettingsError.message : SettingsError → String
  | dialect error => error.message
  | unreadable file fault =>
    "Failed to read configuration file '" ++ file.text ++ "': " ++ fault.message
  | malformed => "Failed to parse configuration"

namespace Settings

/-- The settings with a value for a variable in place of an earlier one. -/
def withVariable (settings : Settings) (name value : String) : Settings :=
  { settings with bindings := settings.bindings.insert name value }

/-- The dialect of table files. -/
def dialect (settings : Settings) : Except SettingsError Csv.Dialect :=
  (Csv.Dialect.ofChars settings.delimiter settings.quote).mapError .dialect

/-- The path that a script names. -/
def resolve (settings : Settings) (path : Path) : Path :=
  match settings.base with
  | some base => base.join path
  | none => path

end Settings

end CaseScript
