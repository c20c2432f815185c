import CaseScript.Settings.Decode
import CaseScript.Yaml.Node

/-!
# Settings in YAML

A scalar stands for what the setting wants: for a text whatever it spells, for a truth value only if
it is written plainly.  A record of which nothing is written has no members.

* `Settings.ofYaml` reads a text and checks the dialect.
* `Settings.load` reads a file; a relative base directory is taken from the directory of the file.
-/

namespace CaseScript.Settings

open CaseScript.Yaml (Node)

/-- An entry of a mapping, when its key is a scalar. -/
def named? (entry : Node × Node) : Option (String × Node) :=
  match entry with
  | (.scalar _ name, value) => some (name, value)
  | _ => none

/-- The entries of a mapping. -/
def yamlEntries? : Node → Option (List (String × Node))
  | .mapping entries => entries.mapM named?
  | .scalar true "" => some []
  | _ => none

/-- The members of a mapping that has no others than the named ones, each at most once. -/
def yamlMembers? (names : List String) (node : Node) : Option (List (Option Node)) := do
  let entries ← yamlEntries? node
  if names.any fun name => 1 < entries.countP (·.1 == name) then none
  else if entries.any fun entry => !names.contains entry.1 then none
  else some (names.map fun name => entries.lookup name)

/-- The text of a scalar. -/
def yamlText? : Node → Option String
  | .scalar _ text => some text
  | _ => none

/-- The truth value of a plain scalar. -/
def yamlBoolean? : Node → Option Bool
  | .scalar true text =>
    if ["true", "True", "TRUE"].contains text then some true
    else if ["false", "False", "FALSE"].contains text then some false
    else none
  | _ => none

/-- The plain scalars that stand for no value. -/
def isYamlNull : Node → Bool
  | .scalar true text => ["", "~", "null", "Null", "NULL"].contains text
  | _ => false

/-- How YAML nodes are read. -/
def yamlDecoder : Decoder Node where
  members? := yamlMembers?
  entries? := yamlEntries?
  text? := yamlText?
  boolean? := yamlBoolean?
  isNull := isYamlNull

/-- The settings that a text spells. -/
def ofYaml (text : String) : Except SettingsError Settings :=
  match (Node.parse text).bind yamlDecoder.settings? with
  | none => .error .malformed
  | some settings => do
    let _ ← settings.dialect
    return settings

/-- The settings with a relative base directory taken from the directory of a file. -/
def besideFile (settings : Settings) (file : Path) : Settings :=
  match settings.base, file.parent? with
  | some base, some directory => { settings with base := some (directory.join base) }
  | _, _ => settings

/-- The settings in a file. -/
def load (disk : Disk) (file : Path) : Except SettingsError Settings := do
  let text ← (disk.readText file).mapError (.unreadable file)
  return (← ofYaml text).besideFile file

end CaseScript.Settings
