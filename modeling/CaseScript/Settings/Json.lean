import CaseScript.Json.Shape
import CaseScript.Settings.Decode

/-!
# Settings in JSON

A record of settings may also be given as an array of its members in order, as far as they are
given.
-/

namespace CaseScript.Settings

/-- How JSON values are read. -/
def jsonDecoder : Decoder Json where
  members? names := Json.members? ⟨names, true⟩
  entries?
    | .object members => Json.named? members
    | _ => none
  text? := Json.text?
  boolean? := Json.boolean?
  isNull
    | .null => true
    | _ => false

/-- The settings that a JSON value stands for. -/
def ofJson? : Json → Option Settings := jsonDecoder.settings?

/-- The JSON form of settings. -/
def toJson (settings : Settings) : Json :=
  .record [("base_directory", .nullable (fun base => .str base.text) settings.base),
    ("variables",
      .record (settings.bindings.toList.map fun (name, value) => (name, .str value))),
    ("csv",
      .record [("delimiter", .str (String.singleton settings.delimiter)),
        ("quote", .str (String.singleton settings.quote))]),
    ("validate_scopes", .boolean settings.checkScopes),
    ("log_filter", .str settings.logFilter)]

end CaseScript.Settings
