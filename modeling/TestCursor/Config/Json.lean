import TestCursor.Config.Basic
import TestCursor.Json.Printer

/-!
# Configuration as JSON

A configuration is read from an object of settings, or from an array of their values in order,
and written as an object of all settings.
-/

namespace TestCursor

/-- The setting that a JSON value gives. -/
def Setting.ofJson? : Json → Option Setting
  | .string (some value) => some (.text value)
  | .bool value => some (.switch value)
  | _ => none

def Setting.toJson : Setting → Json
  | .text value => .text value
  | .switch value => .bool value

namespace Config

def ofJson? (value : Json) : Option Config :=
  match value.record? ConfigKey.names with
  | none => none
  | some values => (settingsOf? Setting.ofJson? ConfigKey.all values).bind default.setAll?

def ofJsonText? (text : String) : Option Config := (Json.parse? text).bind ofJson?

def toJson (config : Config) : Json :=
  Json.ofMembers (ConfigKey.all.map fun key => (key.name, (config.get key).toJson))

def toJsonText (config : Config) : String := config.toJson.print

end Config

end TestCursor
