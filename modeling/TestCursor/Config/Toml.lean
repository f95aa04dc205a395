import TestCursor.Config.Basic
import TestCursor.Toml.Reader

/-!
# Configuration inside a project file

A TOML project file holds the configuration in a table among those of other tools. It may have no
such table, and then says nothing.
-/

namespace TestCursor

/-- The setting that a TOML value gives. -/
def Setting.ofToml? : Toml → Option Setting
  | .string value => some (.text value)
  | .bool value => some (.switch value)
  | _ => none

namespace Config

/-- The key of the table that holds the tables of all tools. -/
def toolsKey : String := "tool"

/-- The key of the configuration among the tools. -/
def toolKey : String := "django-runner"

def ofToml? (value : Toml) : Option Config :=
  match value.record? ConfigKey.names with
  | none => none
  | some values => (settingsOf? Setting.ofToml? ConfigKey.all values).bind default.setAll?

/-- The configuration among the tools, if there is one. An array of tools has it as its first
element and must have one. -/
def ofTools? : Toml → Option (Option Config)
  | .array [] => none
  | .tables [] => none
  | tools =>
    match tools.record? [toolKey] with
    | some [some value] => (ofToml? value).map some
    | some _ => some none
    | none => none

/-- The configuration in a project file, if it has one. The whole file has to be well-formed. -/
def ofProjectText? (text : String) : Option (Option Config) :=
  match Toml.document? text with
  | none => none
  | some entries =>
    match entries.lookup toolsKey with
    | none => some none
    | some tools => ofTools? tools

end Config

end TestCursor
