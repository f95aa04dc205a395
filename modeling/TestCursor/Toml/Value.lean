/-!
# TOML values

The values of a TOML document, with what decides whether a table can still be extended.
-/

namespace TestCursor

/-- How a table came into being. -/
inductive TableKind
  /-- By a header that names it. -/
  | header
  /-- On the way to the table that a header names. -/
  | passed
  /-- On the way to the last part of a dotted key. -/
  | dotted
  /-- Between braces. -/
  | inline
  deriving DecidableEq, Repr

inductive Toml
  | string (text : String)
  | bool (value : Bool)
  | integer (value : Int)
  | float
  /-- A date, a time of day, or both. -/
  | time
  | array (elements : List Toml)
  /-- The tables that headers in double brackets made. -/
  | tables (elements : List (List (String × Toml)))
  | table (kind : TableKind) (entries : List (String × Toml))
  deriving Inhabited

namespace Toml

/-- The entries of a table under their keys. -/
abbrev Entries := List (String × Toml)

/-- The values of a record with the named fields: those of a table, or the elements of an array
in the order of the fields. A field that is left out has no value; elements beyond the fields do
not matter. A time is a record without any of the fields. -/
def record? (names : List String) : Toml → Option (List (Option Toml))
  | .table _ entries => some (names.map fun name => entries.lookup name)
  | .array elements => some (positional names elements)
  | .tables elements => some (positional names (elements.map (.table .header)))
  | .time => some (names.map fun _ => none)
  | _ => none
where
  /-- Elements at the places of the fields. -/
  positional : List String → List Toml → List (Option Toml)
    | [], _ => []
    | _ :: names, [] => none :: positional names []
    | _ :: names, element :: elements => some element :: positional names elements

end Toml

end TestCursor
