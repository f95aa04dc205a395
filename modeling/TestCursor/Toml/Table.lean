import TestCursor.Toml.Value

/-!
# Extending tables

Every key of a table is given once. A dotted key makes the tables on its way, and can go on in
those that dotted keys made; a header makes the tables on its way too, and can name a table that
was only passed on the way to another.
-/

namespace TestCursor

namespace Toml

/-- Entries with the value of one key replaced, or with the key added at the end. -/
def putValue (key : String) (value : Toml) : Entries → Entries
  | [] => [(key, value)]
  | (other, old) :: rest =>
    if other = key then (key, value) :: rest else (other, old) :: putValue key value rest

/-- A value added under a key that has none. -/
def addValue? (key : String) (value : Toml) (entries : Entries) : Option Entries :=
  match entries.lookup key with
  | some _ => none
  | none => some (entries ++ [(key, value)])

def changeLast? (change : Entries → Option Entries) (tables : List Entries) :
    Option (List Entries) :=
  match tables.getLast? with
  | some last => (change last).map fun changed => tables.dropLast ++ [changed]
  | none => none

/-- A value added under a dotted key. `intoDotted` tells that the table at hand was made by a
dotted key, or is the one that the key starts from. -/
def addDotted? (intoDotted : Bool) : List String → String → Toml → Entries → Option Entries
  | [], key, value, entries => if intoDotted then addValue? key value entries else none
  | part :: parts, key, value, entries =>
    match entries.lookup part with
    | none =>
      (addDotted? true parts key value []).map fun made =>
        entries ++ [(part, .table .dotted made)]
    | some (.table .dotted inner) =>
      (addDotted? true parts key value inner).map fun changed =>
        putValue part (.table .dotted changed) entries
    | some (.table .passed inner) =>
      (addDotted? false parts key value inner).map fun changed =>
        putValue part (.table .passed changed) entries
    | some (.tables elements) =>
      (changeLast? (addDotted? false parts key value) elements).map fun changed =>
        putValue part (.tables changed) entries
    | _ => none

/-- Entries changed inside the table at the end of a header's path. Tables that are missing on the
way are made; of an array of tables the last one is meant. -/
def changeAt? (change : Entries → Option Entries) : List String → Entries → Option Entries
  | [], entries => change entries
  | part :: parts, entries =>
    match entries.lookup part with
    | none =>
      (changeAt? change parts []).map fun made => entries ++ [(part, .table .passed made)]
    | some (.table .inline _) => none
    | some (.table kind inner) =>
      (changeAt? change parts inner).map fun changed =>
        putValue part (.table kind changed) entries
    | some (.tables elements) =>
      (changeLast? (changeAt? change parts) elements).map fun changed =>
        putValue part (.tables changed) entries
    | _ => none

/-- The entries with which the table of a header starts: those that it got when it was passed. -/
def openTable? (key : String) (entries : Entries) : Option Entries :=
  match entries.lookup key with
  | none => some []
  | some (.table .passed inner) => some inner
  | _ => none

/-- A header in double brackets can name this key. -/
def openElement? (key : String) (entries : Entries) : Option Entries :=
  match entries.lookup key with
  | none => some []
  | some (.tables _) => some []
  | _ => none

/-- Look into the table at the end of a header's path. A table that is missing is empty. -/
def lookAt? (look : Entries → Option Entries) : List String → Entries → Option Entries
  | [], entries => look entries
  | part :: parts, entries =>
    match entries.lookup part with
    | none => lookAt? look parts []
    | some (.table .inline _) => none
    | some (.table _ inner) => lookAt? look parts inner
    | some (.tables elements) =>
      match elements.getLast? with
      | some last => lookAt? look parts last
      | none => none
    | _ => none

/-- The finished table of a header put in its place. -/
def closeTable (key : String) (table entries : Entries) : Entries :=
  putValue key (.table .header table) entries

/-- The finished table of a header in double brackets added to the others. -/
def closeElement (key : String) (table entries : Entries) : Entries :=
  match entries.lookup key with
  | some (.tables elements) => putValue key (.tables (elements ++ [table])) entries
  | _ => putValue key (.tables [table]) entries

end Toml

end TestCursor
