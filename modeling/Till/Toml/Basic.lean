import Till.Json.Entries

/-!
# TOML values

Texts and truth values carry their content. Of numbers and dates only the kind is kept: nothing
here reads more of them. A table remembers how it came about, since that decides what may still be
added to it.
-/

namespace Till

/-- How a table came about. -/
inductive TableOrigin
  /-- By its own header. -/
  | header
  /-- As a part of the header of a table below it. -/
  | implied
  /-- As a part of a dotted key. -/
  | dotted
  /-- Between braces. -/
  | inline
deriving DecidableEq, Repr

inductive Toml
  | string (s : String)
  | boolean (b : Bool)
  | number
  | date
  | array (items : List Toml)
  | table (origin : TableOrigin) (entries : List (String × Toml))
  /-- Tables under one double-bracketed header, the first one first. -/
  | tables (rows : List (List (String × Toml)))

namespace Toml

def string? : Toml → Option String
  | string s => some s
  | _ => none

def boolean? : Toml → Option Bool
  | boolean b => some b
  | _ => none

/-- The values of a record with these columns, in order. A record is a table or an array of its
values; a date counts as a table without any of them. -/
def columns? (names : List String) (v : Toml) : Option (List (Option Toml)) :=
  let inOrder (items : List Toml) : List (Option Toml) :=
    (List.range names.length).map (items[·]?)
  match v with
  | table _ es => some (names.map fun n => es.lookup n)
  | array items => some (inOrder items)
  | tables rows => some (inOrder (rows.map (table .header)))
  | date => some (names.map fun _ => none)
  | _ => none

end Toml
end Till
