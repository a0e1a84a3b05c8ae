import Till.Toml.Basic

/-!
# Building tables

A document is a list of statements. A table may be opened by a header once, unless it was only
implied before; dotted keys extend tables that dotted keys made, and none that a header or braces
made; no key is set twice.
-/

namespace Till

inductive Statement
  | open (path : List String)
  | row (path : List String)
  | assign (path : List String) (v : Toml)

namespace Toml

/-- Changes the last row. -/
def onLast {α : Type} (f : α → Option α) (rows : List α) : Option (List α) :=
  match rows.getLast? with
  | some r => (f r).map fun r => rows.dropLast ++ [r]
  | none => none

/-- Sets a dotted key. -/
def assign : List String → Toml → List (String × Toml) → Option (List (String × Toml))
  | [], _, _ => none
  | [k], v, es => if (es.lookup k).isSome then none else some (Entries.insert k v es)
  | k :: ks, v, es =>
    match es.lookup k with
    | none => (assign ks v []).map fun sub => Entries.insert k (.table .dotted sub) es
    | some (.table origin sub) =>
      if origin = .dotted ∨ (origin = .implied ∧ 1 < ks.length) then
        (assign ks v sub).map fun sub => Entries.insert k (.table origin sub) es
      else none
    | some (.tables rows) =>
      if 1 < ks.length then
        (onLast (assign ks v) rows).map fun rows => Entries.insert k (.tables rows) es
      else none
    | some _ => none

/-- Sets a dotted key in the table at a path that was opened. -/
def assignAt : List String → List String → Toml → List (String × Toml) →
    Option (List (String × Toml))
  | [], key, v, es => assign key v es
  | k :: ks, key, v, es =>
    match es.lookup k with
    | some (.table origin sub) =>
      (assignAt ks key v sub).map fun sub => Entries.insert k (.table origin sub) es
    | some (.tables rows) =>
      (onLast (assignAt ks key v) rows).map fun rows => Entries.insert k (.tables rows) es
    | _ => none

/-- Goes down the tables of a path, which come about on the way, and changes what stands under its
last key. -/
def descend (change : Option Toml → Option Toml) :
    List String → List (String × Toml) → Option (List (String × Toml))
  | [], _ => none
  | [k], es => (change (es.lookup k)).map fun v => Entries.insert k v es
  | k :: ks, es =>
    match es.lookup k with
    | none => (descend change ks []).map fun sub => Entries.insert k (.table .implied sub) es
    | some (.table origin sub) =>
      if origin = .inline then none
      else (descend change ks sub).map fun sub => Entries.insert k (.table origin sub) es
    | some (.tables rows) =>
      (onLast (descend change ks) rows).map fun rows => Entries.insert k (.tables rows) es
    | some _ => none

/-- A header opens a new table, or one that was implied. -/
def opened? : Option Toml → Option Toml
  | none => some (.table .header [])
  | some (.table .implied sub) => some (.table .header sub)
  | some _ => none

/-- A double-bracketed header adds a row. -/
def rowAdded? : Option Toml → Option Toml
  | none => some (.tables [[]])
  | some (.tables rows) => some (.tables (rows ++ [[]]))
  | some _ => none

/-- Carries out statements, the path of the last header being `here`. -/
def build? : List Statement → List String → List (String × Toml) → Option (List (String × Toml))
  | [], _, es => some es
  | .open path :: rest, _, es => (descend opened? path es).bind (build? rest path)
  | .row path :: rest, _, es => (descend rowAdded? path es).bind (build? rest path)
  | .assign key v :: rest, here, es => (assignAt here key v es).bind (build? rest here)

/-- The table between braces with these keys. -/
def inlineTable? (fields : List (List String × Toml)) : Option Toml :=
  (fields.foldlM (fun es f => assign f.1 f.2 es) []).map (.table .inline)

end Toml
end Till
