import Till.Toml.Quote
import Till.Toml.Scalar
import Till.Toml.Table

/-!
# TOML documents

A document is a sequence of lines: a header, a key with a value, or nothing; each may end in a
comment. Values may span lines between brackets and between tripled quotes. Each reader takes what
it reads from the front and returns the rest.
-/

namespace Till.Toml

/-- A value with the characters after it, if there is one at the front. -/
abbrev Reading (α : Type) := Option (α × List Char)

/-- How many brackets and braces may stand in one another, and how many parts a key may have. -/
def depth : Nat := 79

def skipBlanks (cs : List Char) : List Char :=
  cs.dropWhile isBlank

/-- What follows a line break or, at the end, nothing. -/
def afterBreak? : List Char → Option (List Char)
  | [] => some []
  | '\n' :: cs => some cs
  | '\r' :: '\n' :: cs => some cs
  | _ => none

/-- What follows the rest of a line that holds no more than a comment. -/
def afterLine? (cs : List Char) : Option (List Char) :=
  match skipBlanks cs with
  | '#' :: cs => afterBreak? (cs.dropWhile isPlain)
  | cs => afterBreak? cs

/-- What follows blanks, line breaks and comments. -/
def skipLines (cs : List Char) : List Char :=
  match afterLine? cs with
  | some rest => if rest.length < cs.length then skipLines rest else skipBlanks cs
  | none => skipBlanks cs
termination_by cs.length

/-! ### Keys -/

def isBareKeyChar (c : Char) : Bool :=
  c.isAlphanum || c == '_' || c == '-'

def keyPart? (cs : List Char) : Reading String :=
  let found : Reading (List Char) :=
    match cs with
    | '"' :: cs => basicBody cs
    | '\'' :: cs => literalBody cs
    | cs =>
      let name := cs.takeWhile isBareKeyChar
      if name.isEmpty then none else some (name, cs.dropWhile isBareKeyChar)
  found.map fun f => (String.ofList f.1, f.2)

/-- The parts of a key, joined by dots. -/
def keyParts? (cs : List Char) : Reading (List String) :=
  match keyPart? (skipBlanks cs) with
  | none => none
  | some (part, rest) =>
    match skipBlanks rest with
    | '.' :: rest =>
      if rest.length < cs.length then
        (keyParts? rest).map fun found => (part :: found.1, found.2)
      else none
    | rest => some ([part], rest)
termination_by cs.length

def key? (cs : List Char) : Reading (List String) :=
  (keyParts? cs).filter fun found => found.1.length ≤ depth

/-- A key and a value with an equals sign between them, all on one line so far. -/
def field? (value? : List Char → Reading Toml) (cs : List Char) : Reading (List String × Toml) :=
  match key? cs with
  | some (path, '=' :: rest) =>
    (value? (skipBlanks rest)).map fun found => ((path, found.1), found.2)
  | _ => none

/-! ### Values -/

/-- The items of an array up to its bracket. -/
def items? (value? : List Char → Reading Toml) (cs : List Char) : Reading (List Toml) :=
  match skipLines cs with
  | ']' :: rest => some ([], rest)
  | start =>
    match value? start with
    | none => none
    | some (v, rest) =>
      match skipLines rest with
      | ']' :: rest => some ([v], rest)
      | ',' :: rest =>
        if rest.length < cs.length then
          (items? value? rest).map fun found => (v :: found.1, found.2)
        else none
      | _ => none
termination_by cs.length

/-- The fields of a table between braces that has any, up to its brace. -/
def inlineFields? (value? : List Char → Reading Toml) (cs : List Char) :
    Reading (List (List String × Toml)) :=
  match field? value? cs with
  | none => none
  | some (f, rest) =>
    match skipBlanks rest with
    | '\x7d' :: rest => some ([f], rest)
    | ',' :: rest =>
      if rest.length < cs.length then
        (inlineFields? value? rest).map fun found => (f :: found.1, found.2)
      else none
    | _ => none
termination_by cs.length

def inlineTableBody? (value? : List Char → Reading Toml) (cs : List Char) : Reading Toml :=
  match skipBlanks cs with
  | '\x7d' :: rest => some (.table .inline [], rest)
  | cs =>
    match inlineFields? value? cs with
    | some (fields, rest) => (inlineTable? fields).map fun t => (t, rest)
    | none => none

/-- A value at the front in which `room` brackets and braces may be nested. -/
def value? : Nat → List Char → Reading Toml
  | room + 1, '[' :: cs => (items? (value? room) cs).map fun found => (.array found.1, found.2)
  | room + 1, '\x7b' :: cs => inlineTableBody? (value? room) cs
  | _, '"' :: cs => (quoted? ('"' :: cs)).map fun f => (.string (String.ofList f.1), f.2)
  | _, '\'' :: cs => (quoted? ('\'' :: cs)).map fun f => (.string (String.ofList f.1), f.2)
  | _, cs => scalar? cs

/-! ### Lines -/

/-- What a line states, if anything. -/
def line? (cs : List Char) : Reading (Option Statement) :=
  match skipBlanks cs with
  | '[' :: '[' :: cs =>
    match key? cs with
    | some (path, ']' :: ']' :: rest) => (afterLine? rest).map fun rest => (some (.row path), rest)
    | _ => none
  | '[' :: cs =>
    match key? cs with
    | some (path, ']' :: rest) => (afterLine? rest).map fun rest => (some (.open path), rest)
    | _ => none
  | cs =>
    match afterLine? cs with
    | some rest => some (none, rest)
    | none =>
      match field? (value? depth) cs with
      | some ((path, v), rest) => (afterLine? rest).map fun rest => (some (.assign path v), rest)
      | none => none

def lines? (cs : List Char) : Option (List Statement) :=
  match cs with
  | [] => some []
  | cs =>
    match line? cs with
    | none => none
    | some (s, rest) =>
      if rest.length < cs.length then (lines? rest).map (s.toList ++ ·) else none
termination_by cs.length

/-- A mark of the byte order may stand at the start. -/
def skipMark : List Char → List Char
  | '\uFEFF' :: cs => cs
  | cs => cs

/-- The table that a whole document stands for. -/
def parse? (text : String) : Option Toml :=
  match lines? (skipMark text.toList) with
  | some statements => (build? statements [] []).map (.table .header)
  | none => none

end Till.Toml
