import Till.Json.Entries
import Till.Text.Digits

/-!
# Reading JSON

Each reader takes a value from the front of the characters and returns what follows it. Objects come
out in key order, the last of equal keys standing. A text that nests more than `Reader.depth`
containers is refused, and so is an escape that stands for half of a character pair.
-/

namespace Till.Json.Reader

/-- How many containers may stand in one another. -/
def depth : Nat := 127

def isBlank (c : Char) : Bool :=
  c == ' ' || c == '\n' || c == '\t' || c == '\r'

def skipBlanks (cs : List Char) : List Char :=
  cs.dropWhile isBlank

/-- The characters after a word, if the word is there. -/
def word? (w : List Char) (cs : List Char) : Option (List Char) :=
  if w.isPrefixOf cs then some (cs.drop w.length) else none

/-! ### Strings -/

def simpleEscape? (c : Char) : Option Char :=
  match c with
  | '"' => some '"'
  | '\\' => some '\\'
  | '/' => some '/'
  | 'b' => some (Char.ofNat 8)
  | 'f' => some (Char.ofNat 12)
  | 'n' => some '\n'
  | 'r' => some '\r'
  | 't' => some '\t'
  | _ => none

/-- The characters of a string up to its closing quote, with what follows the quote. -/
def stringBody : List Char → Option (List Char × List Char)
  | [] => none
  | '"' :: cs => some ([], cs)
  | '\\' :: 'u' :: a :: b :: c :: d :: cs => do
    let n ← Text.hexNumber? [a, b, c, d]
    if 0xDC00 ≤ n ∧ n ≤ 0xDFFF then none
    else if 0xD800 ≤ n ∧ n ≤ 0xDBFF then
      match cs with
      | '\\' :: 'u' :: a :: b :: c :: d :: cs =>
        let m ← Text.hexNumber? [a, b, c, d]
        if 0xDC00 ≤ m ∧ m ≤ 0xDFFF then
          let (s, rest) ← stringBody cs
          return (Char.ofNat (0x10000 + (n - 0xD800) * 0x400 + (m - 0xDC00)) :: s, rest)
        else none
      | _ => none
    else
      let (s, rest) ← stringBody cs
      return (Char.ofNat n :: s, rest)
  | '\\' :: c :: cs => do
    let e ← simpleEscape? c
    let (s, rest) ← stringBody cs
    return (e :: s, rest)
  | c :: cs =>
    if c.toNat < 32 ∨ c = '\\' then none
    else do
      let (s, rest) ← stringBody cs
      return (c :: s, rest)

/-! ### Numbers -/

def digit (c : Char) : Nat :=
  c.toNat - 48

/-- The digits at the front, with what follows them. -/
def digits (cs : List Char) : List Char × List Char :=
  (cs.takeWhile Char.isDigit, cs.dropWhile Char.isDigit)

/-- The largest significand that is kept. -/
def significandMax : Nat := UInt64.size - 1

/-- A significand and how many digits were left out after it. -/
structure Significand where
  value : Nat
  dropped : Nat
deriving DecidableEq, Repr

/-- Once a digit of a whole part does not fit, all that follow it are left out too. -/
def Significand.ofWhole (ds : List Char) : Significand :=
  ds.foldl (fun s c =>
    let next := 10 * s.value + digit c
    if s.dropped = 0 ∧ next ≤ significandMax then ⟨next, 0⟩ else ⟨s.value, s.dropped + 1⟩) ⟨0, 0⟩

/-- Adds the digits of a fraction as long as they fit; also counts the digits added. -/
def addFraction (value : Nat) : List Char → Nat × Nat
  | [] => (value, 0)
  | c :: ds =>
    let next := 10 * value + digit c
    if next ≤ significandMax then
      let (v, n) := addFraction next ds
      (v, n + 1)
    else (value, 0)

def power (k : Nat) : Float :=
  Double.nearest (Nat.pow 10 k) 1

/-- A significand times a power of ten. The significand is rounded first, then each step of at most
`10 ^ 308`. `none` stands for a number too large. -/
def scale? (significand : Nat) (e : Int) : Option Float :=
  let x := Double.nearest significand 1
  if significand = 0 then some x
  else if 308 < e then none
  else if 0 ≤ e then
    let y := x * power e.toNat
    if y.isInf then none else some y
  else if -308 ≤ e then some (x / power (-e).toNat)
  else if -616 ≤ e then some (x / power 308 / power (-e - 308).toNat)
  else some 0

/-- The exponent at the front, zero if there is none. -/
def exponent? : List Char → Option (Option Int × List Char)
  | c :: cs =>
    if c = 'e' ∨ c = 'E' then
      let (negative, cs) :=
        match cs with
        | '+' :: cs => (false, cs)
        | '-' :: cs => (true, cs)
        | cs => (false, cs)
      let (ds, rest) := digits cs
      if ds.isEmpty then none
      else some (some (if negative then -(Text.numeral 10 ds : Int) else Text.numeral 10 ds), rest)
    else some (none, c :: cs)
  | [] => some (none, [])

/-- The digits of the fraction at the front. -/
def fraction? : List Char → Option (Option (List Char) × List Char)
  | '.' :: cs =>
    let (ds, rest) := digits cs
    if ds.isEmpty then none else some (some ds, rest)
  | cs => some (none, cs)

/-- A number from its parts: whole if it has neither fraction nor exponent and fits, else a
double. -/
def assemble? (negative : Bool) (whole : List Char) (fraction : Option (List Char))
    (exponent : Option Int) : Option Number :=
  let n := Text.numeral 10 whole
  let isWhole := fraction.isNone && exponent.isNone
  if isWhole && negative && 0 < n && n ≤ Nat.pow 2 63 then some (.int (-(n : Int)))
  else if isWhole && !negative && n < UInt64.size then some (.int n)
  else do
    let s := Significand.ofWhole whole
    let (value, added) := addFraction s.value (fraction.getD [])
    let x ← scale? value (s.dropped - added + exponent.getD 0)
    return .real (if negative then -x else x)

def number? (cs : List Char) : Option (Number × List Char) := do
  let (negative, cs) :=
    match cs with
    | '-' :: cs => (true, cs)
    | cs => (false, cs)
  let (whole, cs) := digits cs
  if whole.isEmpty ∨ (whole.head? = some '0' ∧ 1 < whole.length) then none
  else
    let (fraction, cs) ← fraction? cs
    let (exponent, cs) ← exponent? cs
    let n ← assemble? negative whole fraction exponent
    return (n, cs)

/-! ### Values -/

mutual

/-- A value at the front, after blanks, in which `room` containers may still be opened. -/
def value? (room : Nat) : Nat → List Char → Option (Json × List Char)
  | 0, _ => none
  | fuel + 1, cs =>
    match skipBlanks cs with
    | '"' :: cs => (stringBody cs).map fun (s, rest) => (.string (String.ofList s), rest)
    | '[' :: cs =>
      match room, skipBlanks cs with
      | 0, _ => none
      | _ + 1, ']' :: cs => some (.array [], cs)
      | room + 1, cs => (items? room fuel cs).map fun (vs, rest) => (.array vs, rest)
    | '\x7b' :: cs =>
      match room, skipBlanks cs with
      | 0, _ => none
      | _ + 1, '\x7d' :: cs => some (.object [], cs)
      | room + 1, cs =>
        (fields? room fuel cs).map fun (fs, rest) => (.object (Entries.ofList fs), rest)
    | 'n' :: cs => (word? "ull".toList cs).map (null, ·)
    | 't' :: cs => (word? "rue".toList cs).map (bool true, ·)
    | 'f' :: cs => (word? "alse".toList cs).map (bool false, ·)
    | cs => (number? cs).map fun (n, rest) => (.number n, rest)

/-- The items of an array that has one, with what follows its bracket. -/
def items? (room : Nat) : Nat → List Char → Option (List Json × List Char)
  | 0, _ => none
  | fuel + 1, cs => do
    let (v, cs) ← value? room fuel cs
    match skipBlanks cs with
    | ']' :: cs => return ([v], cs)
    | ',' :: cs =>
      let (vs, rest) ← items? room fuel cs
      return (v :: vs, rest)
    | _ => none

/-- The fields of an object that has one, with what follows its brace. -/
def fields? (room : Nat) : Nat → List Char → Option (List (String × Json) × List Char)
  | 0, _ => none
  | fuel + 1, cs =>
    match skipBlanks cs with
    | '"' :: cs => do
      let (k, cs) ← stringBody cs
      match skipBlanks cs with
      | ':' :: cs =>
        let (v, cs) ← value? room fuel cs
        match skipBlanks cs with
        | '\x7d' :: cs => return ([(String.ofList k, v)], cs)
        | ',' :: cs =>
          let (fs, rest) ← fields? room fuel cs
          return ((String.ofList k, v) :: fs, rest)
        | _ => none
      | _ => none
    | _ => none

end

end Reader

/-- The value that a whole text stands for. -/
def parse? (s : String) : Option Json :=
  let cs := s.toList
  match Reader.value? Reader.depth (2 * cs.length + 2) cs with
  | some (v, rest) => if (Reader.skipBlanks rest).isEmpty then some v else none
  | none => none

end Till.Json
