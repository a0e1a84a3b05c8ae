import Till.Text.Digits
import Till.Toml.Basic

/-!
# Numbers, dates and truth values in TOML

A scalar is the longest run of the characters that scalars consist of. A date may be followed by
one space and a time. What the run is decides its form: whole numbers fit 64 bits, other numbers
are not too large for a double, dates are on the calendar.
-/

namespace Till.Toml

/-! ### Digits -/

def isOctalDigit (c : Char) : Bool :=
  '0' ≤ c && c ≤ '7'

def isBinaryDigit (c : Char) : Bool :=
  c == '0' || c == '1'

/-- Digits, between any two of which one underscore may stand. -/
def isDigits (isDigit : Char → Bool) : List Char → Bool
  | [] => false
  | [c] => isDigit c
  | c :: '_' :: cs => isDigit c && isDigits isDigit cs
  | c :: cs => isDigit c && isDigits isDigit cs

/-- What digits stand for, underscores left out. -/
def digitsValue (base : Nat) (cs : List Char) : Nat :=
  Text.numeral base (cs.filter (· ≠ '_'))

/-- The characters after a sign, if there is one. -/
def unsigned : List Char → List Char
  | '+' :: cs => cs
  | '-' :: cs => cs
  | cs => cs

/-! ### Numbers -/

/-- Decimal digits that do not start with a zero, or one zero. -/
def isWhole (cs : List Char) : Bool :=
  cs == ['0'] || (isDigits Char.isDigit cs && cs.head? != some '0')

def isInteger (cs : List Char) : Bool :=
  match cs with
  | '0' :: 'x' :: ds => isDigits Text.isHexDigit ds && digitsValue 16 ds < Nat.pow 2 63
  | '0' :: 'o' :: ds => isDigits isOctalDigit ds && digitsValue 8 ds < Nat.pow 2 63
  | '0' :: 'b' :: ds => isDigits isBinaryDigit ds && digitsValue 2 ds < Nat.pow 2 63
  | '-' :: ds => isWhole ds && digitsValue 10 ds ≤ Nat.pow 2 63
  | cs => isWhole (unsigned cs) && digitsValue 10 (unsigned cs) < Nat.pow 2 63

/-- From here on a number is too large for a double. -/
def doubleBound : Nat :=
  Nat.pow 2 1024 - Nat.pow 2 970

/-- The number `m * 10 ^ e` is too large for a double. -/
def isTooLarge (m : Nat) (e : Int) : Bool :=
  let magnitude := (Nat.toDigits 10 m).length + e
  if m = 0 ∨ magnitude < 300 then false
  else if 310 < magnitude then true
  else if 0 ≤ e then doubleBound ≤ m * Nat.pow 10 e.toNat
  else doubleBound * Nat.pow 10 (-e).toNat ≤ m

/-- The value of an exponent with its letter, zero if there is none. -/
def exponentValue : List Char → Int
  | _ :: '-' :: ds => -(digitsValue 10 ds)
  | _ :: ds => digitsValue 10 (unsigned ds)
  | [] => 0

/-- A number with a fraction, an exponent or both. It has a bound above only. -/
def isFractional (cs : List Char) : Bool :=
  let isMark (c : Char) : Bool := c == 'e' || c == 'E'
  let body := unsigned cs
  let mantissa := body.takeWhile (!isMark ·)
  let exponent := body.dropWhile (!isMark ·)
  let whole := mantissa.takeWhile (· != '.')
  let fraction := (mantissa.dropWhile (· != '.')).tail
  isWhole whole && !(mantissa == whole && exponent.isEmpty) &&
    (mantissa == whole || isDigits Char.isDigit fraction) &&
    (exponent.isEmpty || isDigits Char.isDigit (unsigned exponent.tail)) &&
    (cs.head? == some '-' ||
      !isTooLarge (digitsValue 10 (whole ++ fraction))
        (exponentValue exponent - (fraction.filter (· ≠ '_')).length))

def isSpecial (cs : List Char) : Bool :=
  unsigned cs == ['i', 'n', 'f'] || unsigned cs == ['n', 'a', 'n']

/-! ### Dates and times -/

/-- The number that `n` digits at the front stand for. -/
def fixed? (n : Nat) (cs : List Char) : Option (Nat × List Char) :=
  if n ≤ cs.length then (Text.decimal? (cs.take n)).map fun k => (k, cs.drop n) else none

/-- The characters after one at the front. -/
def after? (c : Char) : List Char → Option (List Char)
  | a :: cs => if a = c then some cs else none
  | [] => none

def isLeapYear (year : Nat) : Bool :=
  year % 4 == 0 && (year % 100 != 0 || year % 400 == 0)

def daysInMonth (year month : Nat) : Nat :=
  if month = 2 then (if isLeapYear year then 29 else 28)
  else if month ∈ [4, 6, 9, 11] then 30
  else 31

/-- What follows a date. -/
def afterDate? (cs : List Char) : Option (List Char) := do
  let (year, cs) ← fixed? 4 cs
  let (month, cs) ← (after? '-' cs).bind (fixed? 2)
  let (day, cs) ← (after? '-' cs).bind (fixed? 2)
  if 1 ≤ month ∧ month ≤ 12 ∧ 1 ≤ day ∧ day ≤ daysInMonth year month then some cs else none

/-- What follows hours and minutes. -/
def afterMinutes? (cs : List Char) : Option (List Char) := do
  let (hour, cs) ← fixed? 2 cs
  let (minute, cs) ← (after? ':' cs).bind (fixed? 2)
  if hour ≤ 23 ∧ minute ≤ 59 then some cs else none

/-- What follows a time; its seconds may have a fraction. -/
def afterTime? (cs : List Char) : Option (List Char) := do
  let cs ← afterMinutes? cs
  let (second, cs) ← (after? ':' cs).bind (fixed? 2)
  if 60 < second then none
  else
    match cs with
    | '.' :: cs =>
      if (cs.head?.map Char.isDigit) = some true then some (cs.dropWhile Char.isDigit) else none
    | cs => some cs

/-- A distance from universal time, or none. -/
def isOffset : List Char → Bool
  | [] => true
  | ['Z'] => true
  | ['z'] => true
  | '+' :: cs => afterMinutes? cs == some []
  | '-' :: cs => afterMinutes? cs == some []
  | _ => false

def isDate (cs : List Char) : Bool :=
  afterTime? cs == some [] ||
    match afterDate? cs with
    | none => false
    | some [] => true
    | some (c :: rest) =>
      (c == 'T' || c == 't' || c == ' ') &&
        match afterTime? rest with
        | some rest => isOffset rest
        | none => false

/-! ### Scalars -/

def isScalarChar (c : Char) : Bool :=
  c.isAlphanum || c == '+' || c == '-' || c == '.' || c == '_' || c == ':'

/-- The characters of a scalar at the front, with what follows them. -/
def scalarText (cs : List Char) : List Char × List Char :=
  let text := cs.takeWhile isScalarChar
  let rest := cs.dropWhile isScalarChar
  match rest with
  | ' ' :: d :: rest' =>
    if d.isDigit ∧ afterDate? text = some [] then
      (text ++ ' ' :: (d :: rest').takeWhile isScalarChar, (d :: rest').dropWhile isScalarChar)
    else (text, rest)
  | _ => (text, rest)

def ofScalarText? (text : List Char) : Option Toml :=
  if text = ['t', 'r', 'u', 'e'] then some (.boolean true)
  else if text = ['f', 'a', 'l', 's', 'e'] then some (.boolean false)
  else if isInteger text || isFractional text || isSpecial text then some .number
  else if isDate text then some .date
  else none

/-- A number, date or truth value at the front. -/
def scalar? (cs : List Char) : Option (Toml × List Char) :=
  let (text, rest) := scalarText cs
  (ofScalarText? text).map fun v => (v, rest)

end Till.Toml
