import Till.Double.Dyadic

/-!
# The shortest decimal of a double

The reals that round to a positive double form an interval around it, with its ends if the
mantissa is even. `shortest` looks for a point of a decimal grid in that interval, on ever finer
grids. A grid with a point in the interval has one next to the double, so the two neighbours are
all it tests.
-/

namespace Till.Double

/-- Which of two equally near decimals is taken. -/
inductive Tie
  | toEven
  | up
deriving DecidableEq, Repr

/-- The number `digits * 10 ^ exponent`. -/
structure Decimal where
  digits : Nat
  exponent : Int
deriving DecidableEq, Repr

namespace Decimal

/-- The digits, most significant first. -/
def chars (d : Decimal) : List Char :=
  Nat.toDigits 10 d.digits

/-- How many digits stand before the point. -/
def point (d : Decimal) : Int :=
  d.chars.length + d.exponent

/-- The same number without zeros at the end of its digits. -/
def trimZeros (d : Decimal) : Decimal :=
  if h : d.digits ≠ 0 ∧ d.digits % 10 = 0 then trimZeros ⟨d.digits / 10, d.exponent + 1⟩ else d
termination_by d.digits
decreasing_by exact Nat.div_lt_self (Nat.pos_of_ne_zero h.1) (by decide)

end Decimal

/-- A positive double over a common denominator, with the ends of the interval that rounds to it. -/
structure Interval where
  low : Nat
  value : Nat
  high : Nat
  den : Nat
  closed : Bool
deriving DecidableEq, Repr

namespace Interval

/-- The interval of a dyadic with a positive mantissa, in quarters of its last place. Below a power
of two the neighbour is only half as far. -/
def ofDyadic (d : Dyadic) : Interval :=
  let unit := Nat.pow 2 (d.exponent - 2).toNat
  let atPower := d.mantissa = Nat.pow 2 52 ∧ d.exponent ≠ -1074
  { low := (4 * d.mantissa - if atPower then 1 else 2) * unit
    value := 4 * d.mantissa * unit
    high := (4 * d.mantissa + 2) * unit
    den := Nat.pow 2 (2 - d.exponent).toNat
    closed := d.mantissa % 2 = 0 }

/-- The interval divided by `10 ^ k`. -/
def shift (i : Interval) (k : Int) : Interval :=
  let up := Nat.pow 10 (-k).toNat
  { i with
    low := i.low * up
    value := i.value * up
    high := i.high * up
    den := i.den * Nat.pow 10 k.toNat }

def holds (i : Interval) (n : Nat) : Bool :=
  let x := n * i.den
  (i.low < x && x < i.high) || (i.closed && (x == i.low || x == i.high))

/-- The whole number next to the value that lies in the interval, the nearer one if both do. -/
def whole? (i : Interval) (tie : Tie) : Option Nat :=
  let below := i.value / i.den
  let twice := 2 * (i.value % i.den)
  let upper :=
    i.den < twice || (twice == i.den && (tie == .up || below % 2 == 1))
  match i.holds below, i.holds (below + 1) with
  | true, true => some (if upper then below + 1 else below)
  | true, false => some below
  | false, true => some (below + 1)
  | false, false => none

/-- The exponent of the value's leading decimal digit. -/
def leading (i : Interval) : Int :=
  if i.den ≤ i.value then ((Nat.toDigits 10 (i.value / i.den)).length : Int) - 1
  else -((Nat.toDigits 10 ((i.den - 1) / i.value)).length : Int)

end Interval

/-- The first decimal found on the grids `10 ^ k, 10 ^ (k - 1), …`; the last grid is taken as it
is. -/
def search (i : Interval) (tie : Tie) (k : Int) : Nat → Decimal
  | 0 => ⟨(i.shift k).value / (i.shift k).den, k⟩
  | n + 1 =>
    match (i.shift k).whole? tie with
    | some digits => ⟨digits, k⟩
    | none => search i tie (k - 1) n

/-- The shortest decimal that rounds to a dyadic with a positive mantissa. Seventeen digits always
suffice. -/
def shortest (tie : Tie) (d : Dyadic) : Decimal :=
  let i := Interval.ofDyadic d
  (search i tie i.leading 17).trimZeros

end Till.Double
