/-!
# Doubles as dyadic numbers

A finite double is `mantissa * 2 ^ exponent` with a sign. `nearest` goes the other way: the double
nearest to a quotient of naturals, a tie going to the even mantissa.
-/

namespace Till.Double

/-- The number `± mantissa * 2 ^ exponent`. -/
structure Dyadic where
  negative : Bool
  mantissa : Nat
  exponent : Int
deriving DecidableEq, Repr

namespace Dyadic

/-- The value of a finite double. -/
def ofFloat (x : Float) : Dyadic :=
  let bits := x.toBits.toNat
  let biased := bits / Nat.pow 2 52 % Nat.pow 2 11
  let fraction := bits % Nat.pow 2 52
  { negative := Nat.pow 2 63 ≤ bits
    mantissa := if biased = 0 then fraction else fraction + Nat.pow 2 52
    exponent := ((max biased 1 : Nat) : Int) - 1075 }

end Dyadic

/-- `num / den` to the nearest natural, a half to the even neighbour. -/
def roundDiv (num den : Nat) : Nat :=
  let q := num / den
  let twice := 2 * (num % den)
  if den < twice ∨ (twice = den ∧ q % 2 = 1) then q + 1 else q

/-- The bits of the double nearest to `num / den`, for a positive `den`. Too large a quotient gives
infinity. -/
def nearestBits (num den : Nat) : Nat :=
  if num = 0 then 0
  else
    let guess : Int := (num.log2 : Int) - den.log2 - 53
    let scaled (e : Int) : Nat × Nat := (num * Nat.pow 2 (-e).toNat, den * Nat.pow 2 e.toNat)
    let fits (e : Int) : Bool := (scaled e).1 < Nat.pow 2 53 * (scaled e).2
    let e := max (if fits guess then guess else guess + 1) (-1074)
    -- a mantissa that rounds up to `2 ^ 53` carries into the exponent field
    min (roundDiv (scaled e).1 (scaled e).2 + (e + 1074).toNat * Nat.pow 2 52) (2047 * Nat.pow 2 52)

def nearest (num den : Nat) : Float :=
  Float.ofBits (nearestBits num den).toUInt64

/-- The double nearest to an integer. -/
def ofInt (n : Int) : Float :=
  if n < 0 then -(nearest n.natAbs 1) else nearest n.natAbs 1

end Till.Double
