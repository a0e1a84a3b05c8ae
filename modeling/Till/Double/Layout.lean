import Till.Double.Shortest

/-!
# Writing doubles

`Layout` holds the decisions of a written form: which exponents stand positionally, whether a whole
number keeps a point, what the values without digits are called. `tenths` writes one decimal place,
rounded on the exact value.
-/

namespace Till.Double

/-- Digits with a point among them and no exponent. A whole number gets `.0` if `wholePoint`
holds. -/
def Decimal.positional (d : Decimal) (wholePoint : Bool) : List Char :=
  if 0 ≤ d.exponent then
    d.chars ++ List.replicate d.exponent.toNat '0' ++ if wholePoint then ['.', '0'] else []
  else if 0 < d.point then
    d.chars.take d.point.toNat ++ '.' :: d.chars.drop d.point.toNat
  else
    '0' :: '.' :: List.replicate (-d.point).toNat '0' ++ d.chars

/-- One digit before the point and a signed exponent. -/
def Decimal.scientific (d : Decimal) : List Char :=
  let e := d.point - 1
  let mantissa :=
    match d.chars with
    | [] => []
    | [c] => [c]
    | c :: cs => c :: '.' :: cs
  mantissa ++ 'e' :: (if e < 0 then '-' else '+') :: Nat.toDigits 10 e.natAbs

structure Layout where
  tie : Tie
  /-- Which exponents of the leading digit are written without an exponent. -/
  positional : Int → Bool
  /-- Whole numbers are written with `.0`. -/
  wholePoint : Bool
  nan : String
  infinity : String
  minusInfinity : String

namespace Layout

def write (l : Layout) (x : Float) : String :=
  if x.isNaN then l.nan
  else if x.isInf then if x < 0 then l.minusInfinity else l.infinity
  else
    let d := Dyadic.ofFloat x
    let sign := if d.negative then ['-'] else []
    if d.mantissa = 0 then String.ofList (sign ++ (Decimal.mk 0 0).positional l.wholePoint)
    else
      let s := shortest l.tie d
      String.ofList
        (sign ++ if l.positional (s.point - 1) then s.positional l.wholePoint else s.scientific)

end Layout

/-- A finite double with one decimal place. A half on the exact value goes to the even digit, and a
negative number that rounds to zero keeps its sign. -/
def tenths (x : Float) : String :=
  let d := Dyadic.ofFloat x
  let n := roundDiv (d.mantissa * 10 * Nat.pow 2 d.exponent.toNat) (Nat.pow 2 (-d.exponent).toNat)
  let sign := if d.negative then ['-'] else []
  String.ofList (sign ++ Nat.toDigits 10 (n / 10) ++ '.' :: Nat.toDigits 10 (n % 10))

end Till.Double
