/-!
# Digits

The values of digits up to base 16, and numbers from digits. Nothing but ASCII digits counts.
-/

namespace Till.Text

/-- The value of a digit; letters of either case go on from nine. -/
def digit? (c : Char) : Option Nat :=
  if '0' ≤ c ∧ c ≤ '9' then some (c.toNat - 48)
  else if 'a' ≤ c ∧ c ≤ 'f' then some (c.toNat - 87)
  else if 'A' ≤ c ∧ c ≤ 'F' then some (c.toNat - 55)
  else none

def isHexDigit (c : Char) : Bool :=
  (digit? c).isSome

/-- What digits stand for in a base, the first one leading. -/
def numeral (base : Nat) (ds : List Char) : Nat :=
  ds.foldl (fun n c => base * n + (digit? c).getD 0) 0

/-- The number with hexadecimal digits and no others. -/
def hexNumber? (ds : List Char) : Option Nat :=
  if ds.all isHexDigit then some (numeral 16 ds) else none

/-- The number with decimal digits, of which there is at least one. -/
def decimal? (ds : List Char) : Option Nat :=
  if !ds.isEmpty && ds.all Char.isDigit then some (numeral 10 ds) else none

end Till.Text
