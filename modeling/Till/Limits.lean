import Till.FieldError
import Till.Text.Trim

/-!
# Limits of fields

The ranges are closed, and what is not a number lies in none of them.
-/

namespace Till

/-- The doubles from `low` to `high`. -/
structure Range where
  low : Float
  high : Float
deriving Repr

namespace Range

def contains (r : Range) (x : Float) : Bool :=
  r.low ≤ x && x ≤ r.high

def check (r : Range) (field : String) (x : Float) : Checked Unit :=
  if r.contains x then .ok () else .error (.outOfRange field r.low r.high x)

end Range

namespace Limits

def titleMin : Nat := 1
def titleMax : Nat := 200
def price : Range := ⟨0.01, 999999.99⟩
def quantity : Range := ⟨0.001, 999999.999⟩
def cashSum : Range := ⟨0.01, 999999.99⟩

/-- A title is counted in characters, not in bytes. -/
def checkTitle (title : String) : Checked Unit :=
  if title.length < titleMin then .error (.tooShort "title" titleMin)
  else if titleMax < title.length then .error (.tooLong "title" titleMax)
  else .ok ()

def checkPrice (x : Float) : Checked Unit :=
  price.check "price" x

def checkQuantity (x : Float) : Checked Unit :=
  quantity.check "quantity" x

def checkCashSum (x : Float) : Checked Unit :=
  cashSum.check "cashSum" x

/-- A sum that is given has to be a number that can be written. -/
def checkPaymentSum (x : Float) : Checked Unit :=
  if x.isFinite then .ok () else .error (.invalidFormat "payment.sum" .notFinite)

/-- The name without blanks around it. -/
def operatorName (name : String) : Checked String :=
  if Text.isBlankText name then .error (.required "operator.name") else .ok (Text.trim name)

end Limits
end Till
