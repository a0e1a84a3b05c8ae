import Till.FieldError

/-!
# Tokens

Closed sets of values that stand in records as short strings.
-/

namespace Till

/-- A closed set with one token for each of its values. -/
class Token (α : Type) where
  /-- The field that errors are reported for. -/
  field : String
  /-- Every value, in the order of the set. -/
  all : List α
  token : α → String

namespace Token
variable (α : Type) [Token α]

def tokens : List String :=
  (all : List α).map token

variable {α}

/-- The value with exactly this token. -/
def ofToken (s : String) : Checked α :=
  match (all : List α).find? (token · == s) with
  | some a => .ok a
  | none => .error (.notAllowed (field α) s (tokens α))

/-- The value that a string names. `null` names none, if there may be none. -/
def cast (v : Json) (nullable : Bool) : Checked (Option α) :=
  match v with
  | .string s => (ofToken s).map some
  | .null => if nullable then .ok none else .error (.required (field α))
  | v => .error (.invalidFormat (field α) (.notToken v))

/-- The value named in one of the forms of `Shape.variant?`. -/
def ofVariant (v : Json) : Except Mismatch α := do
  let name ← Shape.variant? (tokens α) v
  match (all : List α).find? (token · == name) with
  | some a => return a
  | none => throw (.unknownVariant name (tokens α))

def toJson (a : α) : Json :=
  .string (token a)

end Token

/-- A rate of value-added tax. Those with a leading 1 before the rate are contained in the price. -/
inductive Tax
  | no | vat0 | vat5 | vat105 | vat7 | vat107 | vat10 | vat110 | vat20 | vat120
deriving DecidableEq, Repr

namespace Tax

def token : Tax → String
  | no => "no"
  | vat0 => "vat0"
  | vat5 => "vat5"
  | vat105 => "vat105"
  | vat7 => "vat7"
  | vat107 => "vat107"
  | vat10 => "vat10"
  | vat110 => "vat110"
  | vat20 => "vat20"
  | vat120 => "vat120"

instance : Token Tax where
  field := "tax"
  all := [no, vat0, vat5, vat105, vat7, vat107, vat10, vat110, vat20, vat120]
  token := token

end Tax

/-- How a receipt is paid. -/
inductive PaymentType
  | cash | electronically
deriving DecidableEq, Repr

namespace PaymentType

def token : PaymentType → String
  | cash => "cash"
  | electronically => "electronically"

instance : Token PaymentType where
  field := "payment.type"
  all := [cash, electronically]
  token := token

end PaymentType

/-- The measure that the quantity of an item counts. -/
inductive MeasureUnit
  | piece | gram | kilogram | ton
  | centimeter | decimeter | meter
  | squareCentimeter | squareDecimeter | squareMeter
  | milliliter | liter | cubicMeter
  | kilowattHour | gkal
  | day | hour | minute | second
  | kilobyte | megabyte | gigabyte | terabyte
  | other
deriving DecidableEq, Repr

namespace MeasureUnit

def token : MeasureUnit → String
  | piece => "piece"
  | gram => "gram"
  | kilogram => "kilogram"
  | ton => "ton"
  | centimeter => "centimeter"
  | decimeter => "decimeter"
  | meter => "meter"
  | squareCentimeter => "square_centimeter"
  | squareDecimeter => "square_decimeter"
  | squareMeter => "square_meter"
  | milliliter => "milliliter"
  | liter => "liter"
  | cubicMeter => "cubic_meter"
  | kilowattHour => "kilowatt_hour"
  | gkal => "gkal"
  | day => "day"
  | hour => "hour"
  | minute => "minute"
  | second => "second"
  | kilobyte => "kilobyte"
  | megabyte => "megabyte"
  | gigabyte => "gigabyte"
  | terabyte => "terabyte"
  | other => "other"

instance : Token MeasureUnit where
  field := "unit"
  all := [piece, gram, kilogram, ton, centimeter, decimeter, meter, squareCentimeter,
    squareDecimeter, squareMeter, milliliter, liter, cubicMeter, kilowattHour, gkal, day, hour,
    minute, second, kilobyte, megabyte, gigabyte, terabyte, other]
  token := token

end MeasureUnit
end Till
