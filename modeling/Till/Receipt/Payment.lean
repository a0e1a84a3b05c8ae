import Till.Limits
import Till.Receipt.Party
import Till.Token

/-!
# Payments

How a receipt is paid and how much; without a sum the device takes the total of the receipt.
-/

namespace Till

inductive PaymentSum
  | auto
  | amount (x : Float)
deriving Repr

namespace PaymentSum

def ofOption : Option Float → PaymentSum
  | some x => amount x
  | none => auto

def toJson : PaymentSum → Json
  | auto => .string "auto"
  | amount x => .ofFloat x

def check : PaymentSum → Checked Unit
  | auto => .ok ()
  | amount x => Limits.checkPaymentSum x

end PaymentSum

/-- How an electronic payment was made, and its number. -/
structure ElectronicInfo where
  method : UInt32
  id : String
  addInfo : Option String := none
deriving DecidableEq, Repr

namespace ElectronicInfo

/-- The number is within what is read back. -/
theorem method_bounds (i : ElectronicInfo) :
    0 ≤ (i.method.toNat : Int) ∧ (i.method.toNat : Int) < UInt32.size :=
  ⟨Int.natCast_nonneg _, Int.ofNat_lt.2 i.method.toNat_lt_size⟩

def fields (i : ElectronicInfo) : List (String × Json) :=
  [("method", .number (.int i.method.toNat)), ("id", .string i.id)] ++
    textFields [("addInfo", i.addInfo)]

def columns : List Shape.Column :=
  [.word "method" true, .text "id" true, .optionalText "addInfo"]

/-- The record from values that fit the columns. -/
def ofColumns : List (Option Json) → ElectronicInfo
  | [some (.number (.int n)), some (.string id), info] => ⟨n.toNat.toUInt32, id, textAt info⟩
  | _ => ⟨0, "", none⟩

def ofJson (v : Json) : Checked ElectronicInfo :=
  match Shape.columns? "ElectroPaymentInfo" columns v with
  | .ok found => .ok (ofColumns found)
  | .error m => .error (.invalidFormat "payment.electroPaymentInfo" (.mismatch m))

end ElectronicInfo

structure Payment where
  type : PaymentType
  sum : PaymentSum
  info : Option ElectronicInfo
  sum_ok : sum.check = .ok ()

namespace Payment

def make (type : PaymentType) (sum : Option Float) : Checked Payment :=
  match h : (PaymentSum.ofOption sum).check with
  | .error e => .error e
  | .ok () => .ok ⟨type, .ofOption sum, none, h⟩

def withInfo (p : Payment) (info : Option ElectronicInfo) : Payment :=
  { p with info := info }

/-- The sum under its key: a number, or none for `"auto"`, `null` and a missing key. -/
def sumAt (fs : List (String × Json)) : Checked (Option Float) :=
  match Json.present? fs "sum" with
  | none => .ok none
  | some (.number n) => .ok (some n.toFloat)
  | some v =>
    if v.asString? = some "auto" then .ok none else .error (.unexpected "payment.sum" .numberOrAuto)

def typeAt (fs : List (String × Json)) : Checked PaymentType := do
  match ← Token.cast ((fs.lookup "type").getD .null) false with
  | some t => return t
  | none => throw (.required (Token.field PaymentType))

def ofJson (v : Json) : Checked Payment := do
  let fs ← v.objectFor "payment"
  let type ← typeAt fs
  let sum ← sumAt fs
  let payment ← make type sum
  match Json.present? fs "electroPaymentInfo" with
  | some i => return payment.withInfo (some (← ElectronicInfo.ofJson i))
  | none => return payment

/-- The fields in the order of the record, for a way of writing the inner record's fields. -/
def fields (p : Payment) (inner : List (String × Json) → Json) : List (String × Json) :=
  [("type", Token.toJson p.type), ("sum", p.sum.toJson)] ++
    (p.info.map fun i => ("electroPaymentInfo", inner i.fields)).toList

def toJson (p : Payment) : Json :=
  .object (Entries.ofList (p.fields fun fs => .object (Entries.ofList fs)))

end Payment
end Till
