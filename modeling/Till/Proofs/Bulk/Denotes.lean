import Mathlib.Data.List.Forall2
import Till.Proofs.Bulk.Call

/-!
# What the values of a bulk record denote

The calls of typed setters that a value of a bulk record stands for, told from the form of the value:
which keys of an object count, what may be missing and what it then is. Nothing here is checked:
a call that is denoted may still be refused by its setter.
-/

namespace Till

namespace Json
variable {α : Type}

/-- A number stands for a double; a whole number for the nearest one. -/
inductive AsNumber : Json → Float → Prop
  | of (n : Number) : AsNumber (.number n) n.toFloat

inductive AsString : Json → String → Prop
  | of (s : String) : AsString (.string s) s

inductive AsBool : Json → Bool → Prop
  | of (b : Bool) : AsBool (.bool b) b

/-- A value of a closed set stands as its token. -/
inductive AsToken [Token α] : Json → α → Prop
  | of (a : α) : AsToken (.string (Token.token a)) a

/-- A value that may be missing; `null` counts as missing. -/
inductive AsOption (R : Json → α → Prop) : Option Json → Option α → Prop
  | missing : AsOption R none none
  | null : AsOption R (some .null) none
  | given {v : Json} {a : α} (h : R v a) : AsOption R (some v) (some a)

/-- A text of a record of texts. Should its key repeat, every value under it has to be a text or
`null`, and the first one counts. -/
def TextUnder (fs : List (String × Json)) (key : String) (o : Option String) : Prop :=
  (∀ f ∈ fs, f.1 = key → f.2 = .null ∨ ∃ s, f.2 = .string s) ∧ AsOption AsString (fs.lookup key) o

end Json

open Json

/-! ### Records -/

/-- Without a price an item costs nothing, without a quantity there is one. -/
inductive Item.Denotes : Json → Item → Prop
  | of {fs : List (String × Json)} {title : String} {price quantity : Option Float}
      {tax : Option Tax} {unit : Option MeasureUnit} {item : Item}
      (htitle : fs.lookup "title" = some (.string title))
      (hprice : AsOption AsNumber (fs.lookup "price") price)
      (hquantity : AsOption AsNumber (fs.lookup "quantity") quantity)
      (htax : AsOption AsToken (fs.lookup "tax") tax)
      (hunit : AsOption AsToken (fs.lookup "unit") unit)
      (hitem : Item.make title (price.getD 0) (quantity.getD 1) = .ok item) :
      Denotes (.object fs) ((item.withTax tax).withUnit unit)

inductive Customer.Denotes : Json → Customer → Prop
  | of {fs : List (String × Json)} {c : Customer}
      (htexts : ∀ t ∈ c.texts, TextUnder fs t.1 t.2) : Denotes (.object fs) c

/-- The number and texts of an electronic payment, by key or in order. -/
inductive ElectronicInfo.Denotes : Json → ElectronicInfo → Prop
  | object {fs : List (String × Json)} {i : ElectronicInfo}
      (hmethods : ∀ f ∈ fs, f.1 = "method" →
        ∃ n : Int, f.2 = .number (.int n) ∧ 0 ≤ n ∧ n < UInt32.size)
      (hmethod : fs.lookup "method" = some (.number (.int i.method.toNat)))
      (hids : ∀ f ∈ fs, f.1 = "id" → ∃ s, f.2 = .string s)
      (hid : fs.lookup "id" = some (.string i.id))
      (haddInfo : TextUnder fs "addInfo" i.addInfo) : Denotes (.object fs) i
  | array {i : ElectronicInfo} {addInfo : Option Json}
      (haddInfo : AsOption AsString addInfo i.addInfo) :
      Denotes (.array (.number (.int i.method.toNat) :: .string i.id :: addInfo.toList)) i

/-- A sum of a payment: a number, or none for `"auto"` as well. -/
inductive Payment.SumDenotes : Option Json → Option Float → Prop
  | missing : SumDenotes none none
  | null : SumDenotes (some .null) none
  | auto : SumDenotes (some (.string "auto")) none
  | amount (n : Number) : SumDenotes (some (.number n)) (some n.toFloat)

/-- A bare text, no text, or an object with a content and its format. -/
inductive TextBlock.Denotes : Json → TextBlock → Prop
  | string (s : String) : Denotes (.string s) (make s false false false)
  | null : Denotes .null (make "" false false false)
  | object {fs : List (String × Json)} {content : Option String}
      {center magnified separated : Option Bool}
      (hcontent : AsOption AsString (fs.lookup "content") content)
      (hcenter : AsOption AsBool (fs.lookup "center") center)
      (hmagnified : AsOption AsBool (fs.lookup "magnified") magnified)
      (hseparated : AsOption AsBool (fs.lookup "separated") separated) :
      Denotes (.object fs)
        (make (content.getD "") (center.getD false) (magnified.getD false) (separated.getD false))

/-- An object that is marked as a separator is one, whatever else it says. -/
inductive DocumentBlock.Denotes : Json → DocumentBlock → Prop
  | separator {fs : List (String × Json)} (h : fs.lookup "separator" = some (.bool true)) :
      Denotes (.object fs) .separator
  | text {v : Json} {b : TextBlock}
      (hno : ∀ fs, v = .object fs → fs.lookup "separator" ≠ some (.bool true))
      (h : TextBlock.Denotes v b) : Denotes v (.text b)

/-! ### Slots -/

/-- The calls that a value under a slot stands for. -/
inductive Slot.Denotes : Slot → Json → List Call → Prop
  | operator {fs : List (String × Json)} {name : String} {inn : Option String}
      (hname : fs.lookup "name" = some (.string name))
      (hinn : AsOption AsString (fs.lookup "inn") inn) :
      Denotes .operator (.object fs) [.set (.operator name inn)]
  | cashSum {v : Json} {x : Float} (h : AsNumber v x) : Denotes .cashSum v [.set (.cashSum x)]
  | items {vs : List Json} {is : List Item} (h : List.Forall₂ Item.Denotes vs is) :
      Denotes .items (.array vs) (is.map fun i => .set (.pushItem i))
  | tax {v : Json} {t : Tax} (h : AsToken v t) : Denotes .tax v [.set (.tax (.value t))]
  | noTax : Denotes .tax .null [.clearTax]
  | payment {fs : List (String × Json)} {type : PaymentType} {sum : Option Float}
      (htype : fs.lookup "type" = some (.string (Token.token type)))
      (hsum : Payment.SumDenotes (fs.lookup "sum") sum)
      (hinfo : AsOption ElectronicInfo.Denotes (fs.lookup "electroPaymentInfo") none) :
      Denotes .payment (.object fs) [.set (.payment (.value type) sum)]
  | paymentRecord {fs : List (String × Json)} {type : PaymentType} {sum : Option Float}
      {p : Payment} {i : ElectronicInfo}
      (htype : fs.lookup "type" = some (.string (Token.token type)))
      (hsum : Payment.SumDenotes (fs.lookup "sum") sum) (hp : Payment.make type sum = .ok p)
      (hinfo : AsOption ElectronicInfo.Denotes (fs.lookup "electroPaymentInfo") (some i)) :
      Denotes .payment (.object fs) [.set (.paymentRecord (p.withInfo (some i)))]
  | customer {v : Json} {c : Customer} (h : Customer.Denotes v c) :
      Denotes .customer v [.set (.customerRecord c)]
  | seller {fs : List (String × Json)} {email : Option String} (h : TextUnder fs "email" email) :
      Denotes .seller (.object fs) [.set (.sellerEmail (email.getD ""))]
  | text {slot : TextSlot} {v : Json} {b : TextBlock} (h : TextBlock.Denotes v b) :
      Denotes (.text slot) v [.set (.text slot b)]
  | flag {f : Flag} {v : Json} {b : Bool} (h : AsBool v b) :
      Denotes (.flag f) v [.set (.flag f b)]
  | document {vs : List Json} {bs : List DocumentBlock}
      (h : List.Forall₂ DocumentBlock.Denotes vs bs) :
      Denotes .document (.array vs) (bs.map fun b => .set (.documentBlock b))
  | connParams {v : Json} {s : String} (h : AsString v s) :
      Denotes .connParams v [.set (.connParams s)]

/-! ### Entries and records -/

/-- The calls that an entry stands for, by its key in lower case. -/
inductive Kind.Denotes (k : Kind) : String → Json → List Call → Prop
  | skipped {key : String} {v : Json} (hkey : Text.lower key = "details") : Denotes k key v []
  | pin {key : String} {v : Json} {pin : Option String}
      (hkey : Text.lower key = "idempotencykey") (h : AsOption AsString (some v) pin) :
      Denotes k key v [.key pin]
  | padding {key : String} {v : Json} {s : String} (hkey : Text.lower key = "padding")
      (h : AsString v s) : Denotes k key v [.set (.padding s)]
  | slot {key : String} {v : Json} {s : Slot} {calls : List Call} (hs : s ∈ k.slots)
      (hkey : Text.lower key = s.foldedKey) (h : s.Denotes v calls) : Denotes k key v calls

/-- The calls that entries stand for, one entry after another. -/
inductive Kind.DenotesAll (k : Kind) : List (String × Json) → List Call → Prop
  | nil : DenotesAll k [] []
  | cons {key : String} {v : Json} {l : List (String × Json)} {calls calls' : List Call}
      (h : k.Denotes key v calls) (hl : DenotesAll k l calls') :
      DenotesAll k ((key, v) :: l) (calls ++ calls')

end Till
