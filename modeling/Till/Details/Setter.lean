import Till.Details.Slot

/-!
# Setters

The single writes that a caller may make, with their arguments. A setter checks what it is given and
then writes its one slot.
-/

namespace Till

/-- A value of a closed set, given as such or by its token. -/
inductive Named (α : Type)
  | value (a : α)
  | token (s : String)
deriving Repr

def Named.resolve {α : Type} [Token α] : Named α → Checked α
  | value a => .ok a
  | token s => Token.ofToken s

inductive Setter
  | operator (name : String) (inn : Option String)
  | operatorRecord (o : Operator)
  | cashSum (x : Float)
  | addItem (title : String) (price quantity : Float)
  | addTaxedItem (title : String) (price quantity : Float) (tax : Named Tax)
  | pushItem (i : Item)
  | pushItems (is : List Item)
  | tax (t : Named Tax)
  | payment (type : Named PaymentType) (sum : Option Float)
  | paymentRecord (p : Payment)
  | customer (account contact name : Option String)
  | customerRecord (c : Customer)
  | sellerEmail (email : String)
  | text (slot : TextSlot) (b : TextBlock)
  | flag (f : Flag) (b : Bool)
  | documentBlock (b : DocumentBlock)
  | connParams (s : String)
  | padding (s : String)

namespace Setter

/-- The slot that is written. Padding has no slot: every mutating operation takes it. -/
def slot : Setter → Option Slot
  | operator .. => some .operator
  | operatorRecord _ => some .operator
  | cashSum _ => some .cashSum
  | addItem .. => some .items
  | addTaxedItem .. => some .items
  | pushItem _ => some .items
  | pushItems _ => some .items
  | tax _ => some .tax
  | payment .. => some .payment
  | paymentRecord _ => some .payment
  | customer .. => some .customer
  | customerRecord _ => some .customer
  | sellerEmail _ => some .seller
  | text slot _ => some (.text slot)
  | flag f _ => some (.flag f)
  | documentBlock _ => some .document
  | connParams _ => some .connParams
  | padding _ => none

def apply (s : Setter) : Update Unit := do
  match s with
  | operator name inn =>
    let o ← Operator.make name inn
    modify (·.setOperator o)
  | operatorRecord o => modify (·.setOperator o)
  | cashSum x => Update.setCashSum x
  | addItem title price quantity =>
    let item ← Item.make title price quantity
    modify (·.pushItem item)
  | addTaxedItem title price quantity named =>
    let rate ← named.resolve
    let item ← Item.make title price quantity
    modify (·.pushItem (item.withTax (some rate)))
  | pushItem i => modify (·.pushItem i)
  | pushItems is => Update.pushItems is
  | tax named =>
    let t ← named.resolve
    modify (·.setTax t)
  | payment named sum =>
    let type ← named.resolve
    let p ← Payment.make type sum
    modify (·.setPayment p)
  | paymentRecord p => modify (·.setPayment p)
  | customer account contact name => modify (·.mergeCustomer { account, contact, name })
  | customerRecord c => modify (·.mergeCustomer c)
  | sellerEmail email => modify (·.setSeller ⟨some email⟩)
  | text slot b => modify (·.setText slot b)
  | flag f b => modify (·.setFlag f.key b)
  | documentBlock b => modify (·.pushDocumentBlock b)
  | connParams s => modify (·.setConnParams s)
  | padding s => modify (·.setPadding s)

end Setter
end Till
