import Till.Details.Basic

/-!
# Slots

A slot is a place in the details that operations of some kinds have. `Slot.write` sets it from a
JSON value; a list is read to its end before anything is appended.
-/

namespace Till

/-- Slots that hold a truth value. -/
inductive Flag
  | cashOut | closeShift | electronically | cliche | footer | margin
deriving DecidableEq, Repr

def Flag.key : Flag → String
  | cashOut => "cashOut"
  | closeShift => "closeShift"
  | electronically => "electronically"
  | cliche => "cliche"
  | footer => "footer"
  | margin => "margin"

inductive Slot
  | operator
  | cashSum
  | items
  | tax
  | payment
  | customer
  | seller
  | text (s : TextSlot)
  | flag (f : Flag)
  | document
  | connParams
deriving DecidableEq, Repr

namespace Slot

/-- The key of the slot in the details. -/
def key : Slot → String
  | operator => "operator"
  | cashSum => "cashSum"
  | items => "items"
  | tax => "tax"
  | payment => "payment"
  | customer => "customer"
  | seller => "seller"
  | text s => s.key
  | flag f => f.key
  | document => "document"
  | connParams => "connParams"

/-- The key in lower case, by which a bulk record names the slot. -/
def foldedKey : Slot → String
  | cashSum => "cashsum"
  | text .header => "headertext"
  | text .footer => "footertext"
  | flag .cashOut => "cashout"
  | flag .closeShift => "closeshift"
  | connParams => "connparams"
  | s => s.key

/-- Sets the slot from a JSON value. -/
def write (s : Slot) (v : Json) : Update Unit := do
  match s with
  | operator =>
    let o ← Operator.ofJson v
    modify (·.setOperator o)
  | cashSum => Update.setCashSum (← v.floatFor "cashSum")
  | items =>
    let vs ← v.arrayFor "items"
    let is ← (vs.mapM Item.ofJson : Checked (List Item))
    Update.pushItems is
  | tax =>
    match ← (Token.cast v true : Checked (Option Tax)) with
    | some t => modify (·.setTax t)
    | none => modify (·.clearTax)
  | payment =>
    let p ← Payment.ofJson v
    modify (·.setPayment p)
  | customer =>
    let c ← Customer.ofJson v
    modify (·.mergeCustomer c)
  | seller =>
    let s ← Seller.ofJson v
    modify (·.setSeller s)
  | text slot =>
    let b ← TextBlock.ofJson slot.key v
    modify (·.setText slot b)
  | flag f =>
    let b ← v.boolFor f.key
    modify (·.setFlag f.key b)
  | document =>
    let vs ← v.arrayFor "document"
    let bs ← (vs.mapM DocumentBlock.ofJson : Checked (List DocumentBlock))
    Update.pushDocumentBlocks bs
  | connParams =>
    let s ← v.stringFor "connParams"
    modify (·.setConnParams s)

end Slot
end Till
