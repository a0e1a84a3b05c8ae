import Till.FieldError

/-!
# Customers and sellers

Records of independent texts. A text that is missing or empty is not written.
-/

namespace Till

/-- The texts that are there and not empty. -/
def writtenTexts (texts : List (String × Option String)) : List (String × String) :=
  texts.filterMap fun t => (t.2.filter (· ≠ "")).map fun s => (t.1, s)

/-- The JSON fields of those texts. -/
def textFields (texts : List (String × Option String)) : List (String × Json) :=
  (writtenTexts texts).map fun t => (t.1, .string t.2)

/-- The string in a column that holds one. -/
def textAt : Option Json → Option String
  | some v => v.asString?
  | none => none

/-- Who receives a receipt. -/
structure Customer where
  account : Option String := none
  contact : Option String := none
  name : Option String := none
  inn : Option String := none
  birthdate : Option String := none
  citizenship : Option String := none
  documentCode : Option String := none
  documentData : Option String := none
  address : Option String := none
deriving DecidableEq, Repr

namespace Customer

/-- Keys and values in the order of the record. -/
def texts (c : Customer) : List (String × Option String) :=
  [("account", c.account), ("contact", c.contact), ("name", c.name), ("inn", c.inn),
    ("birthdate", c.birthdate), ("citizenship", c.citizenship), ("documentCode", c.documentCode),
    ("documentData", c.documentData), ("address", c.address)]

/-- No field would be written. -/
def isEmpty (c : Customer) : Bool :=
  c.texts.all fun t => t.2.all (· == "")

def fields (c : Customer) : List (String × Json) :=
  textFields c.texts

def toJson (c : Customer) : Json :=
  .object (Entries.ofList c.fields)

def columns : List Shape.Column :=
  (({} : Customer).texts).map fun t => .optionalText t.1

/-- The record with its texts in order. -/
def ofTexts : List (Option String) → Customer
  | [account, contact, name, inn, birthdate, citizenship, documentCode, documentData, address] =>
    ⟨account, contact, name, inn, birthdate, citizenship, documentCode, documentData, address⟩
  | _ => {}

def ofJson (v : Json) : Checked Customer := do
  let _ ← v.objectFor "customer"
  match Shape.columns? "Customer" columns v with
  | .ok found => return ofTexts (found.map textAt)
  | .error m => throw (.invalidFormat "customer" (.mismatch m))

end Customer

/-- Who issues a receipt. -/
structure Seller where
  email : Option String := none
deriving DecidableEq, Repr

namespace Seller

def fields (s : Seller) : List (String × Json) :=
  textFields [("email", s.email)]

def toJson (s : Seller) : Json :=
  .object (Entries.ofList s.fields)

def ofJson (v : Json) : Checked Seller := do
  let _ ← v.objectFor "seller"
  match Shape.columns? "Seller" [.optionalText "email"] v with
  | .ok found => return ⟨textAt found.head?.join⟩
  | .error m => throw (.invalidFormat "seller" (.mismatch m))

end Seller
end Till
