import Till.Limits
import Till.Token

/-!
# Items

One line of a receipt. An item that exists has passed the limits of its title, price and quantity.
-/

namespace Till

structure Item where
  title : String
  price : Float
  quantity : Float
  tax : Option Tax
  unit : Option MeasureUnit
  title_ok : Limits.checkTitle title = .ok ()
  price_ok : Limits.checkPrice price = .ok ()
  quantity_ok : Limits.checkQuantity quantity = .ok ()

namespace Item

/-- An item without tax and unit. The title is checked first, the quantity last. -/
def make (title : String) (price quantity : Float) : Checked Item :=
  match ht : Limits.checkTitle title with
  | .error e => .error e
  | .ok () =>
    match hp : Limits.checkPrice price with
    | .error e => .error e
    | .ok () =>
      match hq : Limits.checkQuantity quantity with
      | .error e => .error e
      | .ok () => .ok ⟨title, price, quantity, none, none, ht, hp, hq⟩

def withTax (i : Item) (tax : Option Tax) : Item :=
  { i with tax := tax }

def withUnit (i : Item) (unit : Option MeasureUnit) : Item :=
  { i with unit := unit }

/-- The token under a key. A missing key and `null` name none. -/
def tokenAt {α : Type} [Token α] (fs : List (String × Json)) (key : String) : Checked (Option α) :=
  match fs.lookup key with
  | some v => Token.cast v true
  | none => .ok none

/-- Reads an item from an object. Without a price it is out of range, without a quantity it is
one. -/
def ofJson (v : Json) : Checked Item := do
  let fs ← v.objectFor "item"
  let title ← Json.requiredString fs "title" "title"
  let price ← Json.floatOr fs "price" 0
  let quantity ← Json.floatOr fs "quantity" 1
  let item ← make title price quantity
  let tax ← tokenAt fs "tax"
  let unit ← tokenAt fs "unit"
  return (item.withTax tax).withUnit unit

/-- The fields that are written, in the order of the record. -/
def fields (i : Item) : List (String × Json) :=
  [("title", .string i.title), ("price", .ofFloat i.price), ("quantity", .ofFloat i.quantity)] ++
    (i.tax.map fun t => ("tax", Token.toJson t)).toList ++
    (i.unit.map fun u => ("unit", Token.toJson u)).toList

def toJson (i : Item) : Json :=
  .object (Entries.ofList i.fields)

end Item
end Till
