import Till.Receipt.Item
import Till.Receipt.Operator
import Till.Receipt.Party
import Till.Receipt.Payment
import Till.Receipt.TextBlock

/-!
# Details

The JSON object that a mutating operation sends. Most writes replace the value of their key; items
and document blocks are appended to a list, and a customer is merged field by field. What stands
under a key in another form than its writer's gives way to the writer. Where arguments are checked
on the way the change is an `Update`, which leaves details even when it fails.
-/

namespace Till

structure Details where
  fields : Fields

namespace Details

def empty : Details :=
  ⟨.empty⟩

instance : Inhabited Details := ⟨empty⟩

def ofList (l : List (String × Json)) : Details :=
  ⟨.ofList l⟩

def get? (d : Details) (key : String) : Option Json :=
  d.fields.get? key

def insert (d : Details) (key : String) (v : Json) : Details :=
  ⟨d.fields.insert key v⟩

def erase (d : Details) (key : String) : Details :=
  ⟨d.fields.erase key⟩

def toJson (d : Details) : Json :=
  d.fields.toJson

/-- The body of a request. -/
def text (d : Details) : String :=
  d.fields.text

theorem ext_get? {d e : Details} (h : ∀ k, d.get? k = e.get? k) : d = e :=
  congrArg mk (Fields.ext_get? h)

@[simp] theorem get?_empty (k : String) : empty.get? k = none := rfl

@[simp] theorem get?_insert (d : Details) (k k' : String) (v : Json) :
    (d.insert k v).get? k' = if k' = k then some v else d.get? k' :=
  Fields.get?_insert ..

@[simp] theorem get?_erase (d : Details) (k k' : String) :
    (d.erase k).get? k' = if k' = k then none else d.get? k' :=
  Fields.get?_erase ..

/-! ### Lists -/

/-- The list under a key, empty if something else or nothing is there. -/
def listAt (d : Details) (key : String) : List Json :=
  match d.get? key with
  | some (.array vs) => vs
  | _ => []

def append (d : Details) (key : String) (v : Json) : Details :=
  d.insert key (.array (d.listAt key ++ [v]))

def items (d : Details) : List Json :=
  d.listAt "items"

def pushItem (d : Details) (i : Item) : Details :=
  d.append "items" i.toJson

def pushDocumentBlock (d : Details) (b : DocumentBlock) : Details :=
  d.append "document" b.toJson

/-! ### Records and values -/

def setOperator (d : Details) (o : Operator) : Details :=
  d.insert "operator" o.toJson

/-- Sets the texts of a customer one by one and leaves those it does not have alone. -/
def mergeCustomer (d : Details) (c : Customer) : Details :=
  if c.fields.isEmpty then d
  else
    match d.get? "customer" with
    | some (.object fs) => d.insert "customer" (.object (Entries.insertAll fs c.fields))
    | _ => d.insert "customer" c.toJson

def setSeller (d : Details) (s : Seller) : Details :=
  d.insert "seller" s.toJson

def setPayment (d : Details) (p : Payment) : Details :=
  d.insert "payment" p.toJson

def setTax (d : Details) (t : Tax) : Details :=
  d.insert "tax" (Token.toJson t)

def clearTax (d : Details) : Details :=
  d.erase "tax"

/-- Writes a text, or clears its place if there is no content. -/
def setText (d : Details) (slot : TextSlot) (b : TextBlock) : Details :=
  if b.isEmpty then d.erase slot.key else d.insert slot.key b.toJson

def setFlag (d : Details) (key : String) (b : Bool) : Details :=
  d.insert key (.bool b)

def setConnParams (d : Details) (s : String) : Details :=
  d.insert "connParams" (.string s)

def setPadding (d : Details) (s : String) : Details :=
  d.insert "*padding*" (.string s)

end Details

/-! ### Updates -/

/-- A change of details that can be refused on its way. What it has written by then stays. -/
abbrev Update :=
  ExceptT FieldError (StateM Details)

namespace Update

/-- The details that an update leaves, and its verdict. -/
def on (u : Update Unit) (d : Details) : Details × Checked Unit :=
  (u.run.run d).swap

@[simp] theorem on_modify (f : Details → Details) (d : Details) :
    (modify f : Update Unit).on d = (f d, .ok ()) := rfl

def pushItems (is : List Item) : Update Unit :=
  is.forM fun i => modify (·.pushItem i)

def pushDocumentBlocks (bs : List DocumentBlock) : Update Unit :=
  bs.forM fun b => modify (·.pushDocumentBlock b)

def setCashSum (x : Float) : Update Unit := do
  Limits.checkCashSum x
  modify (·.insert "cashSum" (.ofFloat x))

end Update
end Till
