import Till.Operation.Factory

/-!
# Settings

How to reach the gateway, and the operator and customer that operations get by default. They are
kept as they were given; `validate` says whether they will do. The secret does not show in a
description.
-/

namespace Till

/-- An operator as given. -/
structure OperatorEntry where
  name : String
  inn : Option String
deriving DecidableEq, Repr

namespace OperatorEntry

def operator (o : OperatorEntry) : Result Operator :=
  Checked.lift (Operator.make o.name o.inn)

/-- The record as given, without the cleaning that an operator gets. -/
def toJson (o : OperatorEntry) : Json :=
  .object (Entries.ofList
    (("name", .string o.name) :: (o.inn.map fun i => ("inn", .string i)).toList))

end OperatorEntry

structure Settings where
  connection : Connection := ⟨"", "", ""⟩
  verifyTls : Bool := false
  operator : Option OperatorEntry := none
  customer : Option Customer := none
deriving DecidableEq, Repr

namespace Settings

/-- There has to be a host, and the operator has to be one if given. -/
def validate (s : Settings) : Result Unit :=
  if Text.isBlankText s.connection.host then .error (.invalidConfiguration .noHost)
  else
    match s.operator with
    | some o => o.operator.map fun _ => ()
    | none => .ok ()

/-- The operator, checked. -/
def operator? (s : Settings) : Result (Option Operator) :=
  match s.operator with
  | some o => o.operator.map some
  | none => .ok none

/-- The customer, unless nothing is known of one. -/
def customer? (s : Settings) : Option Customer :=
  s.customer.filter (!·.isEmpty)

/-- Operator and customer as a bulk record. -/
def defaults (s : Settings) : Fields :=
  .ofList
    ((s.operator.map fun o => ("operator", o.toJson)).toList ++
      (s.customer?.map fun c => ("customer", c.toJson)).toList)

def device (s : Settings) : Result Device :=
  Device.make s.connection

def server (s : Settings) : Server :=
  ⟨s.connection⟩

/-! ### Description -/

def operatorDescription (o : OperatorEntry) : String :=
  Text.record "OperatorSettings" [("name", Text.quoted o.name), ("inn", Text.quotedOption o.inn)]

def customerDescription (c : Customer) : String :=
  Text.record "Customer" [("account", Text.quotedOption c.account),
    ("contact", Text.quotedOption c.contact), ("name", Text.quotedOption c.name),
    ("inn", Text.quotedOption c.inn), ("birthdate", Text.quotedOption c.birthdate),
    ("citizenship", Text.quotedOption c.citizenship),
    ("document_code", Text.quotedOption c.documentCode),
    ("document_data", Text.quotedOption c.documentData), ("address", Text.quotedOption c.address)]

def description (s : Settings) : String :=
  Text.record "KkmConfig" [("connection", s.connection.describedAs "ConnectionSettings"),
    ("transport", Text.record "TransportSettings" [("verify_tls", toString s.verifyTls)]),
    ("operator", Text.optional (s.operator.map operatorDescription)),
    ("customer", Text.optional (s.customer.map customerDescription))]

end Settings
end Till
