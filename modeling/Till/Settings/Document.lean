import Till.Settings.Basic
import Till.Toml.Document
import Till.Toml.Section

/-!
# Settings as a TOML document

A table for each part: `connection`, `transport`, `operator` and `customer`. Parts and texts that
are missing get their defaults, but an operator must have a name; other keys are ignored. Customer
texts that are missing or empty are not written.
-/

namespace Till.Settings

/-! ### Reading -/

/-- A text that is empty if it is missing. -/
def textOrEmpty? : Option Toml → Option String
  | none => some ""
  | some v => v.string?

/-- A text that may be missing. -/
def optionalText? : Option Toml → Option (Option String)
  | none => some none
  | some v => v.string?.map some

def connectionOf? : Option Toml → Option Connection
  | none => some ⟨"", "", ""⟩
  | some v =>
    match v.columns? ["host", "secret", "serial"] with
    | some [host, secret, serial] => do
      return ⟨← textOrEmpty? host, ← textOrEmpty? secret, ← textOrEmpty? serial⟩
    | _ => none

def verifyTlsOf? : Option Toml → Option Bool
  | none => some false
  | some v =>
    match v.columns? ["verify_tls"] with
    | some [none] => some false
    | some [some b] => b.boolean?
    | _ => none

def operatorOf? (v : Toml) : Option OperatorEntry :=
  match v.columns? ["name", "inn"] with
  | some [some name, inn] => do return ⟨← name.string?, ← optionalText? inn⟩
  | _ => none

def customerKeys : List String :=
  (({} : Customer).texts).map (·.1)

def customerOf? (v : Toml) : Option Customer := do
  let texts ← (← v.columns? customerKeys).mapM optionalText?
  return .ofTexts texts

/-- A part that may be missing. -/
def partOf? {α : Type} (of? : Toml → Option α) : Option Toml → Option (Option α)
  | none => some none
  | some v => (of? v).map some

def ofToml? (v : Toml) : Option Settings :=
  match v.columns? ["connection", "transport", "operator", "customer"] with
  | some [connection, transport, operator, customer] => do
    return {
      connection := ← connectionOf? connection
      verifyTls := ← verifyTlsOf? transport
      operator := ← partOf? operatorOf? operator
      customer := ← partOf? customerOf? customer }
  | _ => none

def parse (text : String) : Result Settings :=
  match (Toml.parse? text).bind ofToml? with
  | some s => .ok s
  | none => .error .unreadableConfig

/-! ### Writing -/

def connectionSection (c : Connection) : Toml.Section :=
  ⟨"connection", [("host", .string c.host), ("secret", .string c.secret),
    ("serial", .string c.serial)]⟩

def transportSection (verifyTls : Bool) : Toml.Section :=
  ⟨"transport", [("verify_tls", .boolean verifyTls)]⟩

def operatorSection (o : OperatorEntry) : Toml.Section :=
  ⟨"operator", ("name", .string o.name) :: (o.inn.map fun i => ("inn", .string i)).toList⟩

def customerSection (c : Customer) : Toml.Section :=
  ⟨"customer", (writtenTexts c.texts).map fun t => (t.1, .string t.2)⟩

def sections (s : Settings) : List Toml.Section :=
  connectionSection s.connection :: transportSection s.verifyTls ::
    ((s.operator.map operatorSection).toList ++ (s.customer.map customerSection).toList)

/-- The document of the settings. -/
def text (s : Settings) : String :=
  String.ofList (Toml.writtenSections s.sections)

/-- Where a document is to be stored. -/
inductive Place
  | free
  /-- Something else is in the way of its folder. -/
  | blocked
deriving DecidableEq, Repr

/-- The document that is stored. -/
def save (s : Settings) : Place → Result String
  | .free => .ok s.text
  | .blocked => .error .unwritableConfig

end Till.Settings
