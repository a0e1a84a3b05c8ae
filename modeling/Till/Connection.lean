import Till.ClientError
import Till.Text.Quoted

/-!
# Connections

Host, shared secret and serial number. The secret never shows in the text of a connection.
-/

namespace Till

structure Connection where
  host : String
  secret : String
  serial : String
deriving DecidableEq, Repr

namespace Connection

def columns : List Shape.Column :=
  [.text "host" true, .text "secret" false, .text "serial" false]

/-- The text in a column, empty if there is none. -/
def columnText (v : Option Json) : String :=
  ((v.bind Json.asString?)).getD ""

def ofColumns : List (Option Json) → Connection
  | [host, secret, serial] => ⟨columnText host, columnText secret, columnText serial⟩
  | _ => ⟨"", "", ""⟩

def ofJson (v : Json) : Result Connection :=
  match Shape.columns? "ConnParams" columns v with
  | .ok found => .ok (ofColumns found)
  | .error m => .error (.invalidConfiguration (.connection m))

def withSerial (c : Connection) (serial : String) : Connection :=
  { c with serial := serial }

def fields (c : Connection) : List (String × Json) :=
  [("host", .string c.host), ("secret", .string c.secret), ("serial", .string c.serial)]

/-- The record `name` for a reader, the secret left out. -/
def describedAs (c : Connection) (name : String) : String :=
  Text.record name [("host", Text.quoted c.host), ("secret", Text.quoted "<redacted>"),
    ("serial", Text.quoted c.serial)]

def description (c : Connection) : String :=
  c.describedAs "ConnParams"

end Connection
end Till
