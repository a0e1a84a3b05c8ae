import Till.FieldError
import Till.Text.Trim

/-!
# Free text

Formatted text for a receipt or a document. The content carries no blanks at its ends.
-/

namespace Till

/-- The places of a receipt that hold free text. -/
inductive TextSlot
  | text | header | footer
deriving DecidableEq, Repr

def TextSlot.key : TextSlot → String
  | text => "text"
  | header => "headerText"
  | footer => "footerText"

structure TextBlock where
  content : String
  center : Bool
  magnified : Bool
  separated : Bool
  content_trim : Text.trim content = content

namespace TextBlock

def make (content : String) (center magnified separated : Bool) : TextBlock :=
  ⟨Text.trim content, center, magnified, separated, Text.trim_trim content⟩

def isEmpty (b : TextBlock) : Bool :=
  b.content.isEmpty

/-- Reads a bare string, `null` for no text, or an object. -/
def ofJson (field : String) (v : Json) : Checked TextBlock :=
  match v with
  | .string s => .ok (make s false false false)
  | .null => .ok (make "" false false false)
  | .object fs => do
    let content ← Json.optionalString fs "content" field
    let center ← Json.boolOrFalse fs "center"
    let magnified ← Json.boolOrFalse fs "magnified"
    let separated ← Json.boolOrFalse fs "separated"
    return make (content.getD "") center magnified separated
  | _ => .error (.unexpected field .stringOrObject)

def fields (b : TextBlock) : List (String × Json) :=
  [("content", .string b.content), ("center", .bool b.center), ("magnified", .bool b.magnified),
    ("separated", .bool b.separated)]

def toJson (b : TextBlock) : Json :=
  .object (Entries.ofList b.fields)

end TextBlock

/-- A part of a document that is not fiscal. -/
inductive DocumentBlock
  | text (b : TextBlock)
  | separator

namespace DocumentBlock

def isSeparator (v : Json) : Bool :=
  match v with
  | .object fs => ((fs.lookup "separator").bind Json.asBool?) == some true
  | _ => false

def ofJson (v : Json) : Checked DocumentBlock :=
  if isSeparator v then .ok separator else (TextBlock.ofJson "document" v).map text

def fields : DocumentBlock → List (String × Json)
  | text b => b.fields
  | separator => [("separator", .bool true)]

def toJson (b : DocumentBlock) : Json :=
  .object (Entries.ofList b.fields)

end DocumentBlock
end Till
