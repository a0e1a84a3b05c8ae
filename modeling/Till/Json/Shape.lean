import Till.Json.Printer
import Till.Text.Quoted

/-!
# Records of a fixed shape in JSON

A record with named columns is read from an object, or from an array that lists the columns in
order. `Shape.columns?` checks the values in the order in which they stand: by key in an object,
by position in an array. The first bad value is the error, and only then a missing column is.
-/

namespace Till

/-- Why a value does not have the shape asked for. -/
inductive Mismatch
  | wrongType (found : Json) (expected : String)
  | wrongValue (found : Json) (expected : String)
  | missingField (name : String)
  | wrongLength (length : Nat) (expected : String)
  | unknownVariant (name : String) (known : List String)
deriving Repr

namespace Json

/-- What a value is called in the message of a mismatch. -/
def description : Json → String
  | null => "null"
  | bool true => "boolean `true`"
  | bool false => "boolean `false`"
  | number (.int n) => "integer `" ++ (Number.int n).text ++ "`"
  | number (.real x) => "floating point `" ++ (Number.real x).text ++ "`"
  | string s => "string " ++ Text.quoted s
  | array _ => "sequence"
  | object _ => "map"

end Json

namespace Mismatch

/-- Names between backquotes, as a choice. -/
def choice : List String → String
  | [a, b] => "expected `" ++ a ++ "` or `" ++ b ++ "`"
  | names => "expected one of " ++ ", ".intercalate (names.map fun n => "`" ++ n ++ "`")

def message : Mismatch → String
  | wrongType found expected => "invalid type: " ++ found.description ++ ", expected " ++ expected
  | wrongValue found expected => "invalid value: " ++ found.description ++ ", expected " ++ expected
  | missingField name => "missing field `" ++ name ++ "`"
  | wrongLength n expected => "invalid length " ++ toString n ++ ", expected " ++ expected
  | unknownVariant name known => "unknown variant `" ++ name ++ "`, " ++ choice known

end Mismatch

namespace Shape

def text? : Json → Except Mismatch String
  | .string s => .ok s
  | v => .error (.wrongType v "a string")

def optionalText? : Json → Except Mismatch (Option String)
  | .null => .ok none
  | v => (text? v).map some

/-- A whole number of 32 bits without a sign. -/
def word? : Json → Except Mismatch Nat
  | .number (.int n) =>
    if 0 ≤ n ∧ n < UInt32.size then .ok n.toNat else .error (.wrongValue (.number (.int n)) "u32")
  | v => .error (.wrongType v "u32")

/-- Nothing, written `null`. -/
def unit? : Json → Except Mismatch Unit
  | .null => .ok ()
  | v => .error (.wrongType v "unit")

/-- One of the names, as a string or as an object with the name as its only key and `null` under
it. -/
def variant? (names : List String) (v : Json) : Except Mismatch String :=
  let named (name : String) : Except Mismatch String :=
    if name ∈ names then .ok name else .error (.unknownVariant name names)
  match v with
  | .string s => named s
  | .object [(k, x)] => do
    let name ← named k
    unit? x
    return name
  | .object _ => .error (.wrongValue v "map with a single key")
  | v => .error (.wrongType v "string or map")

/-- A named place of a record: the mismatch of a bad value, and whether a value has to be there. -/
structure Column where
  name : String
  mismatch : Json → Option Mismatch
  required : Bool

namespace Column

private def fault {α : Type} : Except Mismatch α → Option Mismatch
  | .ok _ => none
  | .error e => some e

def text (name : String) (required : Bool) : Column :=
  ⟨name, fun v => fault (text? v), required⟩

def optionalText (name : String) : Column :=
  ⟨name, fun v => fault (optionalText? v), false⟩

def word (name : String) (required : Bool) : Column :=
  ⟨name, fun v => fault (word? v), required⟩

end Column

/-- The values at the columns, from the front of an array. `i` values stand before them. -/
def ofItems? (expected : String) (i : Nat) :
    List Column → List Json → Except Mismatch (List (Option Json))
  | [], _ => .ok []
  | c :: cs, [] =>
    if c.required then .error (.wrongLength i expected)
    else (ofItems? expected i cs []).map (none :: ·)
  | c :: cs, v :: vs =>
    match c.mismatch v with
    | some e => .error e
    | none => (ofItems? expected (i + 1) cs vs).map (some v :: ·)

/-- The values at the columns of an object. -/
def ofFields? (cs : List Column) (fs : List (String × Json)) :
    Except Mismatch (List (Option Json)) :=
  match fs.findSome? fun f => (cs.find? (·.name == f.1)).bind (·.mismatch f.2) with
  | some e => .error e
  | none =>
    match cs.find? fun c => c.required && (fs.lookup c.name).isNone with
    | some c => .error (.missingField c.name)
    | none => .ok (cs.map fun c => fs.lookup c.name)

/-- The values at the columns of the record `name`, each of the column's kind. -/
def columns? (name : String) (cs : List Column) (v : Json) : Except Mismatch (List (Option Json)) :=
  match v with
  | .object fs => ofFields? cs fs
  | .array vs => do
    let expected := "struct " ++ name ++ " with " ++ toString cs.length ++ " elements"
    let found ← ofItems? expected 0 cs vs
    if cs.length < vs.length then throw (.wrongLength vs.length "fewer elements in array")
    return found
  | v => .error (.wrongType v ("struct " ++ name))

end Shape
end Till
