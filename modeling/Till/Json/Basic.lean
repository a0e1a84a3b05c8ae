import Till.Double.Dyadic

/-!
# JSON values

Whole numbers between `-2 ^ 63` and `2 ^ 64` keep their kind apart from doubles: `1` and `1.0` are
two values. The fields of an object are a list in ascending order of their keys
(`Till.Json.Entries`).
-/

namespace Till

inductive Number
  | int (n : Int)
  | real (x : Float)
deriving Repr, Inhabited

inductive Json
  | null
  | bool (b : Bool)
  | number (n : Number)
  | string (s : String)
  | array (items : List Json)
  | object (fields : List (String × Json))
deriving Repr, Inhabited

namespace Number

def toFloat : Number → Float
  | int n => Double.ofInt n
  | real x => x

end Number

namespace Json

/-- A double as a value: `null` if it is not finite. -/
def ofFloat (x : Float) : Json :=
  if x.isFinite then number (.real x) else null

def asString? : Json → Option String
  | string s => some s
  | _ => none

def asBool? : Json → Option Bool
  | bool b => some b
  | _ => none

def asFloat? : Json → Option Float
  | number n => some n.toFloat
  | _ => none

def asArray? : Json → Option (List Json)
  | array items => some items
  | _ => none

def asObject? : Json → Option (List (String × Json))
  | object fields => some fields
  | _ => none

theorem bind_asString?_eq_some_iff {o : Option Json} {s : String} :
    o.bind asString? = some s ↔ o = some (.string s) := by
  cases o with
  | none => simp
  | some v => cases v <;> simp [asString?]

theorem bind_asBool?_eq_some_iff {o : Option Json} {b : Bool} :
    o.bind asBool? = some b ↔ o = some (.bool b) := by
  cases o with
  | none => simp
  | some v => cases v <;> simp [asBool?]

end Json
end Till
