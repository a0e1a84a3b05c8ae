import Till.Json.Shape

/-!
# Errors of fields

Why a value is not accepted for a field, and the words for it. Numbers stand in messages without an
exponent.
-/

namespace Till

/-- The kinds of value that a field may ask for. -/
inductive Expectation
  | object
  | string
  | stringOrNull
  | stringOrObject
  | number
  | numberOrAuto
  | boolean
  | array
deriving DecidableEq, Repr

def Expectation.words : Expectation → String
  | object => "an object"
  | string => "a string"
  | stringOrNull => "a string or null"
  | stringOrObject => "a string or an object"
  | number => "a number"
  | numberOrAuto => "a number or \"auto\""
  | boolean => "a boolean"
  | array => "an array"

/-- What is wrong with the form of a value. -/
inductive FormFault
  | expected (e : Expectation)
  | notFinite
  | notToken (found : Json)
  | mismatch (m : Mismatch)
deriving Repr

def FormFault.message : FormFault → String
  | expected e => "expected " ++ e.words
  | notFinite => "must be a finite number"
  | notToken found => "expected a string token, got " ++ found.text
  | mismatch m => m.message

inductive FieldError
  | required (field : String)
  | tooShort (field : String) (min : Nat)
  | tooLong (field : String) (max : Nat)
  | outOfRange (field : String) (min max value : Float)
  | invalidFormat (field : String) (fault : FormFault)
  | notAllowed (field value : String) (allowed : List String)
deriving Repr

namespace FieldError

/-- Doubles in messages: no exponent, and no point in whole numbers. -/
def doubles : Double.Layout where
  tie := .up
  positional _ := true
  wholePoint := false
  nan := "NaN"
  infinity := "inf"
  minusInfinity := "-inf"

def field : FieldError → String
  | required f => f
  | tooShort f _ => f
  | tooLong f _ => f
  | outOfRange f _ _ _ => f
  | invalidFormat f _ => f
  | notAllowed f _ _ => f

def message : FieldError → String
  | required f => f ++ " is required"
  | tooShort f min => f ++ " must be at least " ++ toString min ++ " characters"
  | tooLong f max => f ++ " must be at most " ++ toString max ++ " characters"
  | outOfRange f min max value =>
    f ++ " must be between " ++ doubles.write min ++ " and " ++ doubles.write max ++ ", got " ++
      doubles.write value
  | invalidFormat f fault => f ++ " has invalid format: " ++ fault.message
  | notAllowed f value allowed =>
    f ++ " '" ++ value ++ "' must be one of: " ++ Text.quotedList allowed

/-- A value of another kind than the field asks for. -/
def unexpected (field : String) (e : Expectation) : FieldError :=
  invalidFormat field (.expected e)

end FieldError

/-- A value, or why there is none for its field. -/
abbrev Checked (α : Type) := Except FieldError α

namespace Json

/-! ### Values of a kind, asked for by a field -/

def objectFor (field : String) (v : Json) : Checked (List (String × Json)) :=
  match v with
  | object fs => .ok fs
  | _ => .error (.unexpected field .object)

def stringFor (field : String) (v : Json) : Checked String :=
  match v with
  | string s => .ok s
  | _ => .error (.unexpected field .string)

def floatFor (field : String) (v : Json) : Checked Float :=
  match v with
  | number n => .ok n.toFloat
  | _ => .error (.unexpected field .number)

def boolFor (field : String) (v : Json) : Checked Bool :=
  match v with
  | bool b => .ok b
  | _ => .error (.unexpected field .boolean)

def arrayFor (field : String) (v : Json) : Checked (List Json) :=
  match v with
  | array vs => .ok vs
  | _ => .error (.unexpected field .array)

/-- A value that may be missing; `null` counts as missing. -/
def present? (fs : List (String × Json)) (key : String) : Option Json :=
  match fs.lookup key with
  | some null => none
  | v => v

/-- The string under a key, reported as `field`. -/
def requiredString (fs : List (String × Json)) (key field : String) : Checked String :=
  match present? fs key with
  | some v => v.stringFor field
  | none => .error (.required field)

def optionalString (fs : List (String × Json)) (key field : String) : Checked (Option String) :=
  match present? fs key with
  | some v => (v.stringFor field).map some
  | none => .ok none

def floatOr (fs : List (String × Json)) (key : String) (default : Float) : Checked Float :=
  match present? fs key with
  | some v => v.floatFor key
  | none => .ok default

def boolOrFalse (fs : List (String × Json)) (key : String) : Checked Bool :=
  match present? fs key with
  | some v => v.boolFor key
  | none => .ok false

end Json
end Till
