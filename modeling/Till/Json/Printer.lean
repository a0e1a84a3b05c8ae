import Till.Double.Layout
import Till.Json.Entries

/-!
# JSON text

`text` is compact, `pretty` indents by two blanks. Strings escape the quote, the backslash and the
controls below U+0020, nothing else.
-/

namespace Till

/-- Exponents from -5 to 15 stand positionally, whole doubles keep `.0`, and what is not finite is
`null`. -/
def Json.doubles : Double.Layout where
  tie := .toEven
  positional e := -5 ≤ e && e ≤ 15
  wholePoint := true
  nan := "null"
  infinity := "null"
  minusInfinity := "null"

namespace Number

def chars : Number → List Char
  | int n => if n < 0 then '-' :: Nat.toDigits 10 n.natAbs else Nat.toDigits 10 n.natAbs
  | real x => (Json.doubles.write x).toList

def text (n : Number) : String :=
  String.ofList n.chars

end Number

namespace Json

def escapedChar (c : Char) : List Char :=
  if c = '"' then ['\\', '"']
  else if c = '\\' then ['\\', '\\']
  else if c.toNat = 8 then ['\\', 'b']
  else if c.toNat = 9 then ['\\', 't']
  else if c.toNat = 10 then ['\\', 'n']
  else if c.toNat = 12 then ['\\', 'f']
  else if c.toNat = 13 then ['\\', 'r']
  else if c.toNat < 16 then ['\\', 'u', '0', '0', '0'] ++ Nat.toDigits 16 c.toNat
  else if c.toNat < 32 then ['\\', 'u', '0', '0'] ++ Nat.toDigits 16 c.toNat
  else [c]

def stringChars (s : String) : List Char :=
  '"' :: s.toList.flatMap escapedChar ++ ['"']

/-- `null`, a truth value, a number or a string. -/
def scalarChars : Json → List Char
  | null => "null".toList
  | bool true => "true".toList
  | bool false => "false".toList
  | number n => n.chars
  | string s => stringChars s
  | array _ => []
  | object _ => []

mutual

def chars : Json → List Char
  | array [] => ['[', ']']
  | array (v :: items) => '[' :: chars v ++ itemChars items ++ [']']
  | object [] => ['\x7b', '\x7d']
  | object ((k, v) :: fields) =>
    '\x7b' :: stringChars k ++ ':' :: chars v ++ fieldChars fields ++ ['\x7d']
  | v => scalarChars v

def itemChars : List Json → List Char
  | [] => []
  | v :: items => ',' :: chars v ++ itemChars items

def fieldChars : List (String × Json) → List Char
  | [] => []
  | (k, v) :: fields => ',' :: stringChars k ++ ':' :: chars v ++ fieldChars fields

end

/-- A line break and the indentation of a level. -/
def newline (level : Nat) : List Char :=
  '\n' :: List.replicate (2 * level) ' '

mutual

def prettyChars (level : Nat) : Json → List Char
  | array [] => ['[', ']']
  | array (v :: items) =>
    '[' :: newline (level + 1) ++ prettyChars (level + 1) v ++ prettyItems (level + 1) items ++
      newline level ++ [']']
  | object [] => ['\x7b', '\x7d']
  | object ((k, v) :: fields) =>
    '\x7b' :: newline (level + 1) ++ stringChars k ++ ':' :: ' ' :: prettyChars (level + 1) v ++
      prettyFields (level + 1) fields ++ newline level ++ ['\x7d']
  | v => scalarChars v

def prettyItems (level : Nat) : List Json → List Char
  | [] => []
  | v :: items => ',' :: newline level ++ prettyChars level v ++ prettyItems level items

def prettyFields (level : Nat) : List (String × Json) → List Char
  | [] => []
  | (k, v) :: fields =>
    ',' :: newline level ++ stringChars k ++ ':' :: ' ' :: prettyChars level v ++
      prettyFields level fields

end

def text (v : Json) : String :=
  String.ofList v.chars

def pretty (v : Json) : String :=
  String.ofList (v.prettyChars 0)

end Json

namespace Fields

def text (f : Fields) : String :=
  f.toJson.text

end Fields
end Till
