import Till.Text.Digits

/-!
# Quoted strings in TOML

A string stands between single or double quotes, or between three of them if it may span lines. Only
the double-quoted forms have escapes. Each reader takes the characters after the opening quotes and
returns the content with what follows the closing quotes.
-/

namespace Till.Toml

/-- Characters that may stand in a string or comment as they are. -/
def isPlain (c : Char) : Bool :=
  c == '\t' || (0x20 ≤ c.toNat && c.toNat != 0x7F)

def isBlank (c : Char) : Bool :=
  c == ' ' || c == '\t'

/-! ### Reading -/

/-- The character with a hexadecimal number. -/
def codePoint? (cs : List Char) : Option Char := do
  let n ← Text.hexNumber? cs
  if n < 0xD800 ∨ (0xDFFF < n ∧ n < 0x110000) then some (Char.ofNat n) else none

def escape? (c : Char) : Option Char :=
  match c with
  | 'b' => some (Char.ofNat 8)
  | 't' => some '\t'
  | 'n' => some '\n'
  | 'f' => some (Char.ofNat 12)
  | 'r' => some '\r'
  | '"' => some '"'
  | '\\' => some '\\'
  | _ => none

/-- A character in front of what a reader found. -/
def push (c : Char) (found : Option (List Char × List Char)) : Option (List Char × List Char) :=
  found.map fun f => (c :: f.1, f.2)

/-- Between double quotes. -/
def basicBody : List Char → Option (List Char × List Char)
  | [] => none
  | '"' :: cs => some ([], cs)
  | '\\' :: 'u' :: a :: b :: c :: d :: cs =>
    match codePoint? [a, b, c, d] with
    | some x => push x (basicBody cs)
    | none => none
  | '\\' :: 'U' :: a :: b :: c :: d :: e :: f :: g :: h :: cs =>
    match codePoint? [a, b, c, d, e, f, g, h] with
    | some x => push x (basicBody cs)
    | none => none
  | '\\' :: c :: cs =>
    match escape? c with
    | some x => push x (basicBody cs)
    | none => none
  | c :: cs => if isPlain c ∧ c ≠ '\\' then push c (basicBody cs) else none

/-- Between single quotes. -/
def literalBody : List Char → Option (List Char × List Char)
  | [] => none
  | '\'' :: cs => some ([], cs)
  | c :: cs => if isPlain c then push c (literalBody cs) else none

/-- After a backslash: nothing but blanks up to the end of the line. -/
def endsLine (cs : List Char) : Bool :=
  match cs.dropWhile isBlank with
  | '\n' :: _ => true
  | '\r' :: '\n' :: _ => true
  | _ => false

/-- Up to two quotes may stand before the three that close. -/
def closing (q : Char) : List Char → List Char × List Char
  | a :: b :: cs =>
    if a = q then if b = q then ([q, q], cs) else ([q], b :: cs) else ([], a :: b :: cs)
  | [a] => if a = q then ([q], []) else ([], [a])
  | [] => ([], [])

/-- Between three double quotes. While `joining` holds, a backslash at the end of a line makes
blanks and line breaks go away. -/
def multiBasicBody : Bool → List Char → Option (List Char × List Char)
  | _, [] => none
  | _, '"' :: '"' :: '"' :: cs => some (closing '"' cs)
  | _, '"' :: cs => push '"' (multiBasicBody false cs)
  | _, '\\' :: 'u' :: a :: b :: c :: d :: cs =>
    match codePoint? [a, b, c, d] with
    | some x => push x (multiBasicBody false cs)
    | none => none
  | _, '\\' :: 'U' :: a :: b :: c :: d :: e :: f :: g :: h :: cs =>
    match codePoint? [a, b, c, d, e, f, g, h] with
    | some x => push x (multiBasicBody false cs)
    | none => none
  | _, '\\' :: c :: cs =>
    match escape? c with
    | some x => push x (multiBasicBody false cs)
    | none => if endsLine (c :: cs) then multiBasicBody true (c :: cs) else none
  | joining, '\r' :: '\n' :: cs =>
    if joining then multiBasicBody true cs else push '\n' (multiBasicBody false cs)
  | joining, '\n' :: cs =>
    if joining then multiBasicBody true cs else push '\n' (multiBasicBody false cs)
  | joining, c :: cs =>
    if joining ∧ isBlank c then multiBasicBody true cs
    else if isPlain c ∧ c ≠ '\\' then push c (multiBasicBody false cs)
    else none

/-- Between three single quotes. -/
def multiLiteralBody : List Char → Option (List Char × List Char)
  | [] => none
  | '\'' :: '\'' :: '\'' :: cs => some (closing '\'' cs)
  | '\r' :: '\n' :: cs => push '\n' (multiLiteralBody cs)
  | '\n' :: cs => push '\n' (multiLiteralBody cs)
  | c :: cs => if isPlain c then push c (multiLiteralBody cs) else none

/-- A line break right after the opening quotes does not count. -/
def dropFirstBreak : List Char → List Char
  | '\r' :: '\n' :: cs => cs
  | '\n' :: cs => cs
  | cs => cs

/-- A string of any form at the front. -/
def quoted? : List Char → Option (List Char × List Char)
  | '"' :: '"' :: '"' :: cs => multiBasicBody false (dropFirstBreak cs)
  | '\'' :: '\'' :: '\'' :: cs => multiLiteralBody (dropFirstBreak cs)
  | '"' :: cs => basicBody cs
  | '\'' :: cs => literalBody cs
  | _ => none

/-! ### Writing -/

/-- Characters that only an escape can write: controls other than the tab and the line break. -/
def needsEscape (c : Char) : Bool :=
  (c.toNat < 0x20 && c != '\t' && c != '\n') || c.toNat == 0x7F

def hexDigits (n : Nat) : List Char :=
  (Nat.toDigits 16 n).map Char.toUpper

/-- A character of a double-quoted string that is neither a quote nor a line break. -/
def writtenChar (c : Char) : List Char :=
  if c.toNat = 8 then ['\\', 'b']
  else if c = '\t' then ['\\', 't']
  else if c.toNat = 12 then ['\\', 'f']
  else if c = '\r' then ['\\', 'r']
  else if c = '\\' then ['\\', '\\']
  else if c.toNat < 0x10 then ['\\', 'u', '0', '0', '0'] ++ hexDigits c.toNat
  else if c.toNat < 0x20 ∨ c.toNat = 0x7F then ['\\', 'u', '0', '0'] ++ hexDigits c.toNat
  else [c]

/-- The content of a double-quoted string. -/
def basicContent (cs : List Char) : List Char :=
  cs.flatMap fun c =>
    if c = '"' then ['\\', '"'] else if c = '\n' then ['\\', 'n'] else writtenChar c

/-- The content of a string between three double quotes, after `quotes` plain quotes in a row: a
third one is escaped, and the count starts again. -/
def multiBasicContent (quotes : Nat) : List Char → List Char
  | [] => []
  | c :: cs =>
    if c = '"' then
      if quotes < 2 then '"' :: multiBasicContent (quotes + 1) cs
      else ['\\', '"'] ++ multiBasicContent 0 cs
    else (if c = '\n' then ['\n'] else writtenChar c) ++ multiBasicContent 0 cs

/-- Three quotes of a kind in a row. -/
def hasTriple (q : Char) : List Char → Bool
  | a :: b :: c :: cs => (a == q && b == q && c == q) || hasTriple q (b :: c :: cs)
  | _ => false

inductive QuoteStyle
  | basic | literal | multiBasic | multiLiteral
deriving DecidableEq, Repr

/-- The first style that needs no escapes; if all do, the double quotes that fit the lines. -/
def QuoteStyle.of (cs : List Char) : QuoteStyle :=
  let control := cs.any needsEscape
  let breaks := cs.contains '\n'
  let backslash := cs.contains '\\'
  if !control && !backslash && !cs.contains '"' && !breaks then .basic
  else if !control && !cs.contains '\'' && !breaks then .literal
  else if !control && !backslash && !hasTriple '"' cs then .multiBasic
  else if !control && !hasTriple '\'' cs then .multiLiteral
  else if breaks then .multiBasic
  else .basic

/-- A line break after the opening quotes, if the content has one. -/
def openingBreak (cs : List Char) : List Char :=
  if cs.contains '\n' then ['\n'] else []

def quote (cs : List Char) : List Char :=
  match QuoteStyle.of cs with
  | .basic => '"' :: basicContent cs ++ ['"']
  | .literal => '\'' :: cs ++ ['\'']
  | .multiBasic =>
    ['"', '"', '"'] ++ openingBreak cs ++ multiBasicContent 0 cs ++ ['"', '"', '"']
  | .multiLiteral => ['\'', '\'', '\''] ++ openingBreak cs ++ cs ++ ['\'', '\'', '\'']

end Till.Toml
