import Till.Toml.Quote
import Till.Toml.Basic

/-!
# Writing TOML

A document of sections, each a header with its fields on lines of their own, and an empty line
between sections.
-/

namespace Till.Toml

inductive Leaf
  | string (s : String)
  | boolean (b : Bool)
deriving DecidableEq, Repr

namespace Leaf

def toToml : Leaf → Toml
  | string s => .string s
  | boolean b => .boolean b

def written : Leaf → List Char
  | string s => quote s.toList
  | boolean true => ['t', 'r', 'u', 'e']
  | boolean false => ['f', 'a', 'l', 's', 'e']

end Leaf

structure Section where
  name : String
  fields : List (String × Leaf)
deriving DecidableEq, Repr

def writtenField (f : String × Leaf) : List Char :=
  f.1.toList ++ [' ', '=', ' '] ++ f.2.written ++ ['\n']

def Section.written (s : Section) : List Char :=
  '[' :: s.name.toList ++ [']', '\n'] ++ s.fields.flatMap writtenField

/-- The sections one after another. -/
def writtenSections (sections : List Section) : List Char :=
  ['\n'].intercalate (sections.map Section.written)

end Till.Toml
