import Till.Text.Trim

/-!
# Paths

A path is written without separators at its ends; both slashes count as separators.
-/

namespace Till.Path

def isSeparator (c : Char) : Bool :=
  c == '/' || c == '\\'

/-- The path without separators at its ends. -/
def normalize (s : String) : String :=
  Text.stripped isSeparator s

/-- The segments, without blanks around them, between slashes. -/
def join (segments : List String) : String :=
  normalize ("/".intercalate (segments.map Text.trim))

end Till.Path
