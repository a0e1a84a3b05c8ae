/-!
# Blank characters and trimming

`strip p` removes the characters of a class from both ends of a list and leaves the inner ones
alone; `trim` is `strip` for blanks. Main statement: stripping twice is stripping once
(`strip_strip`, `trim_trim`).
-/

namespace Till.Text

/-- White space as Unicode lists it. The zero-width space, the byte order mark and the information
separators U+001C to U+001F are not in the list. -/
def isBlank (c : Char) : Bool :=
  let n := c.toNat
  (9 ≤ n && n ≤ 13) || n == 0x20 || n == 0x85 || n == 0xA0 || n == 0x1680 ||
    (0x2000 ≤ n && n ≤ 0x200A) || n == 0x2028 || n == 0x2029 || n == 0x202F || n == 0x205F ||
    n == 0x3000

/-- The list without the characters of `p` at either end. -/
def strip (p : Char → Bool) (cs : List Char) : List Char :=
  ((cs.dropWhile p).reverse.dropWhile p).reverse

/-- The text without the characters of `p` at either end. -/
def stripped (p : Char → Bool) (s : String) : String :=
  String.ofList (strip p s.toList)

/-- The text without blanks at either end. -/
def trim (s : String) : String :=
  stripped isBlank s

/-- A text that holds nothing but blanks. -/
def isBlankText (s : String) : Bool :=
  (trim s).isEmpty

/-! ### Stripping twice -/

variable {p : Char → Bool}

theorem dropWhile_dropWhile (l : List Char) : (l.dropWhile p).dropWhile p = l.dropWhile p := by
  induction l with
  | nil => rfl
  | cons c l ih => by_cases h : p c <;> simp [List.dropWhile, h, ih]

theorem dropWhile_eq_self_of_prefix {a b : List Char} (ha : a.dropWhile p = a) (hb : b <+: a) :
    b.dropWhile p = b := by
  cases b with
  | nil => rfl
  | cons c b =>
    obtain ⟨t, rfl⟩ := hb
    by_cases h : p c
    · have hlen := congrArg List.length ha
      have hle := (List.dropWhile_sublist p (l := b ++ t)).length_le
      simp [h] at hlen hle
      omega
    · simp [List.dropWhile, h]

theorem strip_strip (cs : List Char) : strip p (strip p cs) = strip p cs := by
  have hpre : strip p cs <+: cs.dropWhile p := by
    have h := List.dropWhile_suffix p (l := (cs.dropWhile p).reverse)
    exact List.reverse_suffix.1 (by simpa [strip] using h)
  have hself := dropWhile_eq_self_of_prefix (dropWhile_dropWhile cs) hpre
  show ((List.dropWhile p (strip p cs)).reverse.dropWhile p).reverse = strip p cs
  rw [hself]
  simp [strip, dropWhile_dropWhile]

theorem stripped_stripped (s : String) : stripped p (stripped p s) = stripped p s := by
  simp [stripped, strip_strip]

theorem trim_trim (s : String) : trim (trim s) = trim s :=
  stripped_stripped s

end Till.Text
