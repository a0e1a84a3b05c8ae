import Mathlib.Data.List.Basic
import Till.Text.Lower

/-!
# Folding to a word of ASCII letters

Of the characters beyond ASCII only the Kelvin sign has a lower case within it: the letter `k`. So a
text that is folded to a word of ASCII characters without that letter is the word itself up to the
case of its letters, as far as ASCII has cases. Main statement: `flatMap_lowerChar_eq_iff`.
-/

namespace Till.Text

/-! ### The case of ASCII letters -/

/-- Only the capitals of ASCII have another lower case, and it is 32 code points on. -/
theorem toLower_cases (c : Char) :
    c.toLower = c ∨ 65 ≤ c.toNat ∧ c.toNat ≤ 90 ∧ c.toLower.toNat = c.toNat + 32 := by
  unfold Char.toLower
  split
  · rename_i h
    have hlow : 65 ≤ c.val.toNat := UInt32.le_iff_toNat_le.1 h.1
    have hhigh : c.val.toNat ≤ 90 := UInt32.le_iff_toNat_le.1 h.2
    refine .inr ⟨hlow, hhigh, ?_⟩
    have hshift : ('a'.val - 'A'.val).toNat = 32 := rfl
    show (c.val + ('a'.val - 'A'.val)).toNat = c.val.toNat + 32
    rw [UInt32.toNat_add, hshift]
    exact Nat.mod_eq_of_lt (by omega)
  · exact .inl rfl

theorem toNat_toLower_lt_iff {c : Char} : c.toLower.toNat < 0x80 ↔ c.toNat < 0x80 := by
  rcases toLower_cases c with h | ⟨hlow, hhigh, h⟩
  · rw [h]
  · omega

/-- What is no letter of ASCII is the lower case of nothing but itself. -/
theorem toLower_eq_iff {c d : Char}
    (hd : d.toNat < 65 ∨ 90 < d.toNat ∧ d.toNat < 97 ∨ 122 < d.toNat) : c.toLower = d ↔ c = d := by
  rcases toLower_cases c with h | ⟨hlow, hhigh, h⟩
  · rw [h]
  · constructor
    · rintro rfl
      omega
    · rintro rfl
      omega

theorem eqIgnoreAsciiCase_iff {a b : String} :
    eqIgnoreAsciiCase a b = true ↔ a.toList.map Char.toLower = b.toList.map Char.toLower :=
  beq_iff_eq

/-! ### Letters beyond ASCII -/

/-- The images of all runs but one lie beyond ASCII, and are characters. -/
theorem image_caseRuns : ∀ r ∈ caseRuns, r = ⟨0x212A, 0x212A, 1, 0x6B⟩ ∨
    0x80 ≤ r.image ∧ (r.image + (r.last - r.first) < 0xD800 ∨
      0xDFFF < r.image ∧ r.image + (r.last - r.first) < 0x110000) := by
  decide +kernel

theorem lowerChar_of_ascii {c : Char} (h : c.toNat < 0x80) : lowerChar c = [c.toLower] := by
  rw [lowerChar, if_pos h]

theorem lowerChar_of_not_ascii {c : Char} (h : ¬ c.toNat < 0x80) :
    lowerChar c = ['k'] ∨ ∃ d ∈ lowerChar c, ¬ d.toNat < 0x80 := by
  unfold lowerChar
  rw [if_neg h]
  split
  · exact .inr ⟨Char.ofNat 0x307, by simp, by decide⟩
  split
  · rename_i r hfind
    have hmem := List.mem_of_find?_eq_some hfind
    have hcovers := List.find?_some hfind
    simp only [CaseRun.covers, Bool.and_eq_true, decide_eq_true_eq] at hcovers
    obtain ⟨⟨hfirst, hlast⟩, -⟩ := hcovers
    rcases image_caseRuns r hmem with rfl | ⟨himage, hroom⟩
    · have hkelvin : c.toNat = 0x212A := Nat.le_antisymm hlast hfirst
      rw [hkelvin]
      exact .inl rfl
    · have hlower : r.lower c.toNat = r.image + (c.toNat - r.first) := rfl
      have hvalid : (r.lower c.toNat).isValidChar := by
        unfold Nat.isValidChar
        omega
      have hchar : (Char.ofNat (r.lower c.toNat)).toNat = r.lower c.toNat := by
        rw [Char.ofNat, dif_pos hvalid]
        rfl
      refine .inr ⟨_, List.mem_singleton_self _, ?_⟩
      omega
  · exact .inr ⟨c, List.mem_singleton_self c, h⟩

/-! ### Folding -/

/-- A word of ASCII characters in which no `k` occurs. -/
def IsPlainWord (w : List Char) : Prop :=
  ∀ d ∈ w, d.toNat < 0x80 ∧ d ≠ 'k'

instance (w : List Char) : Decidable (IsPlainWord w) :=
  List.decidableBAll _ w

theorem ascii_of_lowerChar {c : Char} (h : IsPlainWord (lowerChar c)) : c.toNat < 0x80 := by
  by_contra hc
  rcases lowerChar_of_not_ascii hc with hk | ⟨d, hd, hbeyond⟩
  · exact (h 'k' (by rw [hk]; simp)).2 rfl
  · exact hbeyond (h d hd).1

theorem ascii_of_map_toLower {cs : List Char} (h : IsPlainWord (cs.map Char.toLower)) :
    ∀ c ∈ cs, c.toNat < 0x80 := by
  intro c hc
  have hlower := (h _ (List.mem_map_of_mem hc)).1
  exact toNat_toLower_lt_iff.1 hlower

theorem flatMap_lowerChar_eq_iff {cs w : List Char} (hw : IsPlainWord w) :
    cs.flatMap lowerChar = w ↔ cs.map Char.toLower = w := by
  -- either way the text is of ASCII, and over ASCII the two sides are the same
  have hsame (h : ∀ c ∈ cs, c.toNat < 0x80) : cs.flatMap lowerChar = cs.map Char.toLower := by
    rw [List.flatMap_congr fun c hc => lowerChar_of_ascii (h c hc), List.map_eq_flatMap]
  constructor
  · rintro rfl
    refine (hsame fun c hc => ascii_of_lowerChar fun d hd => hw d ?_).symm
    exact List.mem_flatMap.2 ⟨c, hc, hd⟩
  · rintro rfl
    exact hsame (ascii_of_map_toLower hw)

end Till.Text
