import Till.Text.Quoted

/-!
# Text on one line

`OneLine` holds of a text without controls and without separators of lines and paragraphs. All of
these are hidden characters, which quoting writes as escapes, so whatever a text has, its quoted
form is on one line (`oneLine_quoted`).
-/

namespace Till.Text

/-- A control character, or a separator of lines or of paragraphs. -/
def EndsLine (c : Char) : Prop :=
  c.toNat < 0x20 ∨ 0x7F ≤ c.toNat ∧ c.toNat < 0xA0 ∨ c.toNat = 0x2028 ∨ c.toNat = 0x2029

instance (c : Char) : Decidable (EndsLine c) :=
  inferInstanceAs (Decidable (_ ∨ _))

/-- The check looks at the characters of the list, not at all characters. -/
theorem not_endsLine_of_mem {cs : List Char} (h : (cs.all fun c => !decide (EndsLine c)) = true)
    {c : Char} (hc : c ∈ cs) : ¬ EndsLine c := by
  simpa using List.all_eq_true.1 h c hc

def OneLine (s : String) : Prop :=
  ∀ c ∈ s.toList, ¬ EndsLine c

instance (s : String) : Decidable (OneLine s) :=
  List.decidableBAll _ s.toList

theorem oneLine_append {a b : String} : OneLine (a ++ b) ↔ OneLine a ∧ OneLine b := by
  simp only [OneLine, String.toList_append, List.forall_mem_append]

/-! ### Digits -/

theorem exists_of_mem_toDigits {b n : Nat} {c : Char} (hb : 1 < b) (h : c ∈ Nat.toDigits b n) :
    ∃ d < b, c = Nat.digitChar d := by
  induction n using Nat.strongRecOn with
  | ind n ih =>
    rw [Nat.toDigits_eq_if hb] at h
    split at h
    · rename_i hn
      exact ⟨n, hn, List.mem_singleton.1 h⟩
    · rename_i hn
      rcases List.mem_append.1 h with h | h
      · exact ih (n / b) (Nat.div_lt_self (by omega) hb) h
      · exact ⟨n % b, Nat.mod_lt n (by omega), List.mem_singleton.1 h⟩

theorem not_endsLine_of_mem_toDigits {b n : Nat} {c : Char} (hb : 1 < b) (hb' : b ≤ 16)
    (h : c ∈ Nat.toDigits b n) : ¬ EndsLine c := by
  have hdigit : ∀ d < 16, ¬ EndsLine (Nat.digitChar d) := by decide
  obtain ⟨d, hd, rfl⟩ := exists_of_mem_toDigits hb h
  exact hdigit d (by omega)

/-! ### Quoted text -/

theorem isHidden_of_endsLine {c : Char} (h : EndsLine c) : isHidden c = true := by
  have hcontrols : (0x80, 0xA0) ∈ hiddenRanges := by decide +kernel
  have hseparators : (0x2028, 0x202F) ∈ hiddenRanges := by decide +kernel
  have hrange {r : Nat × Nat} (hr : r ∈ hiddenRanges) (hlow : r.1 ≤ c.toNat) (hhigh : c.toNat ≤ r.2)
      (hascii : 0x80 ≤ c.toNat) : isHidden c = true := by
    have hany : (hiddenRanges.any fun r => r.1 ≤ c.toNat && c.toNat ≤ r.2) = true :=
      List.any_eq_true.2 ⟨r, hr, by simp [hlow, hhigh]⟩
    simp [isHidden, hany, hascii]
  rcases h with h | ⟨hlow, hhigh⟩ | h | h
  · simp [isHidden, h]
  · by_cases hdelete : c.toNat = 0x7F
    · simp [isHidden, hdelete]
    · exact hrange hcontrols (by omega) (by omega) (by omega)
  · exact hrange hseparators (by omega) (by omega) (by omega)
  · exact hrange hseparators (by omega) (by omega) (by omega)

theorem not_endsLine_quotedChar {c d : Char} (hd : d ∈ quotedChar c) : ¬ EndsLine d := by
  unfold quotedChar at hd
  -- six characters have an escape of their own
  iterate 6
    split at hd
    · exact not_endsLine_of_mem (by decide) hd
  split at hd
  · simp only [List.mem_append] at hd
    rcases hd with (hd | hd) | hd
    · exact not_endsLine_of_mem (by decide) hd
    · exact not_endsLine_of_mem_toDigits (by decide) (by decide) hd
    · exact not_endsLine_of_mem (by decide) hd
  · rename_i hhidden
    rw [List.mem_singleton.1 hd]
    exact fun h => hhidden (isHidden_of_endsLine h)

theorem oneLine_quoted (s : String) : OneLine (quoted s) := by
  intro c hc
  simp only [quoted, String.toList_ofList, List.cons_append, List.mem_cons, List.mem_append,
    List.mem_flatMap, List.not_mem_nil, or_false] at hc
  rcases hc with rfl | ⟨d, -, hd⟩ | rfl
  · decide
  · exact not_endsLine_quotedChar hd
  · decide

end Till.Text
