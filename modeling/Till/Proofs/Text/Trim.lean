import Till.Text.Trim

/-!
# Texts without blanks at their ends

`Trimmed` says of a text's first and last character what `trim` achieves: a text that `trim` leaves
as it is has no blank there (`trimmed_of_trim`). `StripsTo` says the same of any class of
characters, and that nothing else is lost; it holds of one text only (`stripsTo_iff`).
-/

namespace Till.Text

/-- Neither the first nor the last character is a blank. -/
def Trimmed (s : String) : Prop :=
  (∀ c ∈ s.toList.head?, isBlank c = false) ∧ ∀ c ∈ s.toList.getLast?, isBlank c = false

theorem head?_dropWhile {p : Char → Bool} {l : List Char} :
    ∀ c ∈ (l.dropWhile p).head?, p c = false := by
  intro c hc
  have h := List.head?_dropWhile_not p l
  rw [hc] at h
  exact h

theorem getLast?_strip {p : Char → Bool} {l : List Char} :
    ∀ c ∈ (strip p l).getLast?, p c = false := by
  intro c hc
  rw [strip, List.getLast?_reverse] at hc
  exact head?_dropWhile c hc

/-- What stripping leaves whole does not begin with a character of the class. -/
theorem dropWhile_of_strip {p : Char → Bool} {l : List Char} (h : strip p l = l) :
    l.dropWhile p = l := by
  have hle : (strip p l).length ≤ (l.dropWhile p).length := by
    rw [strip, List.length_reverse]
    exact Nat.le_trans (List.dropWhile_sublist p).length_le (Nat.le_of_eq List.length_reverse)
  rw [h] at hle
  exact (List.dropWhile_sublist p).eq_of_length_le hle

theorem head?_strip {p : Char → Bool} {l : List Char} : ∀ c ∈ (strip p l).head?, p c = false := by
  rw [← dropWhile_of_strip (strip_strip l)]
  exact head?_dropWhile

/-- Where the class is not met at either end, nothing is stripped. -/
theorem strip_of_ends {p : Char → Bool} {l : List Char} (hhead : ∀ c ∈ l.head?, p c = false)
    (hlast : ∀ c ∈ l.getLast?, p c = false) : strip p l = l := by
  have hdrop {l : List Char} (h : ∀ c ∈ l.head?, p c = false) : l.dropWhile p = l := by
    cases l with
    | nil => rfl
    | cons c l => exact List.dropWhile_cons_of_neg (by simp [h c rfl])
  rw [← List.head?_reverse] at hlast
  rw [strip, hdrop hhead, hdrop hlast, List.reverse_reverse]

theorem stripped_of_ends {p : Char → Bool} {s : String} (hhead : ∀ c ∈ s.toList.head?, p c = false)
    (hlast : ∀ c ∈ s.toList.getLast?, p c = false) : stripped p s = s := by
  rw [stripped, strip_of_ends hhead hlast, String.ofList_toList]

/-- Stripping tells a text apart as characters of the class, what is left, and more of the class. -/
theorem exists_strip (p : Char → Bool) (l : List Char) :
    ∃ a b, l = a ++ strip p l ++ b ∧ (∀ c ∈ a, p c = true) ∧ ∀ c ∈ b, p c = true := by
  let inner := l.dropWhile p
  have hfront : l = l.takeWhile p ++ inner := List.takeWhile_append_dropWhile.symm
  have hback : inner = strip p l ++ (inner.reverse.takeWhile p).reverse := by
    have hreverse : inner.reverse = inner.reverse.takeWhile p ++ inner.reverse.dropWhile p :=
      List.takeWhile_append_dropWhile.symm
    have hinner := congrArg List.reverse hreverse
    rwa [List.reverse_reverse, List.reverse_append] at hinner
  refine ⟨l.takeWhile p, (inner.reverse.takeWhile p).reverse, ?_, ?_, ?_⟩
  · rw [List.append_assoc, ← hback, ← hfront]
  · exact fun c hc => List.all_eq_true.1 List.all_takeWhile c hc
  · intro c hc
    exact List.all_eq_true.1 List.all_takeWhile c (List.mem_reverse.1 hc)

/-- What is added of the class at the ends is stripped again. -/
theorem strip_padded {p : Char → Bool} {a l b : List Char} (ha : ∀ c ∈ a, p c = true)
    (hb : ∀ c ∈ b, p c = true) : strip p (a ++ l ++ b) = strip p l := by
  have hall : (b ++ []).dropWhile p = [] := List.dropWhile_append_of_pos hb
  have hreverse : ∀ c ∈ b.reverse, p c = true := fun c hc => hb c (List.mem_reverse.1 hc)
  rw [strip, List.append_assoc, List.dropWhile_append_of_pos ha, List.dropWhile_append]
  split
  · rename_i hempty
    rw [← List.append_nil b, hall, strip, List.isEmpty_iff.1 hempty]
  · rw [List.reverse_append, List.dropWhile_append_of_pos hreverse, strip]

theorem strip_map {p : Char → Bool} {f : Char → Char} (hf : ∀ c, p (f c) = p c) (l : List Char) :
    strip p (l.map f) = (strip p l).map f := by
  have hpf : p ∘ f = p := funext hf
  simp [strip, List.dropWhile_map, hpf, ← List.map_reverse]

/-- The second text is the first one between blanks, or without any. -/
def Padded (s s' : String) : Prop :=
  ∃ a b, s' = a ++ s ++ b ∧ (∀ c ∈ a.toList, isBlank c = true) ∧ ∀ c ∈ b.toList, isBlank c = true

theorem trim_padded {s s' : String} (h : Padded s s') : trim s' = trim s := by
  obtain ⟨a, b, rfl, ha, hb⟩ := h
  rw [trim, trim, stripped, stripped, String.toList_append, String.toList_append,
    strip_padded ha hb]

/-- The second text is the first one without what it has of a class at its ends: nothing of the
class is left there, and nothing else is lost. -/
def StripsTo (p : Char → Prop) (s m : String) : Prop :=
  ∃ a b, s = a ++ m ++ b ∧ (∀ c ∈ a.toList, p c) ∧ (∀ c ∈ b.toList, p c) ∧
    (∀ c ∈ m.toList.head?, ¬ p c) ∧ ∀ c ∈ m.toList.getLast?, ¬ p c

theorem stripsTo_iff {p : Char → Bool} {s m : String} :
    StripsTo (fun c => p c = true) s m ↔ m = stripped p s := by
  constructor
  · rintro ⟨a, b, rfl, ha, hb, hhead, hlast⟩
    have hends := strip_of_ends (fun c hc => eq_false_of_ne_true (hhead c hc))
      fun c hc => eq_false_of_ne_true (hlast c hc)
    rw [stripped, String.toList_append, String.toList_append, strip_padded ha hb, hends,
      String.ofList_toList]
  · rintro rfl
    obtain ⟨a, b, hs, ha, hb⟩ := exists_strip p s.toList
    refine ⟨String.ofList a, String.ofList b, ?_, ?_, ?_, ?_, ?_⟩
    · rw [stripped, ← String.ofList_append, ← String.ofList_append, ← hs, String.ofList_toList]
    · rwa [String.toList_ofList]
    · rwa [String.toList_ofList]
    · rw [stripped, String.toList_ofList]
      exact fun c hc => ne_true_of_eq_false (head?_strip c hc)
    · rw [stripped, String.toList_ofList]
      exact fun c hc => ne_true_of_eq_false (getLast?_strip c hc)

theorem trimmed_of_trim {s : String} (h : trim s = s) : Trimmed s := by
  have hs : strip isBlank s.toList = s.toList := by
    have := congrArg String.toList h
    rwa [trim, stripped, String.toList_ofList] at this
  rw [Trimmed, ← hs]
  exact ⟨head?_strip, getLast?_strip⟩

end Till.Text
