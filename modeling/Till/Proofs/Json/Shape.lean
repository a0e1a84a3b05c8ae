import Mathlib.Data.List.Nodup
import Till.Json.Shape
import Till.Proofs.Checked

/-!
# Columns that fit

What the columns of a record accept, and when a record of columns is read from an object
(`Shape.ofFields?_eq_ok_iff`).
-/

namespace Till.Shape

namespace Column
variable {name : String} {required : Bool} {v : Json}

theorem text_mismatch_eq_none_iff : (text name required).mismatch v = none ↔ ∃ s, v = .string s := by
  constructor
  · intro h
    cases v with
    | string s => exact ⟨s, rfl⟩
    | _ => cases h
  · rintro ⟨s, rfl⟩
    rfl

theorem optionalText_mismatch_eq_none_iff :
    (optionalText name).mismatch v = none ↔ v = .null ∨ ∃ s, v = .string s := by
  constructor
  · intro h
    cases v with
    | null => exact .inl rfl
    | string s => exact .inr ⟨s, rfl⟩
    | _ => cases h
  · rintro (rfl | ⟨s, rfl⟩) <;> rfl

theorem word_mismatch_eq_none_iff :
    (word name required).mismatch v = none ↔
      ∃ n : Int, v = .number (.int n) ∧ 0 ≤ n ∧ n < UInt32.size := by
  have hint (n : Int) : word? (.number (.int n)) =
      if 0 ≤ n ∧ n < UInt32.size then .ok n.toNat else .error (.wrongValue (.number (.int n)) "u32") := rfl
  constructor
  · intro h
    cases v with
    | number n =>
      cases n with
      | int n =>
        by_cases hn : 0 ≤ n ∧ n < UInt32.size
        · exact ⟨n, rfl, hn⟩
        · simp only [word, hint, if_neg hn] at h
          cases h
      | real x => cases h
    | _ => cases h
  · rintro ⟨n, rfl, hn⟩
    simp only [word, hint, if_pos hn]
    rfl

end Column

theorem mem_find?_name {cs : List Column} (hcs : (cs.map (·.name)).Nodup) {key : String}
    {c : Column} : c ∈ cs.find? (·.name == key) ↔ c ∈ cs ∧ c.name = key := by
  have hname : ∀ a ∈ cs, ∀ b ∈ cs, a.name = b.name → a = b :=
    fun _ ha _ hb h => List.inj_on_of_nodup_map hcs ha hb h
  exact List.find?_key_eq_some_iff hname

/-- Columns are read from an object if what stands under their names fits them and nothing that is
required is missing. -/
theorem ofFields?_eq_ok_iff {cs : List Column} (hcs : (cs.map (·.name)).Nodup)
    {fs : List (String × Json)} {found : List (Option Json)} :
    ofFields? cs fs = .ok found ↔
      (∀ c ∈ cs, ∀ f ∈ fs, f.1 = c.name → c.mismatch f.2 = none) ∧
        (∀ c ∈ cs, c.required = true → (fs.lookup c.name).isSome) ∧
        found = cs.map fun c => fs.lookup c.name := by
  have hfits : (fs.findSome? fun f => (cs.find? (·.name == f.1)).bind (·.mismatch f.2)) = none ↔
      ∀ c ∈ cs, ∀ f ∈ fs, f.1 = c.name → c.mismatch f.2 = none := by
    simp only [List.findSome?_eq_none_iff, Option.bind_eq_none_iff, ← Option.mem_def,
      mem_find?_name hcs]
    constructor
    · exact fun h c hc f hf hn => h f hf c ⟨hc, hn.symm⟩
    · exact fun h f hf c ⟨hc, hn⟩ => h c hc f hf hn.symm
  have hthere : (cs.find? fun c => c.required && (fs.lookup c.name).isNone) = none ↔
      ∀ c ∈ cs, c.required = true → (fs.lookup c.name).isSome := by
    simp [List.find?_eq_none, Option.isSome_iff_ne_none]
  unfold ofFields?
  rw [← hfits, ← hthere]
  constructor
  · intro h
    split at h
    · cases h
    · split at h
      · cases h
      · cases h
        exact ⟨‹_›, ‹_›, rfl⟩
  · rintro ⟨h, h', rfl⟩
    rw [h]
    simp only [h']

/-! ### Arrays -/

section
variable {expected : String} {i : Nat} {c : Column} {cs : List Column} {v : Json} {vs : List Json}
  {found : List (Option Json)}

theorem ofItems?_cons_cons_eq_ok_iff :
    ofItems? expected i (c :: cs) (v :: vs) = .ok found ↔
      c.mismatch v = none ∧
        ∃ rest, ofItems? expected (i + 1) cs vs = .ok rest ∧ some v :: rest = found := by
  rw [ofItems?]
  cases c.mismatch v <;> simp [Except.map_eq_ok_iff]

end

end Till.Shape
