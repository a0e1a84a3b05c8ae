import Mathlib.Data.List.Nodup
import Till.Operation.Job
import Till.Proofs.Checked

/-!
# Keys of slots

No two slots have the same key, in any case of its letters, and none has a key that means something
else. So the key of a bulk record names at most one slot of a kind (`Kind.bulkKey_eq_slot_iff`), and
what the merge makes of a key agrees with the check in front of it (`Kind.bulkKey_eq_unknown_iff`).
-/

namespace Till

namespace Slot

def all : List Slot :=
  [operator, cashSum, items, tax, payment, customer, seller, text .text, text .header, text .footer,
    flag .cashOut, flag .closeShift, flag .electronically, flag .cliche, flag .footer, flag .margin,
    document, connParams]

theorem mem_all (s : Slot) : s ∈ all := by
  cases s with
  | text s => cases s <;> decide
  | flag f => cases f <;> decide
  | _ => decide

theorem key_injective {s s' : Slot} (h : s.key = s'.key) : s = s' :=
  List.inj_on_of_nodup_map (f := key) (l := all) (by decide) s.mem_all s'.mem_all h

theorem key_ne {key : String} (h : key ∉ all.map Slot.key) (s : Slot) : s.key ≠ key :=
  fun hk => h (hk ▸ List.mem_map_of_mem s.mem_all)

theorem foldedKey_injective {s s' : Slot} (h : s.foldedKey = s'.foldedKey) : s = s' :=
  List.inj_on_of_nodup_map (f := foldedKey) (l := all) (by decide) s.mem_all s'.mem_all h

theorem foldedKey_ne {key : String} (h : key ∉ all.map Slot.foldedKey) (s : Slot) :
    s.foldedKey ≠ key :=
  fun hk => h (hk ▸ List.mem_map_of_mem s.mem_all)

theorem lower_key (s : Slot) : Text.lower s.key = s.foldedKey := by
  cases s with
  | text slot => cases slot <;> decide
  | flag f => cases f <;> decide
  | _ => decide

theorem find?_foldedKey_eq_some_iff {slots : List Slot} {folded : String} {s : Slot} :
    slots.find? (·.foldedKey == folded) = some s ↔ s ∈ slots ∧ folded = s.foldedKey := by
  have hkey : ∀ a ∈ slots, ∀ b ∈ slots, a.foldedKey = b.foldedKey → a = b :=
    fun _ _ _ _ h => foldedKey_injective h
  rw [List.find?_key_eq_some_iff hkey, eq_comm]

end Slot

namespace Kind
variable {k : Kind} {key : String}

theorem bulkKey_eq_skipped_iff : k.bulkKey key = .skipped ↔ Text.lower key = "details" := by
  unfold bulkKey
  simp only
  split_ifs with h₁ h₂ h₃
  · exact iff_of_true rfl h₁
  · exact iff_of_false nofun h₁
  · exact iff_of_false nofun h₁
  · exact iff_of_false (by split <;> nofun) h₁

theorem bulkKey_eq_idempotencyKey_iff :
    k.bulkKey key = .idempotencyKey ↔ Text.lower key = "idempotencykey" := by
  unfold bulkKey
  simp only
  split_ifs with h₁ h₂ h₃
  · exact iff_of_false nofun (by rw [h₁]; decide)
  · exact iff_of_true rfl h₂
  · exact iff_of_false nofun h₂
  · exact iff_of_false (by split <;> nofun) h₂

theorem bulkKey_eq_padding_iff : k.bulkKey key = .padding ↔ Text.lower key = "padding" := by
  unfold bulkKey
  simp only
  split_ifs with h₁ h₂ h₃
  · exact iff_of_false nofun (by rw [h₁]; decide)
  · exact iff_of_false nofun (by rw [h₂]; decide)
  · exact iff_of_true rfl h₃
  · exact iff_of_false (by split <;> nofun) h₃

theorem bulkKey_eq_slot_iff {s : Slot} :
    k.bulkKey key = .slot s ↔ s ∈ k.slots ∧ Text.lower key = s.foldedKey := by
  have hne := fun (folded : String) (h : folded ∉ Slot.all.map Slot.foldedKey)
    (hkey : Text.lower key = folded) => fun (he : Text.lower key = s.foldedKey) =>
      Slot.foldedKey_ne h s (he.symm.trans hkey)
  rw [← Slot.find?_foldedKey_eq_some_iff]
  unfold bulkKey
  simp only
  split_ifs with h₁ h₂ h₃
  · rw [Slot.find?_foldedKey_eq_some_iff]
    exact ⟨nofun, fun h => absurd h.2 (hne _ (by decide) h₁)⟩
  · rw [Slot.find?_foldedKey_eq_some_iff]
    exact ⟨nofun, fun h => absurd h.2 (hne _ (by decide) h₂)⟩
  · rw [Slot.find?_foldedKey_eq_some_iff]
    exact ⟨nofun, fun h => absurd h.2 (hne _ (by decide) h₃)⟩
  · cases k.slots.find? (·.foldedKey == Text.lower key) <;> simp

/-! ### The check of keys and the merge -/

theorem knows_iff :
    k.Knows key ↔ k.bulkKey key = .skipped ∨ k.bulkKey key = .idempotencyKey ∨
      k.bulkKey key = .padding ∨ ∃ s, k.bulkKey key = .slot s := by
  simp only [bulkKey_eq_skipped_iff, bulkKey_eq_idempotencyKey_iff, bulkKey_eq_padding_iff,
    bulkKey_eq_slot_iff, Knows, bulkKeys, List.mem_append, List.mem_cons, List.not_mem_nil, or_false,
    List.mem_map, or_assoc, eq_comm (a := Text.lower key) (b := Slot.foldedKey _)]

/-- A key that the check lets through is not passed over by the merge. -/
theorem bulkKey_eq_unknown_iff : k.bulkKey key = .unknown ↔ ¬ k.Knows key := by
  rw [knows_iff]
  cases k.bulkKey key <;> simp

end Kind
end Till
