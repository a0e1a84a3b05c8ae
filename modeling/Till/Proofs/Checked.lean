import Mathlib.Data.List.Find
import Mathlib.Data.List.Forall2
import Till.ClientError

/-!
# Results that are values

When a composed check succeeds, each part of it has. A search by key finds the one member that has
the key.
-/

namespace Except
variable {ε ε' α β : Type}

theorem map_eq_ok_iff {x : Except ε α} {f : α → β} {b : β} :
    x.map f = .ok b ↔ ∃ a, x = .ok a ∧ f a = b := by
  cases x <;> simp [Except.map]

theorem exists_map_eq_ok_iff {x : Except ε α} {f : α → β} :
    (∃ b, x.map f = .ok b) ↔ ∃ a, x = .ok a := by
  cases x <;> simp [Except.map]

theorem bind_eq_ok_iff {x : Except ε α} {f : α → Except ε β} {b : β} :
    (x >>= f) = .ok b ↔ ∃ a, x = .ok a ∧ f a = .ok b := by
  cases x <;> simp [bind, Except.bind]

theorem pure_eq_ok_iff {a b : α} : (pure a : Except ε α) = .ok b ↔ a = b := by
  simp [pure, Except.pure]

theorem elim_eq_ok_iff {o : Option α} {e : ε} {a : α} :
    (o.elim (.error e) .ok : Except ε α) = .ok a ↔ o = some a := by
  cases o <;> simp

theorem elim_eq_error_iff {o : Option α} {e e' : ε} :
    (o.elim (.error e) .ok : Except ε α) = .error e' ↔ (∀ a, o ≠ some a) ∧ e' = e := by
  cases o <;> simp [eq_comm]

theorem mapError_eq_ok_iff {x : Except ε α} {f : ε → ε'} {a : α} :
    x.mapError f = .ok a ↔ x = .ok a := by
  cases x <;> simp [Except.mapError]

theorem eq_ok_of_isOk {x : Except ε Unit} (h : x.isOk = true) : x = .ok () := by
  cases x with
  | error e => cases h
  | ok => rfl

/-- A list is read if each of its members is. -/
theorem mapM_eq_ok_iff {f : α → Except ε β} {l : List α} {l' : List β} :
    l.mapM f = .ok l' ↔ List.Forall₂ (fun a b => f a = .ok b) l l' := by
  induction l generalizing l' with
  | nil =>
    rw [List.mapM_nil, pure_eq_ok_iff]
    constructor
    · rintro rfl; exact .nil
    · intro h; cases h; rfl
  | cons a l ih =>
    rw [List.mapM_cons, bind_eq_ok_iff]
    constructor
    · rintro ⟨b, hb, h⟩
      obtain ⟨bs, hbs, h⟩ := bind_eq_ok_iff.1 h
      cases pure_eq_ok_iff.1 h
      exact .cons hb (ih.1 hbs)
    · intro h
      cases h with
      | cons hb hbs => exact ⟨_, hb, bind_eq_ok_iff.2 ⟨_, ih.2 hbs, rfl⟩⟩

end Except

theorem List.find?_key_eq_some_iff {α β : Type} [BEq β] [LawfulBEq β] {key : α → β} {l : List α}
    (hkey : ∀ a ∈ l, ∀ b ∈ l, key a = key b → a = b) {k : β} {a : α} :
    l.find? (fun x => key x == k) = some a ↔ a ∈ l ∧ key a = k := by
  constructor
  · intro h
    exact ⟨List.mem_of_find?_eq_some h, by simpa using List.find?_some h⟩
  · rintro ⟨ha, rfl⟩
    cases h : l.find? (fun x => key x == key a) with
    | none => exact absurd (beq_self_eq_true (key a)) (List.find?_eq_none.1 h a ha)
    | some b =>
      have hb : key b = key a := by simpa using List.find?_some h
      rw [hkey b (List.mem_of_find?_eq_some h) a ha hb]

/-- A search by key cannot tell two that are the same of the keys there are. -/
theorem List.find?_key_congr {α β : Type} [BEq β] [LawfulBEq β] {key : α → β} {l : List α} {k k' : β}
    (h : ∀ a ∈ l, k = key a ↔ k' = key a) :
    l.find? (fun x => key x == k) = l.find? (fun x => key x == k') := by
  refine find?_congr fun a ha => ?_
  rw [Bool.eq_iff_iff, beq_iff_eq, beq_iff_eq, eq_comm, h a ha, eq_comm]

namespace Till

theorem Checked.lift_eq_ok_iff {α : Type} {x : Checked α} {a : α} : x.lift = .ok a ↔ x = .ok a :=
  Except.mapError_eq_ok_iff

end Till
