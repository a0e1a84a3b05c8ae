import Mathlib.Data.List.Lex

/-!
# The order of bytes

Texts are compared letter by letter, and UTF-8 keeps that order: it is the order of their bytes as
well (`bytes_lt_iff`). Two letters that differ have forms of which neither begins the other, and at
the first byte in which the forms differ the lesser letter has the lesser byte
(`below_utf8EncodeChar`).
-/

namespace Till.Text

/-- The bytes of a text in UTF-8. -/
def bytes (s : String) : List UInt8 :=
  s.toUTF8.data.toList

theorem bytes_eq (s : String) : bytes s = s.toList.flatMap String.utf8EncodeChar := by
  rw [← String.ofList_toList (s := s), String.toList_ofList]
  exact List.toList_data_toByteArray

/-- At the first place where the lists differ, the first one has the lesser byte. -/
inductive Below : List UInt8 → List UInt8 → Prop
  | head {x y : UInt8} {l l' : List UInt8} (h : x < y) : Below (x :: l) (y :: l')
  | tail {x : UInt8} {l l' : List UInt8} (h : Below l l') : Below (x :: l) (x :: l')

namespace Below
variable {l l' : List UInt8}

theorem append (h : Below l l') (m m' : List UInt8) : Below (l ++ m) (l' ++ m') := by
  induction h with
  | head h => exact .head h
  | tail _ ih => exact .tail ih

theorem lt (h : Below l l') : l < l' := by
  induction h with
  | head h => exact .rel h
  | tail _ ih => exact .cons ih

/-- Bytes that are given as numbers: the first decides unless they are the same. -/
theorem cons_ofNat {m n : Nat} (hn : n < 256) (hle : m ≤ n) (h : m = n → Below l l') :
    Below (UInt8.ofNat m :: l) (UInt8.ofNat n :: l') := by
  rcases Nat.lt_or_eq_of_le hle with hlt | rfl
  · refine .head (UInt8.lt_iff_toNat_lt.2 ?_)
    have hm : m < 256 := Nat.lt_trans hlt hn
    rwa [UInt8.toNat_ofNat_of_lt' hn, UInt8.toNat_ofNat_of_lt' hm]
  · exact .tail (h rfl)

end Below

theorem below_utf8EncodeChar {c d : Char} (h : c < d) :
    Below (String.utf8EncodeChar c) (String.utf8EncodeChar d) := by
  have hlt : c.val.toNat < d.val.toNat := h
  have hd : d.val.toNat < 0x110000 := d.valid.elim (by omega) (by omega)
  unfold String.utf8EncodeChar
  simp only
  generalize c.val.toNat = m at hlt
  generalize d.val.toNat = n at hlt hd
  -- a longer form starts with a greater byte; in forms of one length the first digits that differ
  -- in base 64 decide
  split_ifs <;> repeat' first | omega | refine .cons_ofNat (by omega) (by omega) fun _ => ?_

theorem bytes_lt_of_lt {a b : String} (h : a < b) : bytes a < bytes b := by
  have hl : List.Lex (· < ·) a.toList b.toList := h
  rw [bytes_eq, bytes_eq]
  generalize a.toList = l, b.toList = l' at hl
  induction hl with
  | @nil c l =>
    obtain ⟨x, m, hx⟩ := List.exists_cons_of_ne_nil (String.utf8EncodeChar_ne_nil (c := c))
    rw [List.flatMap_cons, hx]
    exact .nil
  | @cons c l l' _ ih => exact List.Lex.append_left _ ih _
  | rel h => exact ((below_utf8EncodeChar h).append _ _).lt

/-- Texts are ordered as their bytes are. -/
theorem bytes_lt_iff {a b : String} : bytes a < bytes b ↔ a < b := by
  refine ⟨fun h => ?_, bytes_lt_of_lt⟩
  by_contra hn
  rcases Std.lt_trichotomy a b with hab | rfl | hab
  · exact hn hab
  · exact List.lt_irrefl _ h
  · exact List.lt_asymm h (bytes_lt_of_lt hab)

theorem bytes_le_iff {a b : String} : bytes a ≤ bytes b ↔ a ≤ b := by
  rw [← List.not_lt, ← String.not_lt, bytes_lt_iff]

end Till.Text
