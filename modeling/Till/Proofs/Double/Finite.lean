import Mathlib.Algebra.Group.Int.Defs
import Mathlib.Algebra.Group.Nat.Defs
import Till.Json.Basic

/-!
# Finite doubles

A double is finite if its exponent is not the one that is kept for infinity. The double nearest to a
whole number is, as long as the number has no more than 64 bits (`Double.isFinite_ofInt`), so every
number of a JSON text stands for a finite double (`Number.isFinite_toFloat`).
-/

namespace Float

namespace Model.UnpackedFloat
open Format (binary64)

/-- The exponent is below the one that is kept for infinity. -/
def Fits : UnpackedFloat → Prop
  | notANumber | infinity _ => False
  | zero _ => True
  | finite _ _ e _ => e < 972

theorem isFinite_unpack {b : BitVec binary64.numBits} (h : unpackExponent b ≠ -1#11) :
    (unpack binary64 b).isFinite = true := by
  unfold unpack
  dsimp only
  rw [if_neg h]
  by_cases hzero : unpackExponent b = 0#11
  · rw [if_pos hzero]
    by_cases hm : unpackMantissa b = 0#52
    · rw [dif_pos hm]
      rfl
    · rw [dif_neg hm]
      rfl
  · rw [if_neg hzero]
    rfl

theorem fits_unpack {b : BitVec binary64.numBits} (h : (unpack binary64 b).isFinite = true) :
    (unpack binary64 b).Fits := by
  unfold unpack at h ⊢
  dsimp only at h ⊢
  by_cases hmax : unpackExponent b = -1#11
  · rw [if_pos hmax] at h
    split at h <;> cases h
  · have hlt : (unpackExponent b).toNat < 2047 := by
      have hle : (unpackExponent b).toNat < 2048 := (unpackExponent b).isLt
      have hne : (unpackExponent b).toNat ≠ 2047 := fun he => hmax (BitVec.eq_of_toNat_eq he)
      omega
    rw [if_neg hmax]
    by_cases hzero : unpackExponent b = 0#11
    · rw [if_pos hzero]
      by_cases hm : unpackMantissa b = 0#52
      · rw [dif_pos hm]
        trivial
      · rw [dif_neg hm]
        change ((unpackExponent b).toNat : Int) - ((1023 : Nat) + (52 : Nat)) + 1 < 972
        rw [hzero]
        decide
    · rw [if_neg hzero]
      change ((unpackExponent b).toNat : Int) - ((1023 : Nat) + (52 : Nat)) < 972
      omega

theorem fits_neg {x : UnpackedFloat} (h : x.Fits) : x.neg.Fits := by
  cases x <;> exact h

theorem isFinite_unpack_pack {x : UnpackedFloat} (h : x.Fits) :
    (unpack binary64 (pack binary64 x)).isFinite = true := by
  refine isFinite_unpack ?_
  cases x with
  | notANumber | infinity => cases h
  | zero s =>
    change unpackExponent (packComponents binary64 s 0 0) ≠ _
    rw [unpackExponent_packComponents]
    decide
  | finite s m e hm =>
    let biased := (e + (1023 : Nat) + (52 : Nat)).toNat
    have hpack : pack binary64 (finite s m e hm) =
        if 2 ^ 11 ≤ biased + 1 then packedInfinity binary64 s
        else if m.log2 + 1 = 53 then
          packComponents binary64 s (BitVec.ofNat 11 biased) (BitVec.ofNat 52 m)
        else packComponents binary64 s 0#11 (BitVec.ofNat 52 m) := rfl
    have hlt : biased < 2047 := by
      have he : e < 972 := h
      omega
    rw [hpack, if_neg (by omega)]
    split
    · rw [unpackExponent_packComponents]
      intro he
      have hmod := congrArg BitVec.toNat he
      rw [BitVec.toNat_ofNat, Nat.mod_eq_of_lt (Nat.lt_succ_of_lt hlt)] at hmod
      exact Nat.ne_of_lt hlt hmod
    · rw [unpackExponent_packComponents]
      decide

end Model.UnpackedFloat

open Model.UnpackedFloat

/-- All bits below those of infinity are those of a finite double without a sign. -/
theorem isFinite_ofBits {n : Nat} (h : n < 2047 * 2 ^ 52) : (ofBits n.toUInt64).isFinite := by
  refine isFinite_unpack_pack (fits_unpack (isFinite_unpack fun he => ?_))
  have hmax : (n % 2 ^ 64) >>> 52 % 2 ^ 11 = 2047 := by
    simpa [unpackExponent] using congrArg BitVec.toNat he
  rw [Nat.shiftRight_eq_div_pow] at hmax
  omega

theorem isFinite_neg {x : Float} (h : x.isFinite) : (-x).isFinite :=
  isFinite_unpack_pack (fits_neg (fits_unpack h))

end Float

namespace Till

namespace Double

theorem roundDiv_le (num den : Nat) : roundDiv num den ≤ num / den + 1 := by
  unfold roundDiv
  dsimp only
  split <;> omega

/-- Scaled to an exponent that leaves it 53 bits or 54, a number is below `2 ^ 54`. -/
theorem scaled_div_lt {n : Nat} {e : Int} (h : (n.log2 : Int) - 53 ≤ e) :
    n * 2 ^ (-e).toNat / 2 ^ e.toNat < 2 ^ 54 := by
  rw [Nat.div_lt_iff_lt_mul (Nat.two_pow_pos _), ← Nat.pow_add]
  calc n * 2 ^ (-e).toNat < 2 ^ (n.log2 + 1) * 2 ^ (-e).toNat :=
        Nat.mul_lt_mul_of_pos_right Nat.lt_log2_self (Nat.two_pow_pos _)
    _ = 2 ^ (n.log2 + 1 + (-e).toNat) := (Nat.pow_add ..).symm
    _ ≤ 2 ^ (54 + e.toNat) := Nat.pow_le_pow_right (by decide) (by omega)

theorem nearestBits_lt {n : Nat} (h : n ≤ 2 ^ 64) : nearestBits n 1 < 2047 * 2 ^ 52 := by
  unfold nearestBits
  split
  · decide
  rename_i hn
  have hlog : n.log2 < 65 := (Nat.log2_lt hn).2 (Nat.lt_of_le_of_lt h (by decide))
  extract_lets guess scaled fits e
  have he : (n.log2 : Int) - 53 ≤ e ∧ e ≤ (n.log2 : Int) - 52 := by
    have hguess : guess = (n.log2 : Int) - 53 := by
      have hone : Nat.log2 1 = 0 := by decide
      simp only [guess, hone]
      omega
    simp only [e]
    split <;> omega
  have hdiv := scaled_div_lt he.1
  have hround := roundDiv_le (scaled e).1 (scaled e).2
  have hscaled : (scaled e).1 / (scaled e).2 = n * 2 ^ (-e).toNat / 2 ^ e.toNat := by
    show n * 2 ^ (-e).toNat / (1 * 2 ^ e.toNat) = _
    rw [Nat.one_mul]
  rw [hscaled] at hround
  refine Nat.lt_of_le_of_lt (Nat.min_le_left ..) ?_
  show _ + _ * 2 ^ 52 < _
  omega

theorem isFinite_nearest {n : Nat} (h : n ≤ 2 ^ 64) : (nearest n 1).isFinite :=
  Float.isFinite_ofBits (nearestBits_lt h)

theorem isFinite_ofInt {n : Int} (h : n.natAbs ≤ 2 ^ 64) : (ofInt n).isFinite := by
  unfold ofInt
  split
  · exact Float.isFinite_neg (isFinite_nearest h)
  · exact isFinite_nearest h

end Double

namespace Number

/-- A number of a JSON text: a whole number of 64 bits, with a sign or without, or a finite double. -/
def Proper : Number → Prop
  | int n => -2 ^ 63 ≤ n ∧ n < 2 ^ 64
  | real x => x.isFinite

theorem isFinite_toFloat {n : Number} (h : n.Proper) : n.toFloat.isFinite := by
  cases n with
  | int n => exact Double.isFinite_ofInt (by obtain ⟨hl, hh⟩ := h; omega)
  | real x => exact h

end Number
end Till
