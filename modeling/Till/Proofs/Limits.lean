import Till.Limits

/-!
# What the limits let through

A value passes its check just if it lies within the bounds of its field. Doubles between two finite
ones are finite (`Float.isFinite_of_le_of_le`), so a double in a range with finite ends can be
written as a JSON number.
-/

namespace Float

namespace Model.UnpackedFloat

theorem isFinite_of_le_of_le {l x h : UnpackedFloat} (hl : l.isFinite) (hh : h.isFinite)
    (hlx : l.le x) (hxh : x.le h) : x.isFinite := by
  cases x with
  | notANumber => cases h <;> exact hxh
  | infinity s =>
    cases s with
    | positive =>
      -- only an infinite or undefined bound lies above
      cases h <;> first | exact hxh | exact hh
    | negative =>
      cases l with
      | notANumber | infinity => exact hl
      | zero => exact hlx
      | finite s => cases s <;> exact hlx
  | zero => rfl
  | finite => rfl

end Model.UnpackedFloat

theorem isFinite_of_le_of_le {l x h : Float} (hl : l.isFinite) (hh : h.isFinite) (hlx : l ≤ x)
    (hxh : x ≤ h) : x.isFinite :=
  Model.UnpackedFloat.isFinite_of_le_of_le (l := l.toModel.unpack) (h := h.toModel.unpack) hl hh
    (of_decide_eq_true hlx) (of_decide_eq_true hxh)

end Float

namespace Till

namespace Range
variable {r : Range} {field : String} {x : Float}

theorem check_eq_ok_iff : r.check field x = .ok () ↔ r.low ≤ x ∧ x ≤ r.high := by
  have hc : r.contains x = true ↔ r.low ≤ x ∧ x ≤ r.high := by simp [contains]
  rw [← hc]
  unfold check
  split <;> simp [*]

end Range

theorem Json.ofFloat_of_isFinite {x : Float} (h : x.isFinite) :
    Json.ofFloat x = .number (.real x) :=
  if_pos h

namespace Limits

theorem checkTitle_eq_ok_iff {title : String} :
    checkTitle title = .ok () ↔ 1 ≤ title.length ∧ title.length ≤ 200 := by
  unfold checkTitle titleMin titleMax
  split
  · simp; omega
  · split
    · simp; omega
    · simp; omega

theorem checkPrice_eq_ok_iff {x : Float} : checkPrice x = .ok () ↔ 0.01 ≤ x ∧ x ≤ 999999.99 :=
  Range.check_eq_ok_iff

theorem checkQuantity_eq_ok_iff {x : Float} :
    checkQuantity x = .ok () ↔ 0.001 ≤ x ∧ x ≤ 999999.999 :=
  Range.check_eq_ok_iff

theorem checkCashSum_eq_ok_iff {x : Float} :
    checkCashSum x = .ok () ↔ 0.01 ≤ x ∧ x ≤ 999999.99 :=
  Range.check_eq_ok_iff

theorem checkPaymentSum_eq_ok_iff {x : Float} : checkPaymentSum x = .ok () ↔ x.isFinite := by
  unfold checkPaymentSum
  split <;> simp [*]

theorem price_bounds {x : Float} (h : checkPrice x = .ok ()) :
    (0.01 ≤ x ∧ x ≤ 999999.99) ∧ x.isFinite :=
  have hb := checkPrice_eq_ok_iff.1 h
  ⟨hb, Float.isFinite_of_le_of_le (by decide +kernel) (by decide +kernel) hb.1 hb.2⟩

theorem quantity_bounds {x : Float} (h : checkQuantity x = .ok ()) :
    (0.001 ≤ x ∧ x ≤ 999999.999) ∧ x.isFinite :=
  have hb := checkQuantity_eq_ok_iff.1 h
  ⟨hb, Float.isFinite_of_le_of_le (by decide +kernel) (by decide +kernel) hb.1 hb.2⟩

theorem cashSum_bounds {x : Float} (h : checkCashSum x = .ok ()) :
    (0.01 ≤ x ∧ x ≤ 999999.99) ∧ x.isFinite :=
  have hb := checkCashSum_eq_ok_iff.1 h
  ⟨hb, Float.isFinite_of_le_of_le (by decide +kernel) (by decide +kernel) hb.1 hb.2⟩

theorem operatorName_ok {name n : String} (h : operatorName name = .ok n) :
    n = Text.trim name ∧ n ≠ "" := by
  unfold operatorName at h
  split at h
  · cases h
  · rename_i hb
    cases h
    refine ⟨rfl, ?_⟩
    simpa [Text.isBlankText] using hb

end Limits
end Till
