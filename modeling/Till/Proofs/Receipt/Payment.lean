import Till.Proofs.Bulk.Reading
import Till.Proofs.Double.Finite

/-!
# What is read as a payment

`Payment.Accepts` says of each field of an object, for itself, what it has to be in a payment, and
`Payment.Holds` what the payment then has; `ElectronicInfo.Accepts` says it of the record within.
Main statement: a payment is read from just the objects that are so, made from just the sums that
are, and never written without a sum (`payment_grammar`).
-/

namespace Till
open Json

namespace ElectronicInfo

/-- The number and texts of an electronic payment, by key or in order. Should a key repeat, all that
stands under it has to be of its kind. -/
inductive Accepts : Json → Prop
  | object {fs : List (String × Json)}
      (hmethods : ∀ f ∈ fs, f.1 = "method" → f.2.IsWhole fun n => 0 ≤ n ∧ n < UInt32.size)
      (hids : ∀ f ∈ fs, f.1 = "id" → f.2.IsString)
      (haddInfos : ∀ f ∈ fs, f.1 = "addInfo" → f.2 = .null ∨ f.2.IsString)
      (hmethod : (fs.lookup "method").isSome) (hid : (fs.lookup "id").isSome) :
      Accepts (.object fs)
  | array {method id : Json} {addInfo : Option Json}
      (hmethod : method.IsWhole fun n => 0 ≤ n ∧ n < UInt32.size) (hid : id.IsString)
      (haddInfo : IsOptional IsString addInfo) : Accepts (.array (method :: id :: addInfo.toList))

theorem exists_ofJson_iff_columns {v : Json} :
    (∃ i, ofJson v = .ok i) ↔
      ∃ found, Shape.columns? "ElectroPaymentInfo" columns v = .ok found := by
  unfold ofJson
  cases Shape.columns? "ElectroPaymentInfo" columns v <;> simp

theorem exists_ofJson_iff {v : Json} : (∃ i, ofJson v = .ok i) ↔ Accepts v := by
  rw [exists_ofJson_iff_columns]
  cases v with
  | object fs =>
    simp only [columns?_object]
    constructor
    · rintro ⟨_, hms, hids, has, hm, hi, -⟩
      exact .object hms hids has hm hi
    · rintro ⟨hms, hids, has, hm, hi⟩
      exact ⟨_, hms, hids, has, hm, hi, rfl⟩
  | array vs =>
    simp only [columns?_array]
    constructor
    · rintro ⟨_, n, id, addInfo, rfl, hn, ha, -⟩
      exact .array ⟨n, rfl, hn⟩ ⟨id, rfl⟩ ha
    · intro h
      cases h with
      | array hm hid ha =>
        obtain ⟨n, rfl, hn⟩ := hm
        obtain ⟨id, rfl⟩ := hid
        exact ⟨_, n, id, _, rfl, hn, ha, rfl⟩
  | _ =>
    constructor
    · rintro ⟨_, h⟩; cases h
    · rintro ⟨⟩

end ElectronicInfo

namespace Payment

/-- The fields of an object are those of a payment, whose sum is `P` if it is a number. -/
structure Accepts (P : Float → Prop) (fs : List (String × Json)) : Prop where
  type : ∃ v ∈ fs.lookup "type", IsToken PaymentType v
  sum : IsOptional (fun v => v = .string "auto" ∨ v.IsNumber P) (fs.lookup "sum")
  info : IsOptional ElectronicInfo.Accepts (fs.lookup "electroPaymentInfo")

/-- The payment has what the fields say. -/
structure Holds (fs : List (String × Json)) (p : Payment) : Prop where
  type : fs.lookup "type" = some (.string (Token.token p.type))
  sum : SumDenotes (fs.lookup "sum") p.sum.toOption
  info : AsOption ElectronicInfo.Denotes (fs.lookup "electroPaymentInfo") p.info

theorem exists_sum_iff {P : Float → Prop} {v : Option Json} :
    (∃ o, SumDenotes v o ∧ ∀ x ∈ o, P x) ↔
      IsOptional (fun v => v = .string "auto" ∨ v.IsNumber P) v := by
  constructor
  · rintro ⟨o, h, ho⟩ x hx
    cases h with
    | missing => cases hx
    | null => cases hx; exact .inl rfl
    | auto => cases hx; exact .inr (.inl rfl)
    | amount n => cases hx; exact .inr (.inr ⟨n, rfl, ho _ rfl⟩)
  · intro h
    cases v with
    | none => exact ⟨none, .missing, nofun⟩
    | some x =>
      rcases h x rfl with rfl | rfl | ⟨n, rfl, hn⟩
      · exact ⟨none, .null, nofun⟩
      · exact ⟨none, .auto, nofun⟩
      · exact ⟨some n.toFloat, .amount n, fun x hx => Option.mem_some.1 hx ▸ hn⟩

section
variable {fs : List (String × Json)}

theorem ofJson_object_eq_ok_iff {p : Payment} : ofJson (.object fs) = .ok p ↔ Holds fs p := by
  constructor
  · intro h
    obtain ⟨fs', type, sum, base, o, hfs, htype, hsum, hbase, hinfo⟩ := exists_of_ofJson h
    cases hfs
    obtain ⟨ok, rfl⟩ := make_eq_ok_iff.1 hbase
    rw [ofJson_object htype hsum hinfo, hbase] at h
    cases h
    exact ⟨htype, (PaymentSum.toOption_ofOption sum).symm ▸ hsum, hinfo⟩
  · intro h
    rw [ofJson_object h.type h.sum h.info, make_self]
    rfl

theorem ofJson_eq_ok_iff {v : Json} {p : Payment} :
    ofJson v = .ok p ↔ ∃ fs, v = .object fs ∧ Holds fs p := by
  constructor
  · intro h
    obtain ⟨fs, _, _, _, _, rfl, -⟩ := exists_of_ofJson h
    exact ⟨fs, rfl, ofJson_object_eq_ok_iff.1 h⟩
  · rintro ⟨fs, rfl, h⟩
    exact ofJson_object_eq_ok_iff.2 h

theorem exists_info_iff_accepts {v : Option Json} :
    (∃ o, AsOption ElectronicInfo.Denotes v o) ↔ IsOptional ElectronicInfo.Accepts v := by
  simp only [exists_asOption_iff, ← ElectronicInfo.ofJson_eq_ok_iff,
    ElectronicInfo.exists_ofJson_iff]

theorem exists_holds_iff : (∃ p, Holds fs p) ↔ Accepts (·.isFinite) fs := by
  constructor
  · rintro ⟨p, htype, hsum, hinfo⟩
    exact ⟨⟨_, htype, isToken_iff.2 ⟨p.type, rfl⟩⟩,
      exists_sum_iff.1 ⟨_, hsum, PaymentSum.check_eq_ok_iff.1 p.sum_ok⟩,
      exists_info_iff_accepts.1 ⟨_, hinfo⟩⟩
  · rintro ⟨⟨_, htype, ht⟩, hsum, hinfo⟩
    obtain ⟨type, rfl⟩ := isToken_iff.1 ht
    obtain ⟨sum, hsum, hfinite⟩ := exists_sum_iff.2 hsum
    obtain ⟨info, hinfo⟩ := exists_info_iff_accepts.2 hinfo
    rw [← PaymentSum.toOption_ofOption sum] at hsum hfinite
    exact ⟨⟨type, .ofOption sum, info, PaymentSum.check_eq_ok_iff.2 hfinite⟩, htype, hsum, hinfo⟩

/-- Of the numbers of a JSON text any will do. -/
theorem accepts_finite_iff (h : ∀ n, fs.lookup "sum" = some (.number n) → n.Proper) :
    Accepts (·.isFinite) fs ↔ Accepts (fun _ => True) fs := by
  have hnumber : ∀ v ∈ fs.lookup "sum",
      (v.IsNumber (·.isFinite) ↔ v.IsNumber fun _ => True) := by
    intro v hv
    constructor
    · rintro ⟨n, rfl, -⟩; exact ⟨n, rfl, trivial⟩
    · rintro ⟨n, rfl, -⟩; exact ⟨n, rfl, n.isFinite_toFloat (h n hv)⟩
  constructor
  · rintro ⟨htype, hsum, hinfo⟩
    exact ⟨htype, fun v hv => (hsum v hv).imp_right (.imp_right (hnumber v hv).1), hinfo⟩
  · rintro ⟨htype, hsum, hinfo⟩
    exact ⟨htype, fun v hv => (hsum v hv).imp_right (.imp_right (hnumber v hv).2), hinfo⟩

end

theorem nodup_fields (p : Payment) (inner : List (String × Json) → Json) :
    ((p.fields inner).map (·.1)).Nodup := by
  unfold fields
  cases p.info <;> simp

theorem lookup_sum_toJson (p : Payment) :
    ∃ fs, p.toJson = .object fs ∧ fs.lookup "sum" = some p.sum.toJson :=
  ⟨_, rfl, Entries.lookup_ofList_of_mem (p.nodup_fields _) (.tail _ (.head _))⟩

end Payment

/-- A value is read as a payment just if it is an object with a token for its type and, if they are
given, a sum that is `"auto"` or a finite number, as all numbers of a JSON text are, and a record of
an electronic payment; the payment has just what the fields say. A payment is made from any type and
the same sums. So the sum that it is written with is `"auto"` or a number, and never `null`. -/
theorem payment_grammar :
    (∀ v, (∃ p, Payment.ofJson v = .ok p) ↔
      ∃ fs, v = .object fs ∧ Payment.Accepts (·.isFinite) fs) ∧
    (∀ fs, (∀ n, fs.lookup "sum" = some (.number n) → n.Proper) →
      ((∃ p, Payment.ofJson (.object fs) = .ok p) ↔ Payment.Accepts (fun _ => True) fs)) ∧
    (∀ v p, Payment.ofJson v = .ok p ↔ ∃ fs, v = .object fs ∧ Payment.Holds fs p) ∧
    (∀ type sum, (∃ p, Payment.make type sum = .ok p) ↔ ∀ x ∈ sum, x.isFinite) ∧
    (∀ type sum p, Payment.make type sum = .ok p →
      p.type = type ∧ p.sum.toOption = sum ∧ p.info = none) ∧
    ∀ p : Payment, ∃ fs, p.toJson = .object fs ∧
      (p.sum = .auto ∧ fs.lookup "sum" = some (.string "auto") ∨
        ∃ x, p.sum = .amount x ∧ x.isFinite ∧ fs.lookup "sum" = some (.number (.real x))) := by
  have hobject (fs : List (String × Json)) :
      (∃ p, Payment.ofJson (.object fs) = .ok p) ↔ Payment.Accepts (·.isFinite) fs := by
    simp only [Payment.ofJson_object_eq_ok_iff, Payment.exists_holds_iff]
  refine ⟨fun v => ?_, fun fs h => ?_, fun _ _ => Payment.ofJson_eq_ok_iff, fun _ sum => ?_,
    fun _ sum p h => ?_, fun p => ?_⟩
  · constructor
    · rintro ⟨p, h⟩
      obtain ⟨fs, rfl, hp⟩ := Payment.ofJson_eq_ok_iff.1 h
      exact ⟨fs, rfl, Payment.exists_holds_iff.1 ⟨p, hp⟩⟩
    · rintro ⟨fs, rfl, h⟩
      exact (hobject fs).2 h
  · rw [hobject, Payment.accepts_finite_iff h]
  · rw [Payment.exists_make_iff, PaymentSum.check_eq_ok_iff, PaymentSum.toOption_ofOption]
  · obtain ⟨-, rfl⟩ := Payment.make_eq_ok_iff.1 h
    exact ⟨rfl, PaymentSum.toOption_ofOption sum, rfl⟩
  · obtain ⟨fs, hfs, hsum⟩ := p.lookup_sum_toJson
    have hok := p.sum_ok
    refine ⟨fs, hfs, ?_⟩
    cases hs : p.sum with
    | auto =>
      rw [hs] at hsum
      exact .inl ⟨rfl, hsum⟩
    | amount x =>
      rw [hs] at hok hsum
      have hx := Limits.checkPaymentSum_eq_ok_iff.1 hok
      rw [PaymentSum.toJson, ofFloat_of_isFinite hx] at hsum
      exact .inr ⟨x, rfl, hx, hsum⟩

end Till
