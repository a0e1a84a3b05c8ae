import Till.Proofs.Limits
import Till.Receipt.Item
import Till.Receipt.Operator
import Till.Receipt.Payment
import Till.Receipt.TextBlock

/-!
# Records that are made

When the values of a record are accepted, and what the record then holds (`Item.make_eq_ok_iff` and
its siblings). A record that exists can be made from what it holds (`Item.make_self`).
-/

namespace Till

namespace Operator
variable {name : String} {inn : Option String}

theorem make_eq_ok_iff {o : Operator} :
    make name inn = .ok o ↔
      Limits.operatorName name = .ok o.name ∧ cleanInn inn = o.inn := by
  unfold make
  constructor
  · intro h
    split at h
    · cases h
    · rename_i n hn
      cases h
      exact ⟨hn, rfl⟩
  · obtain ⟨n, i, hn, hi⟩ := o
    rintro ⟨hname, hinn⟩
    cases hinn
    split
    · rename_i e h
      cases hname.symm.trans h
    · rename_i n' h
      cases hname.symm.trans h
      rfl

theorem exists_make_iff : (∃ o, make name inn = .ok o) ↔ Text.isBlankText name = false := by
  have hname : Limits.operatorName name =
      if Text.isBlankText name then .error (.required "operator.name") else .ok (Text.trim name) := rfl
  cases hblank : Text.isBlankText name with
  | true =>
    rw [hblank, if_pos rfl] at hname
    refine iff_of_false ?_ Bool.false_ne_true.symm
    rintro ⟨o, ho⟩
    cases hname.symm.trans (make_eq_ok_iff.1 ho).1
  | false =>
    rw [hblank, if_neg Bool.false_ne_true] at hname
    exact iff_of_true ⟨⟨_, _, Limits.operatorName_trim hname, cleanInn_ok⟩,
      make_eq_ok_iff.2 ⟨hname, rfl⟩⟩ rfl

theorem make_self (o : Operator) : make o.name o.inn = .ok o := by
  refine make_eq_ok_iff.2 ⟨o.name_ok, ?_⟩
  cases h : o.inn with
  | none => rfl
  | some i =>
    obtain ⟨ht, hne⟩ := o.inn_ok i h
    simp [cleanInn, Option.filter, ht, hne]

end Operator

namespace Item
variable {title : String} {price quantity : Float}

theorem make_eq_ok_iff {i : Item} :
    make title price quantity = .ok i ↔
      ∃ ht hp hq, i = ⟨title, price, quantity, none, none, ht, hp, hq⟩ := by
  unfold make
  constructor
  · intro h
    split at h
    · cases h
    · rename_i ht
      split at h
      · cases h
      · rename_i hp
        split at h
        · cases h
        · rename_i hq
          cases h
          exact ⟨ht, hp, hq, rfl⟩
  · rintro ⟨ht, hp, hq, rfl⟩
    split
    · rename_i h; cases ht.symm.trans h
    · split
      · rename_i h; cases hp.symm.trans h
      · split
        · rename_i h; cases hq.symm.trans h
        · rfl

/-- The title, the price and the quantity are within their limits. -/
def Within (title : String) (price quantity : Float) : Prop :=
  Limits.checkTitle title = .ok () ∧ Limits.checkPrice price = .ok () ∧
    Limits.checkQuantity quantity = .ok ()

theorem exists_make_iff : (∃ i, make title price quantity = .ok i) ↔ Within title price quantity := by
  constructor
  · rintro ⟨i, hi⟩
    obtain ⟨ht, hp, hq, -⟩ := make_eq_ok_iff.1 hi
    exact ⟨ht, hp, hq⟩
  · rintro ⟨ht, hp, hq⟩
    exact ⟨_, make_eq_ok_iff.2 ⟨ht, hp, hq, rfl⟩⟩

theorem make_self (i : Item) :
    ∃ base, make i.title i.price i.quantity = .ok base ∧
      (base.withTax i.tax).withUnit i.unit = i :=
  ⟨_, make_eq_ok_iff.2 ⟨i.title_ok, i.price_ok, i.quantity_ok, rfl⟩, rfl⟩

end Item

namespace PaymentSum

def toOption : PaymentSum → Option Float
  | auto => none
  | amount x => some x

theorem toOption_ofOption (o : Option Float) : (ofOption o).toOption = o := by
  cases o <;> rfl

theorem ofOption_toOption (s : PaymentSum) : ofOption s.toOption = s := by
  cases s <;> rfl

theorem check_eq_ok_iff {s : PaymentSum} : s.check = .ok () ↔ ∀ x ∈ s.toOption, x.isFinite := by
  cases s with
  | auto => exact iff_of_true rfl nofun
  | amount x =>
    rw [check, Limits.checkPaymentSum_eq_ok_iff]
    simp [toOption]

end PaymentSum

namespace Payment
variable {type : PaymentType} {sum : Option Float}

theorem make_eq_ok_iff {p : Payment} :
    make type sum = .ok p ↔ ∃ h, p = ⟨type, .ofOption sum, none, h⟩ := by
  unfold make
  constructor
  · intro h
    split at h
    · cases h
    · rename_i ok
      cases h
      exact ⟨ok, rfl⟩
  · rintro ⟨ok, rfl⟩
    split
    · rename_i h; cases ok.symm.trans h
    · rfl

theorem exists_make_iff :
    (∃ p, make type sum = .ok p) ↔ (PaymentSum.ofOption sum).check = .ok () := by
  constructor
  · rintro ⟨p, hp⟩
    exact (make_eq_ok_iff.1 hp).1
  · exact fun h => ⟨_, make_eq_ok_iff.2 ⟨h, rfl⟩⟩

theorem make_self (p : Payment) : make p.type p.sum.toOption = .ok (p.withInfo none) := by
  have ok : (PaymentSum.ofOption p.sum.toOption).check = .ok () := by
    rw [p.sum.ofOption_toOption]
    exact p.sum_ok
  refine make_eq_ok_iff.2 ⟨ok, ?_⟩
  simp only [withInfo, p.sum.ofOption_toOption]

end Payment

theorem TextBlock.make_self (b : TextBlock) :
    make b.content b.center b.magnified b.separated = b := by
  obtain ⟨content, center, magnified, separated, htrim⟩ := b
  simp only [make, htrim]

end Till
