import Till.Proofs.Bulk.Reading

/-!
# What is read as an item

`Item.Accepts` says of each field of an object, for itself, what it has to be in an item, and
`Item.Holds` what the item then has. Main statement: an item is read from just the objects that are
so, and made from just the values that are (`item_grammar`).
-/

namespace Till
open Json

namespace Item

/-- One to two hundred characters, however many bytes they take. -/
def IsTitle (s : String) : Prop :=
  1 ≤ s.length ∧ s.length ≤ 200

def IsPrice (x : Float) : Prop :=
  0.01 ≤ x ∧ x ≤ 999999.99

def IsQuantity (x : Float) : Prop :=
  0.001 ≤ x ∧ x ≤ 999999.999

def keys : List String :=
  ["title", "price", "quantity", "tax", "unit"]

/-- The fields of an object are those of an item. What stands under other keys does not count. -/
structure Accepts (fs : List (String × Json)) : Prop where
  title : ∃ v ∈ fs.lookup "title", IsText IsTitle v
  price : ∃ v ∈ fs.lookup "price", IsNumber IsPrice v
  quantity : IsOptional (IsNumber IsQuantity) (fs.lookup "quantity")
  tax : IsOptional (IsToken Tax) (fs.lookup "tax")
  unit : IsOptional (IsToken MeasureUnit) (fs.lookup "unit")

/-- The item has what the fields say: the title with all its blanks, and without a quantity there is
one. -/
structure Holds (fs : List (String × Json)) (i : Item) : Prop where
  title : fs.lookup "title" = some (.string i.title)
  price : ∃ n, fs.lookup "price" = some (.number n) ∧ n.toFloat = i.price
  quantity : ∃ o, AsOption AsNumber (fs.lookup "quantity") o ∧ o.getD 1 = i.quantity
  tax : AsOption AsToken (fs.lookup "tax") i.tax
  unit : AsOption AsToken (fs.lookup "unit") i.unit

theorem within_iff {title : String} {price quantity : Float} :
    Within title price quantity ↔ IsTitle title ∧ IsPrice price ∧ IsQuantity quantity := by
  rw [Within, Limits.checkTitle_eq_ok_iff, Limits.checkPrice_eq_ok_iff,
    Limits.checkQuantity_eq_ok_iff]
  rfl

theorem isQuantity_one : IsQuantity 1 :=
  ⟨by decide +kernel, by decide +kernel⟩

/-- What no price is given for costs too little. -/
theorem not_isPrice_zero : ¬ IsPrice 0 :=
  fun h => absurd h.1 (by decide +kernel)

theorem isFinite_of_isPrice {x : Float} (h : IsPrice x) : x.isFinite :=
  (Limits.price_bounds (Limits.checkPrice_eq_ok_iff.2 h)).2

theorem isFinite_of_isQuantity {x : Float} (h : IsQuantity x) : x.isFinite :=
  (Limits.quantity_bounds (Limits.checkQuantity_eq_ok_iff.2 h)).2

section
variable {fs fs' : List (String × Json)}

theorem ofJson_congr (h : ∀ key ∈ keys, fs.lookup key = fs'.lookup key) :
    ofJson (.object fs) = ofJson (.object fs') := by
  simp only [keys, List.forall_mem_cons] at h
  obtain ⟨ht, hp, hq, htax, hunit, -⟩ := h
  simp only [ofJson, objectFor, requiredString, floatOr, present?, tokenAt, ht, hp, hq, htax, hunit,
    bind, Except.bind]

theorem denotes_iff_holds {i : Item} : Denotes (.object fs) i ↔ Holds fs i := by
  constructor
  · rintro ⟨ht, hp, hq, htax, hunit, hi⟩
    obtain ⟨-, okp, -, rfl⟩ := make_eq_ok_iff.1 hi
    refine ⟨ht, ?_, ⟨_, hq, rfl⟩, htax, hunit⟩
    have hprice := Limits.checkPrice_eq_ok_iff.1 okp
    generalize fs.lookup "price" = v at hp
    cases hp with
    | missing | null => exact absurd hprice not_isPrice_zero
    | given h => obtain ⟨n⟩ := h; exact ⟨n, rfl, rfl⟩
  · rintro ⟨ht, ⟨n, hp, hn⟩, ⟨o, hq, ho⟩, htax, hunit⟩
    obtain ⟨base, hbase, hi⟩ := i.make_self
    have hprice : AsOption AsNumber (fs.lookup "price") (some n.toFloat) := hp ▸ .given (.of n)
    rw [← hi]
    refine .of ht hprice hq htax hunit ?_
    rw [Option.getD_some, hn, ho, hbase]

theorem ofJson_object_eq_ok_iff {i : Item} : ofJson (.object fs) = .ok i ↔ Holds fs i :=
  ofJson_eq_ok_iff.trans denotes_iff_holds

theorem ofJson_eq_ok_iff_holds {v : Json} {i : Item} :
    ofJson v = .ok i ↔ ∃ fs, v = .object fs ∧ Holds fs i := by
  constructor
  · intro h
    obtain ⟨fs, hv, -⟩ := Except.bind_eq_ok_iff.1 h
    cases objectFor_eq_ok_iff.1 hv
    exact ⟨fs, rfl, ofJson_object_eq_ok_iff.1 h⟩
  · rintro ⟨fs, rfl, h⟩
    exact ofJson_object_eq_ok_iff.2 h

theorem exists_quantity_iff {v : Option Json} :
    (∃ o, AsOption AsNumber v o ∧ IsQuantity (o.getD 1)) ↔ IsOptional (IsNumber IsQuantity) v := by
  constructor
  · rintro ⟨o, h, ho⟩ x hx
    cases h with
    | missing => cases hx
    | null => cases hx; exact .inl rfl
    | given h => obtain ⟨n⟩ := h; cases hx; exact .inr ⟨n, rfl, ho⟩
  · intro h
    cases v with
    | none => exact ⟨none, .missing, isQuantity_one⟩
    | some x =>
      rcases h x rfl with rfl | ⟨n, rfl, hn⟩
      · exact ⟨none, .null, isQuantity_one⟩
      · exact ⟨some n.toFloat, .given (.of n), hn⟩

theorem exists_holds_iff : (∃ i, Holds fs i) ↔ Accepts fs := by
  constructor
  · rintro ⟨i, ht, ⟨n, hp, hn⟩, ⟨o, hq, ho⟩, htax, hunit⟩
    obtain ⟨htitle, hprice, hquantity⟩ := within_iff.1 ⟨i.title_ok, i.price_ok, i.quantity_ok⟩
    exact ⟨⟨_, ht, _, rfl, htitle⟩, ⟨_, hp, _, rfl, hn ▸ hprice⟩,
      exists_quantity_iff.1 ⟨o, hq, ho ▸ hquantity⟩, exists_asToken_iff.1 ⟨_, htax⟩,
      exists_asToken_iff.1 ⟨_, hunit⟩⟩
  · rintro ⟨⟨_, ht, title, rfl, htitle⟩, ⟨_, hp, n, rfl, hprice⟩, hq, htax, hunit⟩
    obtain ⟨o, ho, hquantity⟩ := exists_quantity_iff.2 hq
    obtain ⟨tax, htax⟩ := exists_asToken_iff.2 htax
    obtain ⟨unit, hunit⟩ := exists_asToken_iff.2 hunit
    obtain ⟨okt, okp, okq⟩ := within_iff.2 ⟨htitle, hprice, hquantity⟩
    exact ⟨⟨title, n.toFloat, o.getD 1, tax, unit, okt, okp, okq⟩, ht, ⟨n, hp, rfl⟩, ⟨o, ho, rfl⟩,
      htax, hunit⟩

end
end Item

/-- A value is read as an item just if it is an object with a title of one to two hundred
characters, a price and, if they are given, a quantity and tokens that are within their limits; the
item has just what the fields say, and other keys make no difference, not even to an error. An item
is made from the same titles, prices and quantities, so from finite numbers alone. -/
theorem item_grammar :
    (∀ v, (∃ i, Item.ofJson v = .ok i) ↔ ∃ fs, v = .object fs ∧ Item.Accepts fs) ∧
    (∀ v i, Item.ofJson v = .ok i ↔ ∃ fs, v = .object fs ∧ Item.Holds fs i) ∧
    (∀ fs fs' : List (String × Json), (∀ key ∈ Item.keys, fs.lookup key = fs'.lookup key) →
      Item.ofJson (.object fs) = Item.ofJson (.object fs')) ∧
    (∀ title price quantity, (∃ i, Item.make title price quantity = .ok i) ↔
      Item.IsTitle title ∧ Item.IsPrice price ∧ Item.IsQuantity quantity) ∧
    (∀ title price quantity i, Item.make title price quantity = .ok i →
      i.title = title ∧ i.price = price ∧ i.quantity = quantity ∧ i.tax = none ∧ i.unit = none) ∧
    ∀ x, Item.IsPrice x ∨ Item.IsQuantity x → x.isFinite := by
  refine ⟨fun v => ?_, fun _ _ => Item.ofJson_eq_ok_iff_holds, fun _ _ => Item.ofJson_congr,
    fun _ _ _ => ?_, fun _ _ _ i h => ?_, fun x h => ?_⟩
  · constructor
    · rintro ⟨i, h⟩
      obtain ⟨fs, rfl, hi⟩ := Item.ofJson_eq_ok_iff_holds.1 h
      exact ⟨fs, rfl, Item.exists_holds_iff.1 ⟨i, hi⟩⟩
    · rintro ⟨fs, rfl, h⟩
      obtain ⟨i, hi⟩ := Item.exists_holds_iff.2 h
      exact ⟨i, Item.ofJson_object_eq_ok_iff.2 hi⟩
  · exact Item.exists_make_iff.trans Item.within_iff
  · obtain ⟨-, -, -, rfl⟩ := Item.make_eq_ok_iff.1 h
    exact ⟨rfl, rfl, rfl, rfl, rfl⟩
  · exact h.elim Item.isFinite_of_isPrice Item.isFinite_of_isQuantity

-- a title may be a blank, and only keys in their own case count
example :
    (Item.ofJson (.object [("TAX", .bool true), ("price", .number (.int 1)),
      ("title", .string " ")])).isOk = true := by
  decide +kernel

end Till
