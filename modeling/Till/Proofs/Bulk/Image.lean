import Till.Proofs.Bulk.Slots
import Till.Proofs.Receipt.RoundTrip

/-!
# Images of calls

The JSON value in which a setter's arguments are written down (`Setter.image`). Main statement: if
the setter accepts the arguments, their image denotes calls that do the same
(`Setter.exists_denotes_image`).
-/

namespace Till
open Json

/-- The token of a value that is given as such or by its token. -/
def Named.text {α : Type} [Token α] : Named α → String
  | value a => Token.token a
  | token s => s

/-- The arguments of a setter as a JSON value. -/
def Setter.image : Setter → Json
  | operator name inn =>
    .object (Entries.ofList (("name", .string name) :: (inn.map fun i => ("inn", .string i)).toList))
  | operatorRecord o => o.toJson
  | cashSum x => .ofFloat x
  | addItem title price quantity =>
    .array [.object (Entries.ofList
      [("title", .string title), ("price", .ofFloat price), ("quantity", .ofFloat quantity)])]
  | addTaxedItem title price quantity rate =>
    .array [.object (Entries.ofList
      [("title", .string title), ("price", .ofFloat price), ("quantity", .ofFloat quantity),
        ("tax", .string rate.text)])]
  | pushItem i => .array [i.toJson]
  | pushItems is => .array (is.map Item.toJson)
  | tax t => .string t.text
  | payment type sum =>
    .object (Entries.ofList
      [("type", .string type.text), ("sum", (PaymentSum.ofOption sum).toJson)])
  | paymentRecord p => p.toJson
  | customer account contact name => Customer.toJson { account, contact, name }
  | customerRecord c => c.toJson
  | sellerEmail email => Seller.toJson ⟨some email⟩
  | text _ b => b.toJson
  | flag _ b => .bool b
  | documentBlock b => .array [b.toJson]
  | connParams s => .string s
  | padding s => .string s

theorem Named.text_of_resolve {α : Type} [Token α] {n : Named α} {a : α} (h : n.resolve = .ok a) :
    n.text = Token.token a := by
  cases n with
  | value b => cases h; rfl
  | token s => exact (Token.token_of_ofToken h).symm

/-! ### Images of records -/

theorem Operator.denotes_image (name : String) (inn : Option String) :
    Slot.Denotes .operator (Setter.operator name inn).image [.set (.operator name inn)] := by
  have h := Operator.lookup_fields name inn
  exact .operator h.1 h.2

namespace Item

theorem withTax_none_of_make {title : String} {price quantity : Float} {i : Item}
    (h : make title price quantity = .ok i) : i.withTax none = i := by
  obtain ⟨ht, hp, hq, rfl⟩ := make_eq_ok_iff.1 h
  rfl

theorem fields_of_make {title : String} {price quantity : Float} {i : Item}
    (h : make title price quantity = .ok i) (rate : Option Tax) :
    (i.withTax rate).fields =
      [("title", .string title), ("price", .ofFloat price), ("quantity", .ofFloat quantity)] ++
        (rate.map fun t => ("tax", Token.toJson t)).toList := by
  obtain ⟨ht, hp, hq, rfl⟩ := make_eq_ok_iff.1 h
  cases rate <;> rfl

end Item

theorem Details.mergeCustomer_withoutBlanks (d : Details) (c : Customer) :
    d.mergeCustomer c.withoutBlanks = d.mergeCustomer c := by
  simp only [mergeCustomer, Customer.toJson, c.fields_withoutBlanks]

theorem Seller.denotes_toJson (email : String) :
    Slot.Denotes .seller (Seller.toJson ⟨some email⟩) [.set (.sellerEmail email)] := by
  have hemail : ((some email).filter (· ≠ "")).getD "" = email := by
    by_cases he : email = "" <;> simp [Option.filter, he]
  have hd := Slot.Denotes.seller (Seller.textUnder_fields ⟨some email⟩)
  rwa [Seller.withoutBlanks, hemail] at hd

namespace Call
variable {w : World}

/-- Setters whose writes come to the same do the same. -/
theorem runAll_set_congr {s s' : Setter} {x y : Write} (hs : s.accept = .ok x)
    (hs' : s'.accept = .ok y) (h : ∀ d, x.run d = y.run d) (state : Job × Trace) :
    runAll w [.set s] state = runAll w [.set s'] state := by
  rw [runAll_set hs, runAll_set hs']
  exact congrArg (fun d => Except.ok ({ state.1 with details := d }, state.2)) (h state.1.details)

end Call

namespace Payment

theorem exists_denotes_toJson (p : Payment) :
    ∃ calls, Slot.Denotes .payment p.toJson calls ∧
      ∀ (w : World) state, Call.runAll w calls state = Call.runAll w [.set (.paymentRecord p)] state := by
  obtain ⟨htype, hsum, hinfo⟩ := p.holds_fields
  have hwritten : p.withoutBlanks.info = p.info.map ElectronicInfo.withoutBlanks := rfl
  rw [hwritten] at hinfo
  cases hi : p.info with
  | none =>
    have hp : p.withInfo none = p := by
      obtain ⟨type, sum, info, ok⟩ := p
      cases hi
      rfl
    have haccept : (Setter.payment (.value p.type) p.sum.toOption).accept = .ok (.payment p) := by
      show (do return Write.payment (← make p.type p.sum.toOption)) = _
      rw [make_self, hp]
      rfl
    rw [hi] at hinfo
    exact ⟨_, .payment htype hsum hinfo, fun w => Call.runAll_set_congr haccept rfl fun d => rfl⟩
  | some i =>
    have hp : (p.withInfo none).withInfo (some i.withoutBlanks) = p.withoutBlanks := by
      rw [withoutBlanks, hi]
      rfl
    rw [hi] at hinfo
    refine ⟨_, .paymentRecord htype hsum p.make_self hinfo, fun w =>
      Call.runAll_set_congr rfl rfl fun d => ?_⟩
    show d.insert "payment" (toJson _) = d.insert "payment" p.toJson
    rw [hp, p.toJson_withoutBlanks]

end Payment

/-! ### Images of accepted arguments -/

theorem Customer.exists_denotes_image (c : Customer) :
    ∃ calls, Slot.Denotes .customer c.toJson calls ∧
      ∀ (w : World) state,
        Call.runAll w calls state = Call.runAll w [.set (.customerRecord c)] state := by
  refine ⟨_, .customer c.denotes_toJson, fun w => Call.runAll_set_congr rfl rfl fun d => ?_⟩
  exact d.mergeCustomer_withoutBlanks c

/-- The image of accepted arguments denotes calls that do what the setter does. -/
theorem Setter.exists_denotes_image {s : Setter} {x : Write} (hx : s.accept = .ok x) {slot : Slot}
    (hslot : s.slot = some slot) :
    ∃ calls, slot.Denotes s.image calls ∧
      ∀ (w : World) state, Call.runAll w calls state = Call.runAll w [.set s] state := by
  cases s with
  | operator name inn =>
    cases hslot
    exact ⟨_, Operator.denotes_image name inn, fun _ _ => rfl⟩
  | operatorRecord o =>
    cases hslot
    have haccept : (Setter.operator o.name o.inn).accept = .ok (.operator o) := by
      rw [accept, o.make_self]
      rfl
    exact ⟨_, Operator.denotes_image o.name o.inn, fun _ =>
      Call.runAll_set_congr haccept rfl fun _ => rfl⟩
  | cashSum y =>
    cases hslot
    obtain ⟨ok, -⟩ := Limits.cashSumWrite_eq_ok_iff.1 hx
    exact ⟨_, .cashSum (asNumber_ofFloat (Limits.cashSum_bounds ok).2), fun _ _ => rfl⟩
  | addItem title price quantity =>
    cases hslot
    obtain ⟨i, hi, rfl⟩ := Except.map_eq_ok_iff.1 hx
    have himage : (addItem title price quantity).image = .array [(i.withTax none).toJson] := by
      rw [image, Item.toJson, Item.fields_of_make hi]
      rfl
    rw [himage, Item.withTax_none_of_make hi]
    exact ⟨_, .items (.cons (Item.denotes_toJson _) .nil), fun _ =>
      Call.runAll_set_congr rfl hx fun _ => rfl⟩
  | addTaxedItem title price quantity named =>
    cases hslot
    obtain ⟨rate, hr, h⟩ := Except.bind_eq_ok_iff.1 hx
    obtain ⟨i, hi, h⟩ := Except.bind_eq_ok_iff.1 h
    cases h
    have himage : (addTaxedItem title price quantity named).image =
        .array [(i.withTax (some rate)).toJson] := by
      rw [image, Item.toJson, Item.fields_of_make hi, Named.text_of_resolve hr]
      rfl
    rw [himage]
    exact ⟨_, .items (.cons (Item.denotes_toJson _) .nil), fun _ =>
      Call.runAll_set_congr rfl hx fun _ => rfl⟩
  | pushItem i => cases hslot; exact ⟨_, .items (.cons i.denotes_toJson .nil), fun _ _ => rfl⟩
  | pushItems is =>
    cases hslot
    have hd : List.Forall₂ Item.Denotes (is.map Item.toJson) is :=
      List.forall₂_map_left_iff.2 (List.forall₂_same.2 fun i _ => i.denotes_toJson)
    refine ⟨_, .items hd, fun w state => ?_⟩
    · rw [Call.runAll_pushItem, Call.runAll_set rfl]
      rfl
  | tax named =>
    cases hslot
    obtain ⟨t, ht, rfl⟩ := Except.map_eq_ok_iff.1 hx
    rw [image, Named.text_of_resolve ht]
    exact ⟨_, .tax (.of t), fun _ => Call.runAll_set_congr rfl hx fun _ => rfl⟩
  | payment named sum =>
    cases hslot
    obtain ⟨type, ht, h⟩ := Except.bind_eq_ok_iff.1 hx
    obtain ⟨p, hp, h⟩ := Except.bind_eq_ok_iff.1 h
    cases h
    have hl : ([("type", Json.string named.text), ("sum", (PaymentSum.ofOption sum).toJson)].map
        (·.1)).Nodup := by
      simp
    have htype := Entries.lookup_ofList_of_mem (k := "type") hl (.head _)
    have hsum := Entries.lookup_ofList_of_mem (k := "sum") hl (.tail _ (.head _))
    have hdenotes := hsum ▸ PaymentSum.denotes_toJson (Payment.make_eq_ok_iff.1 hp).1
    rw [PaymentSum.toOption_ofOption] at hdenotes
    have hname : some (Json.string named.text) = some (.string (Token.token type)) := by
      rw [Named.text_of_resolve ht]
    refine ⟨_, .payment (htype.trans hname) hdenotes ?_, fun _ => Call.runAll_set_congr ?_ hx fun _ => rfl⟩
    · rw [Entries.lookup_ofList_eq_none (by simp)]
      exact .missing
    · show (do return Write.payment (← Payment.make type sum)) = _
      rw [hp]
      rfl
  | paymentRecord p => cases hslot; exact p.exists_denotes_toJson
  | customer account contact name =>
    cases hslot
    exact Customer.exists_denotes_image { account, contact, name }
  | customerRecord c => cases hslot; exact c.exists_denotes_image
  | sellerEmail email => cases hslot; exact ⟨_, Seller.denotes_toJson email, fun _ _ => rfl⟩
  | text slot b => cases hslot; exact ⟨_, .text b.denotes_toJson, fun _ _ => rfl⟩
  | flag f b => cases hslot; exact ⟨_, .flag (.of b), fun _ _ => rfl⟩
  | documentBlock b =>
    cases hslot
    exact ⟨_, .document (.cons b.denotes_toJson .nil), fun _ _ => rfl⟩
  | connParams t => cases hslot; exact ⟨_, .connParams (.of t), fun _ _ => rfl⟩
  | padding t => cases hslot

end Till
