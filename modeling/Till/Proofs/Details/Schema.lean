import Till.Proofs.Details.Write
import Till.Proofs.Json.Record
import Till.Proofs.Limits
import Till.Proofs.Text.Trim
import Till.Proofs.Token

/-!
# The form of details

`Slot.Fits` says which values may stand in a slot: the records with their places, ranges and tokens.
It speaks of the JSON value alone, and not of the records that are written. Main statement: what
an accepted write leaves under its key fits the slot of the key, if what stood there did
(`Write.fits_after`).
-/

namespace Till
open Json

/-! ### What fits -/

/-- A text with something in it and no blanks at its ends. -/
def IsClean (s : String) : Prop :=
  s ≠ "" ∧ Text.Trimmed s

def Item.places : List Place :=
  [⟨"title", true, IsText fun s => 1 ≤ s.length ∧ s.length ≤ 200⟩,
    ⟨"price", true, IsDouble fun x => 0.01 ≤ x ∧ x ≤ 999999.99⟩,
    ⟨"quantity", true, IsDouble fun x => 0.001 ≤ x ∧ x ≤ 999999.999⟩,
    ⟨"tax", false, IsToken Tax⟩,
    ⟨"unit", false, IsToken MeasureUnit⟩]

def Operator.places : List Place :=
  [⟨"name", true, IsText IsClean⟩, ⟨"inn", false, IsText IsClean⟩]

/-- Optional places for texts that are not empty. -/
def textPlaces (names : List String) : List Place :=
  names.map fun n => ⟨n, false, IsText (· ≠ "")⟩

def Customer.places : List Place :=
  textPlaces ["account", "contact", "name", "inn", "birthdate", "citizenship", "documentCode",
    "documentData", "address"]

def Seller.places : List Place :=
  textPlaces ["email"]

def ElectronicInfo.places : List Place :=
  [⟨"method", true, IsWhole fun n => 0 ≤ n ∧ n < UInt32.size⟩,
    ⟨"id", true, IsText fun _ => True⟩,
    ⟨"addInfo", false, IsText (· ≠ "")⟩]

def Payment.places : List Place :=
  [⟨"type", true, IsToken PaymentType⟩,
    ⟨"sum", true, fun v => v = .string "auto" ∨ v.IsDouble fun _ => True⟩,
    ⟨"electroPaymentInfo", false, IsObject ElectronicInfo.places⟩]

/-- The places of a text with a content that is `P`. -/
def TextBlock.places (P : String → Prop) : List Place :=
  [⟨"content", true, IsText P⟩, ⟨"center", true, IsBool⟩, ⟨"magnified", true, IsBool⟩,
    ⟨"separated", true, IsBool⟩]

def DocumentBlock.separatorPlaces : List Place :=
  [⟨"separator", true, fun v => v = .bool true⟩]

/-- What may stand in a slot. -/
def Slot.Fits : Slot → Json → Prop
  | operator => IsObject Operator.places
  | cashSum => IsDouble fun x => 0.01 ≤ x ∧ x ≤ 999999.99
  | items => IsList (IsObject Item.places)
  | tax => IsToken Tax
  | payment => IsObject Payment.places
  | customer => fun v => IsObject Customer.places v ∧ v ≠ .object []
  | seller => IsObject Seller.places
  | text _ => IsObject (TextBlock.places IsClean)
  | flag _ => IsBool
  | document => IsList fun v =>
    IsObject DocumentBlock.separatorPlaces v ∨ IsObject (TextBlock.places Text.Trimmed) v
  | connParams => IsText fun _ => True

/-! ### Records that are written -/

theorem fits_textFields {texts : List (String × Option String)} :
    ∀ e ∈ textFields texts, ∃ p ∈ textPlaces (texts.map (·.1)), p.name = e.1 ∧ p.Fits e.2 := by
  intro e he
  obtain ⟨s, hs, rfl⟩ := List.mem_map.1 he
  obtain ⟨t, ht, hw⟩ := List.mem_filterMap.1 hs
  obtain ⟨s', hs', rfl⟩ := Option.map_eq_some_iff.1 hw
  have hne : s' ≠ "" := by simpa using (Option.filter_eq_some_iff.1 hs').2
  exact ⟨⟨t.1, false, IsText (· ≠ "")⟩, List.mem_map.2 ⟨t.1, List.mem_map.2 ⟨t, ht, rfl⟩, rfl⟩, rfl,
    s', rfl, hne⟩

/-- A record of texts has no place that has to be filled. -/
theorem not_required_textPlaces {names : List String} {p : Place} (hp : p ∈ textPlaces names) :
    p.required = false := by
  obtain ⟨n, -, rfl⟩ := List.mem_map.1 hp
  rfl

theorem isRecord_textFields (texts : List (String × Option String)) :
    IsRecord (textPlaces (texts.map (·.1))) (Entries.ofList (textFields texts)) :=
  .ofList fits_textFields fun p hp hr => by rw [not_required_textPlaces hp] at hr; cases hr

theorem Item.fits_toJson (i : Item) : IsObject places i.toJson := by
  refine ⟨_, rfl, .ofList (fun e he => ?_) (fun p hp hr => ?_)⟩
  · simp only [fields, List.mem_append, List.mem_cons, List.not_mem_nil, or_false, Option.mem_toList,
      Option.map_eq_some_iff] at he
    rcases he with ((rfl | rfl | rfl) | ⟨t, -, rfl⟩) | ⟨u, -, rfl⟩
    · exact ⟨_, .head _, rfl, i.title, rfl, Limits.checkTitle_eq_ok_iff.1 i.title_ok⟩
    · obtain ⟨hb, hf⟩ := Limits.price_bounds i.price_ok
      exact ⟨_, .tail _ (.head _), rfl, i.price, ofFloat_of_isFinite hf, hf, hb⟩
    · obtain ⟨hb, hf⟩ := Limits.quantity_bounds i.quantity_ok
      exact ⟨_, .tail _ (.tail _ (.head _)), rfl, i.quantity, ofFloat_of_isFinite hf, hf, hb⟩
    · exact ⟨_, .tail _ (.tail _ (.tail _ (.head _))), rfl, isToken_toJson t⟩
    · exact ⟨_, .tail _ (.tail _ (.tail _ (.tail _ (.head _)))), rfl,
        isToken_toJson u⟩
  · simp only [places, List.mem_cons, List.not_mem_nil, or_false] at hp
    rcases hp with rfl | rfl | rfl | rfl | rfl
    · exact ⟨_, .head _⟩
    · exact ⟨_, .tail _ (.head _)⟩
    · exact ⟨_, .tail _ (.tail _ (.head _))⟩
    · cases hr
    · cases hr

namespace Operator

theorem name_isClean (o : Operator) : IsClean o.name :=
  have ⟨ht, hne⟩ := Limits.operatorName_ok o.name_ok
  ⟨hne, Text.trimmed_of_trim ht.symm⟩

theorem fits_toJson (o : Operator) : IsObject places o.toJson := by
  refine ⟨_, rfl, .ofList (fun e he => ?_) (fun p hp hr => ?_)⟩
  · simp only [fields, List.mem_cons, Option.mem_toList, Option.map_eq_some_iff] at he
    rcases he with rfl | ⟨inn, hi, rfl⟩
    · exact ⟨_, .head _, rfl, o.name, rfl, o.name_isClean⟩
    · obtain ⟨ht, hne⟩ := o.inn_ok inn hi
      exact ⟨_, .tail _ (.head _), rfl, inn, rfl, hne, Text.trimmed_of_trim ht⟩
  · simp only [places, List.mem_cons, List.not_mem_nil, or_false] at hp
    rcases hp with rfl | rfl
    · exact ⟨_, .head _⟩
    · cases hr

end Operator

theorem Seller.fits_toJson (s : Seller) : IsObject places s.toJson :=
  ⟨_, rfl, isRecord_textFields [("email", s.email)]⟩

theorem ElectronicInfo.fits_fields (i : ElectronicInfo) :
    IsObject places (.object (Entries.ofList i.fields)) := by
  refine ⟨_, rfl, .ofList (fun e he => ?_) (fun p hp hr => ?_)⟩
  · simp only [fields, List.mem_append, List.mem_cons, List.not_mem_nil, or_false] at he
    rcases he with (rfl | rfl) | he
    · exact ⟨_, .head _, rfl, _, rfl, i.method_bounds⟩
    · exact ⟨_, .tail _ (.head _), rfl, i.id, rfl, trivial⟩
    · obtain ⟨p, hp, hfits⟩ := fits_textFields e he
      exact ⟨p, .tail _ (.tail _ hp), hfits⟩
  · simp only [places, List.mem_cons, List.not_mem_nil, or_false] at hp
    rcases hp with rfl | rfl | rfl
    · exact ⟨_, .head _⟩
    · exact ⟨_, .tail _ (.head _)⟩
    · cases hr

theorem Payment.fits_toJson (p : Payment) : IsObject places p.toJson := by
  refine ⟨_, rfl, .ofList (fun e he => ?_) (fun q hq hr => ?_)⟩
  · simp only [fields, List.mem_append, List.mem_cons, List.not_mem_nil, or_false, Option.mem_toList,
      Option.map_eq_some_iff] at he
    rcases he with (rfl | rfl) | ⟨i, -, rfl⟩
    · exact ⟨_, .head _, rfl, isToken_toJson p.type⟩
    · refine ⟨_, .tail _ (.head _), rfl, ?_⟩
      have hok := p.sum_ok
      cases hs : p.sum with
      | auto => exact .inl rfl
      | amount x =>
        rw [hs] at hok
        have hf := Limits.checkPaymentSum_eq_ok_iff.1 hok
        exact .inr ⟨x, ofFloat_of_isFinite hf, hf, trivial⟩
    · exact ⟨_, .tail _ (.tail _ (.head _)), rfl, i.fits_fields⟩
  · simp only [places, List.mem_cons, List.not_mem_nil, or_false] at hq
    rcases hq with rfl | rfl | rfl
    · exact ⟨_, .head _⟩
    · exact ⟨_, .tail _ (.head _)⟩
    · cases hr

theorem TextBlock.fits_toJson {P : String → Prop} (b : TextBlock) (h : P b.content) :
    IsObject (places P) b.toJson := by
  refine ⟨_, rfl, .ofList (fun e he => ?_) (fun p hp hr => ?_)⟩
  · simp only [fields, List.mem_cons, List.not_mem_nil, or_false] at he
    rcases he with rfl | rfl | rfl | rfl
    · exact ⟨_, .head _, rfl, b.content, rfl, h⟩
    · exact ⟨_, .tail _ (.head _), rfl, b.center, rfl⟩
    · exact ⟨_, .tail _ (.tail _ (.head _)), rfl, b.magnified, rfl⟩
    · exact ⟨_, .tail _ (.tail _ (.tail _ (.head _))), rfl, b.separated, rfl⟩
  · simp only [places, List.mem_cons, List.not_mem_nil, or_false] at hp
    rcases hp with rfl | rfl | rfl | rfl
    · exact ⟨_, .head _⟩
    · exact ⟨_, .tail _ (.head _)⟩
    · exact ⟨_, .tail _ (.tail _ (.head _))⟩
    · exact ⟨_, .tail _ (.tail _ (.tail _ (.head _)))⟩

theorem DocumentBlock.fits_toJson (b : DocumentBlock) :
    IsObject separatorPlaces b.toJson ∨ IsObject (TextBlock.places Text.Trimmed) b.toJson := by
  cases b with
  | text b => exact .inr (b.fits_toJson (Text.trimmed_of_trim b.content_trim))
  | separator =>
    refine .inl ⟨_, rfl, .ofList (fun e he => ?_) (fun p hp _ => ?_)⟩
    · cases List.mem_singleton.1 he
      exact ⟨_, .head _, rfl, rfl⟩
    · cases List.mem_singleton.1 hp
      exact ⟨_, .head _⟩

/-! ### What writes leave -/

namespace Write
open Details

/-- The slot of the write; padding has none. -/
def slot : Write → Option Slot
  | operator _ => some .operator
  | cashSum _ _ => some .cashSum
  | items _ => some .items
  | tax _ => some .tax
  | payment _ => some .payment
  | customer _ => some .customer
  | seller _ => some .seller
  | text slot _ => some (.text slot)
  | flag f _ => some (.flag f)
  | document _ => some .document
  | connParams _ => some .connParams
  | padding _ => none

theorem isList_appended {P : Json → Prop} {vs : List Json} {before : Option Json}
    (hvs : ∀ v ∈ vs, P v) (hb : ∀ v ∈ before, IsList P v) : ∀ v ∈ appended vs before, IsList P v := by
  intro v hv
  unfold appended at hv
  split at hv
  · exact hb v hv
  · rename_i hne
    cases hv
    refine ⟨_, rfl, by simp [hne], fun x hx => ?_⟩
    rcases List.mem_append.1 hx with hx | hx
    · unfold valuesOf at hx
      split at hx
      · obtain ⟨_, he, -, hall⟩ := hb _ rfl
        cases he
        exact hall x hx
      · cases hx
    · exact hvs x hx

theorem isRecord_fieldsOf {before : Option Json} (hb : ∀ v ∈ before, IsObject Customer.places v) :
    IsRecord Customer.places (fieldsOf before) := by
  unfold fieldsOf
  split
  · obtain ⟨_, he, hr⟩ := hb _ rfl
    cases he
    exact hr
  · exact .ofList (l := []) (by simp) fun p hp hr => by
      rw [not_required_textPlaces hp] at hr; cases hr

theorem fits_after {x : Write} {s : Slot} (hs : x.slot = some s) {before : Option Json}
    (hb : ∀ v ∈ before, s.Fits v) : ∀ v ∈ x.after before, s.Fits v := by
  cases x with
  | operator o => cases hs; rintro _ ⟨⟩; exact o.fits_toJson
  | cashSum x ok =>
    cases hs
    rintro _ ⟨⟩
    obtain ⟨hx, hf⟩ := Limits.cashSum_bounds ok
    exact ⟨x, ofFloat_of_isFinite hf, hf, hx⟩
  | items is =>
    cases hs
    refine isList_appended (fun v hv => ?_) hb
    obtain ⟨i, -, rfl⟩ := List.mem_map.1 hv
    exact i.fits_toJson
  | tax t =>
    cases hs
    intro v hv
    obtain ⟨t, -, rfl⟩ := Option.map_eq_some_iff.1 hv
    exact isToken_toJson t
  | payment p => cases hs; rintro _ ⟨⟩; exact p.fits_toJson
  | customer c =>
    cases hs
    intro v hv
    rw [after] at hv
    split at hv
    · exact hb v hv
    · rename_i hne
      cases hv
      have hr := (isRecord_fieldsOf fun v hv => (hb v hv).1).insertAll (l := c.fields) fits_textFields
      refine ⟨⟨_, rfl, hr⟩, fun he => ?_⟩
      exact Entries.insertAll_ne_nil (.inr hne) (Json.object.inj he)
  | seller s => cases hs; rintro _ ⟨⟩; exact s.fits_toJson
  | text slot b =>
    cases hs
    intro v hv
    rw [after] at hv
    split at hv
    · cases hv
    · rename_i hne
      cases hv
      have hc : b.content ≠ "" := by simpa [TextBlock.isEmpty] using hne
      exact b.fits_toJson ⟨hc, Text.trimmed_of_trim b.content_trim⟩
  | flag f b => cases hs; rintro _ ⟨⟩; exact ⟨b, rfl⟩
  | document bs =>
    cases hs
    refine isList_appended (fun v hv => ?_) hb
    obtain ⟨b, -, rfl⟩ := List.mem_map.1 hv
    exact b.fits_toJson
  | connParams s => cases hs; rintro _ ⟨⟩; exact ⟨s, rfl, trivial⟩
  | padding s => cases hs

end Write
end Till
