import Till.Proofs.Receipt.Item
import Till.Proofs.Receipt.Payment

/-!
# Records that are read back

A record that is written denotes itself, but for the texts in it that are empty: they are not
written, and `withoutBlanks` is what is left of the record. Main statement: each record is read back
from what it is written as, and so is one that has been read (`records_read_back`).
-/

namespace Till
open Json

/-! ### Fields that are written -/

theorem asNumber_ofFloat {x : Float} (h : x.isFinite) : AsNumber (.ofFloat x) x := by
  rw [ofFloat_of_isFinite h]
  exact .of (.real x)

theorem asOption_of_mem {α : Type} {R : Json → α → Prop} {l : List (String × Json)}
    (hl : (l.map (·.1)).Nodup) {key : String} {v : Json} {a : α} (h : (key, v) ∈ l) (ha : R v a) :
    AsOption R ((Entries.ofList l).lookup key) (some a) := by
  rw [Entries.lookup_ofList_of_mem hl h]
  exact .given ha

/-- A field that is written if there is a value for it. -/
theorem asOption_lookup {α : Type} {R : Json → α → Prop} {f : α → Json} (hR : ∀ a, R (f a) a)
    {l : List (String × Json)} (hl : (l.map (·.1)).Nodup) {key : String} {o : Option α}
    (hsome : ∀ a ∈ o, (key, f a) ∈ l) (hnone : o = none → key ∉ l.map (·.1)) :
    AsOption R ((Entries.ofList l).lookup key) o := by
  cases o with
  | none =>
    rw [Entries.lookup_ofList_eq_none (hnone rfl)]
    exact .missing
  | some a => exact asOption_of_mem hl (hsome a rfl) (hR a)

theorem Operator.lookup_fields (name : String) (inn : Option String) :
    let fs := Entries.ofList
      (("name", Json.string name) :: (inn.map fun i => ("inn", Json.string i)).toList)
    fs.lookup "name" = some (.string name) ∧ AsOption AsString (fs.lookup "inn") inn := by
  have hl : ((("name", Json.string name) ::
      (inn.map fun i => ("inn", Json.string i)).toList).map (·.1)).Nodup := by
    cases inn <;> simp
  refine ⟨Entries.lookup_ofList_of_mem hl (.head _), ?_⟩
  refine asOption_lookup .of hl (fun i hi => ?_) fun hi => ?_
  · cases hi; exact .tail _ (.head _)
  · subst hi; simp

theorem Operator.ofJson_fields (name : String) (inn : Option String) :
    ofJson (.object (Entries.ofList
      (("name", .string name) :: (inn.map fun i => ("inn", .string i)).toList))) = make name inn := by
  obtain ⟨hname, hinn⟩ := lookup_fields name inn
  exact ofJson_object hname hinn

namespace Item

theorem nodup_fields (i : Item) : (i.fields.map (·.1)).Nodup := by
  unfold fields
  cases i.tax <;> cases i.unit <;> simp

theorem holds_fields (i : Item) : Holds (Entries.ofList i.fields) i where
  title := Entries.lookup_ofList_of_mem i.nodup_fields (.head _)
  price := by
    refine ⟨.real i.price, ?_, rfl⟩
    rw [← ofFloat_of_isFinite (Limits.price_bounds i.price_ok).2]
    exact Entries.lookup_ofList_of_mem i.nodup_fields (.tail _ (.head _))
  quantity := by
    have hquantity := asNumber_ofFloat (Limits.quantity_bounds i.quantity_ok).2
    exact ⟨some i.quantity, asOption_of_mem i.nodup_fields (.tail _ (.tail _ (.head _))) hquantity,
      rfl⟩
  tax := by
    refine asOption_lookup .of i.nodup_fields (fun t ht => ?_) fun ht => ?_
    · simp [fields, Option.mem_def.1 ht, Token.toJson]
    · cases hu : i.unit <;> simp [fields, ht, hu]
  unit := by
    refine asOption_lookup .of i.nodup_fields (fun u hu => ?_) fun hu => ?_
    · simp [fields, Option.mem_def.1 hu, Token.toJson]
    · cases ht : i.tax <;> simp [fields, ht, hu]

theorem denotes_toJson (i : Item) : Denotes i.toJson i :=
  denotes_iff_holds.2 i.holds_fields

end Item

theorem TextBlock.denotes_toJson (b : TextBlock) : Denotes b.toJson b := by
  have hl : (b.fields.map (·.1)).Nodup := by simp [fields]
  have hcontent := asOption_of_mem hl (.head _) (AsString.of b.content)
  have hcenter := asOption_of_mem hl (.tail _ (.head _)) (AsBool.of b.center)
  have hmagnified := asOption_of_mem hl (.tail _ (.tail _ (.head _))) (AsBool.of b.magnified)
  have hseparated := asOption_of_mem hl (.tail _ (.tail _ (.tail _ (.head _)))) (AsBool.of b.separated)
  have hd := Denotes.object hcontent hcenter hmagnified hseparated
  change Denotes b.toJson (make b.content b.center b.magnified b.separated) at hd
  rwa [b.make_self] at hd

theorem DocumentBlock.denotes_toJson (b : DocumentBlock) : Denotes b.toJson b := by
  cases b with
  | text b =>
    refine .text ?_ b.denotes_toJson
    rintro fs hfs hs
    cases hfs
    have hno : (Entries.ofList b.fields).lookup "separator" = none :=
      Entries.lookup_ofList_eq_none (by simp [TextBlock.fields])
    exact nomatch hno.symm.trans hs
  | separator => exact .separator rfl

/-! ### Records of texts -/

theorem textUnder_ofList {l : List (String × Json)} (hl : (l.map (·.1)).Nodup) {key : String}
    {o : Option String} (hform : ∀ f ∈ l, f.1 = key → ∃ s, f.2 = .string s)
    (hsome : ∀ s ∈ o, (key, Json.string s) ∈ l) (hnone : o = none → key ∉ l.map (·.1)) :
    TextUnder (Entries.ofList l) key o := by
  refine ⟨fun f hf hkey => ?_, asOption_lookup .of hl hsome hnone⟩
  rcases Entries.mem_insertAll hf with hf | hf
  · exact .inr (hform f hf hkey)
  · cases hf

theorem mem_map_writtenTexts {β : Type} {f : String → β} {texts : List (String × Option String)}
    {e : String × β} : e ∈ (writtenTexts texts).map (fun t => (t.1, f t.2)) ↔
      ∃ t ∈ texts, ∃ s, t.2.filter (· ≠ "") = some s ∧ (t.1, f s) = e := by
  simp [writtenTexts, and_assoc]

theorem mem_textFields {texts : List (String × Option String)} {f : String × Json} :
    f ∈ textFields texts ↔
      ∃ t ∈ texts, ∃ s, t.2.filter (· ≠ "") = some s ∧ (t.1, .string s) = f :=
  mem_map_writtenTexts

theorem sublist_writtenTexts (texts : List (String × Option String)) :
    ((writtenTexts texts).map (·.1)).Sublist (texts.map (·.1)) := by
  induction texts with
  | nil => exact .slnil
  | cons t texts ih =>
    cases h : t.2.filter (· ≠ "") with
    | none =>
      have hskip : writtenTexts (t :: texts) = writtenTexts texts := by
        simp only [writtenTexts, List.filterMap_cons, h, Option.map_none]
      rw [hskip]
      exact .cons _ ih
    | some s =>
      have htake : writtenTexts (t :: texts) = (t.1, s) :: writtenTexts texts := by
        simp only [writtenTexts, List.filterMap_cons, h, Option.map_some]
      rw [htake]
      exact .cons_cons _ ih

theorem sublist_textFields (texts : List (String × Option String)) :
    ((textFields texts).map (·.1)).Sublist (texts.map (·.1)) := by
  rw [textFields, List.map_map]
  exact sublist_writtenTexts texts

theorem textUnder_textFields {texts : List (String × Option String)}
    (h : (texts.map (·.1)).Nodup) {t : String × Option String} (ht : t ∈ texts) :
    TextUnder (Entries.ofList (textFields texts)) t.1 (t.2.filter (· ≠ "")) := by
  refine textUnder_ofList (h.sublist (sublist_textFields texts)) (fun f hf _ => ?_) (fun s hs => ?_) fun hno hmem => ?_
  · obtain ⟨t, -, s, -, rfl⟩ := mem_textFields.1 hf
    exact ⟨s, rfl⟩
  · exact mem_textFields.2 ⟨t, ht, s, hs, rfl⟩
  · obtain ⟨f, hf, hkey⟩ := List.mem_map.1 hmem
    obtain ⟨t', ht', s, hs, rfl⟩ := mem_textFields.1 hf
    cases List.inj_on_of_nodup_map h ht' ht hkey
    exact nomatch hno.symm.trans hs

theorem writtenTexts_filter (texts : List (String × Option String)) :
    writtenTexts (texts.map fun t => (t.1, t.2.filter (· ≠ ""))) = writtenTexts texts := by
  simp [writtenTexts, List.filterMap_map, Option.filter_filter]

theorem textFields_filter (texts : List (String × Option String)) :
    textFields (texts.map fun t => (t.1, t.2.filter (· ≠ ""))) = textFields texts := by
  rw [textFields, writtenTexts_filter, textFields]

namespace Customer

/-- The customer without the texts that are not written. -/
def withoutBlanks (c : Customer) : Customer :=
  ofTexts (c.texts.map fun t => t.2.filter (· ≠ ""))

theorem nodup_texts (c : Customer) : (c.texts.map (·.1)).Nodup := by
  simp [texts]

theorem texts_withoutBlanks (c : Customer) :
    c.withoutBlanks.texts = c.texts.map fun t => (t.1, t.2.filter (· ≠ "")) :=
  rfl

theorem fields_withoutBlanks (c : Customer) : c.withoutBlanks.fields = c.fields :=
  textFields_filter c.texts

/-- A customer is read back without the texts that are not written. -/
theorem denotes_toJson (c : Customer) : Denotes c.toJson c.withoutBlanks := by
  refine .of fun t' ht' => ?_
  rw [texts_withoutBlanks] at ht'
  obtain ⟨t, ht, rfl⟩ := List.mem_map.1 ht'
  exact textUnder_textFields c.nodup_texts ht

end Customer

namespace Seller

/-- The seller without an address that is not written. -/
def withoutBlanks (s : Seller) : Seller :=
  ⟨s.email.filter (· ≠ "")⟩

theorem fields_withoutBlanks (s : Seller) : s.withoutBlanks.fields = s.fields :=
  textFields_filter [("email", s.email)]

theorem textUnder_fields (s : Seller) :
    TextUnder (Entries.ofList s.fields) "email" s.withoutBlanks.email :=
  textUnder_textFields (by simp) (.head [])

end Seller

/-! ### Payments -/

namespace ElectronicInfo

theorem mem_fields {i : ElectronicInfo} {f : String × Json} (h : f ∈ i.fields) :
    f = ("method", .number (.int i.method.toNat)) ∨ f = ("id", .string i.id) ∨
      f.1 = "addInfo" ∧ ∃ s, f.2 = .string s := by
  simp only [fields, List.mem_append, List.mem_cons, List.not_mem_nil, or_false] at h
  rcases h with (h | h) | h
  · exact .inl h
  · exact .inr (.inl h)
  · obtain ⟨t, ht, s, -, rfl⟩ := mem_textFields.1 h
    cases List.mem_singleton.1 ht
    exact .inr (.inr ⟨rfl, s, rfl⟩)

theorem nodup_fields (i : ElectronicInfo) : (i.fields.map (·.1)).Nodup := by
  have h := (sublist_textFields [("addInfo", i.addInfo)]).append_left ["method", "id"]
  rw [fields, List.map_append]
  exact List.Nodup.sublist h (by simp)

/-- The record without a text that is not written. -/
def withoutBlanks (i : ElectronicInfo) : ElectronicInfo :=
  { i with addInfo := i.addInfo.filter (· ≠ "") }

theorem fields_withoutBlanks (i : ElectronicInfo) : i.withoutBlanks.fields = i.fields :=
  congrArg (_ ++ ·) (textFields_filter [("addInfo", i.addInfo)])

theorem textUnder_addInfo (i : ElectronicInfo) :
    TextUnder (Entries.ofList i.fields) "addInfo" i.withoutBlanks.addInfo := by
  refine textUnder_ofList i.nodup_fields (fun f hf hkey => ?_) (fun s hs => ?_) fun hno => ?_
  · rcases mem_fields hf with rfl | rfl | ⟨-, h⟩
    · exact absurd hkey (by decide : "method" ≠ "addInfo")
    · exact absurd hkey (by decide : "id" ≠ "addInfo")
    · exact h
  · exact List.mem_append_right _ (mem_textFields.2 ⟨_, .head _, s, hs, rfl⟩)
  · have hno : i.addInfo.filter (· ≠ "") = none := hno
    have hnil : textFields [("addInfo", i.addInfo)] = [] := by
      simp only [textFields, writtenTexts, List.filterMap_cons, hno, Option.map_none,
        List.filterMap_nil, List.map_nil]
    simp [fields, hnil]

theorem denotes_fields (i : ElectronicInfo) :
    Denotes (.object (Entries.ofList i.fields)) i.withoutBlanks := by
  have hmem {f : String × Json} (hf : f ∈ Entries.ofList i.fields) : f ∈ i.fields :=
    (Entries.mem_insertAll hf).resolve_right nofun
  have hlookup {key : String} {v : Json} (h : (key, v) ∈ i.fields) :=
    Entries.lookup_ofList_of_mem i.nodup_fields h
  refine .object (fun f hf hkey => ?_) (hlookup (.head _)) (fun f hf hkey => ?_)
    (hlookup (.tail _ (.head _))) i.textUnder_addInfo
  · rcases mem_fields (hmem hf) with rfl | rfl | ⟨ha, -⟩
    · exact ⟨_, rfl, i.method_bounds⟩
    · exact absurd hkey (by decide : "id" ≠ "method")
    · exact absurd (ha.symm.trans hkey) (by decide)
  · rcases mem_fields (hmem hf) with rfl | rfl | ⟨ha, -⟩
    · exact absurd hkey (by decide : "method" ≠ "id")
    · exact ⟨_, rfl⟩
    · exact absurd (ha.symm.trans hkey) (by decide)

end ElectronicInfo

theorem PaymentSum.denotes_toJson {s : PaymentSum} (h : s.check = .ok ()) :
    Payment.SumDenotes (some s.toJson) s.toOption := by
  cases s with
  | auto => exact .auto
  | amount x =>
    rw [toJson, ofFloat_of_isFinite (Limits.checkPaymentSum_eq_ok_iff.1 h)]
    exact .amount (.real x)

namespace Payment

/-- The payment without a text that is not written. -/
def withoutBlanks (p : Payment) : Payment :=
  p.withInfo (p.info.map ElectronicInfo.withoutBlanks)

theorem fields_withoutBlanks (p : Payment) (inner : List (String × Json) → Json) :
    p.withoutBlanks.fields inner = p.fields inner := by
  obtain ⟨type, sum, info, ok⟩ := p
  cases info with
  | none => rfl
  | some i => simp only [withoutBlanks, withInfo, fields, Option.map_some, i.fields_withoutBlanks]

theorem toJson_withoutBlanks (p : Payment) : p.withoutBlanks.toJson = p.toJson := by
  rw [toJson, toJson, p.fields_withoutBlanks]

theorem holds_fields (p : Payment) :
    Holds (Entries.ofList (p.fields fun fs => .object (Entries.ofList fs))) p.withoutBlanks where
  type := Entries.lookup_ofList_of_mem (p.nodup_fields _) (.head _)
  sum := by
    rw [Entries.lookup_ofList_of_mem (p.nodup_fields _) (.tail _ (.head _))]
    exact PaymentSum.denotes_toJson p.sum_ok
  info := by
    show AsOption ElectronicInfo.Denotes _ (p.info.map ElectronicInfo.withoutBlanks)
    cases hi : p.info with
    | none =>
      rw [Entries.lookup_ofList_eq_none (by simp [fields, hi])]
      exact .missing
    | some i => exact asOption_of_mem (p.nodup_fields _) (by simp [fields, hi]) i.denotes_fields

end Payment

/-! ### Reading back -/

/-- How a record is read and written, and what is left of it once it has been written. -/
structure Form (α : Type) where
  read : Json → Checked α
  write : α → Json
  bare : α → α

/-- A record is read back bare, whether it was made or read itself, and a second time nothing is
lost. -/
structure Form.ReadsBack {α : Type} (f : Form α) : Prop where
  made : ∀ a, f.read (f.write a) = .ok (f.bare a)
  read : ∀ v a, f.read v = .ok a →
    ∃ a', f.read (f.write a) = .ok a' ∧ a' = f.bare a ∧ f.bare a' = a' ∧ f.write a' = f.write a

theorem Form.ReadsBack.of {α : Type} {f : Form α} (hread : ∀ a, f.read (f.write a) = .ok (f.bare a))
    (hwrite : ∀ a, f.write (f.bare a) = f.write a) : f.ReadsBack where
  made := hread
  read v a _ := by
    have hbare : f.bare (f.bare a) = f.bare a := by
      refine Except.ok.inj (ε := FieldError) ?_
      rw [← hread, hwrite, hread]
    exact ⟨f.bare a, hread a, rfl, hbare, hwrite a⟩

def Item.form : Form Item := ⟨ofJson, toJson, id⟩
def Operator.form : Form Operator := ⟨ofJson, toJson, id⟩
def Customer.form : Form Customer := ⟨ofJson, toJson, withoutBlanks⟩
def Seller.form : Form Seller := ⟨ofJson, toJson, withoutBlanks⟩
def Payment.form : Form Payment := ⟨ofJson, toJson, withoutBlanks⟩
def TextBlock.form (field : String) : Form TextBlock := ⟨ofJson field, toJson, id⟩
def DocumentBlock.form : Form DocumentBlock := ⟨ofJson, toJson, id⟩

/-- Each record, made or read, is read from what it is written as: the same record, but for the
texts of a customer, a seller or an electronic payment that are empty, which are then missing. What
was read back is written as the same again. -/
theorem records_read_back :
    Item.form.ReadsBack ∧ Operator.form.ReadsBack ∧ Customer.form.ReadsBack ∧
    Seller.form.ReadsBack ∧ Payment.form.ReadsBack ∧ (∀ field, (TextBlock.form field).ReadsBack) ∧
    DocumentBlock.form.ReadsBack ∧
    ∀ c : Customer, c.withoutBlanks.texts = c.texts.map fun t => (t.1, t.2.filter (· ≠ "")) := by
  refine ⟨.of (fun i => ?_) fun _ => rfl, .of (fun o => ?_) fun _ => rfl,
    .of (fun c => ?_) fun c => ?_, .of (fun s => ?_) fun s => ?_, .of (fun p => ?_) fun p => ?_,
    fun _ => .of (fun b => ?_) fun _ => rfl, .of (fun b => ?_) fun _ => rfl, fun _ => rfl⟩
  · exact Item.ofJson_eq_ok_iff.2 i.denotes_toJson
  · exact (Operator.ofJson_fields o.name o.inn).trans o.make_self
  · exact Customer.ofJson_eq_ok_iff.2 c.denotes_toJson
  · exact congrArg (Json.object ∘ Entries.ofList) c.fields_withoutBlanks
  · exact Seller.ofJson_eq_ok_iff.2 ⟨_, rfl, s.textUnder_fields⟩
  · exact congrArg (Json.object ∘ Entries.ofList) s.fields_withoutBlanks
  · exact Payment.ofJson_object_eq_ok_iff.2 p.holds_fields
  · exact p.toJson_withoutBlanks
  · exact TextBlock.ofJson_eq_ok_iff.2 b.denotes_toJson
  · exact DocumentBlock.ofJson_eq_ok_iff.2 b.denotes_toJson

end Till
