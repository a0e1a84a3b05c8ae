import Till.Proofs.Bulk.Image

/-!
# Customers over customers

A record of texts is written without its empty texts, and what is written is found by key
(`lookup_writtenTexts`). So a customer that is merged over another amounts to one customer, whose
texts are those of the new one where it has any (`Customer.insertAll_fields`), and of customers that
are merged one after another the last text under each name stands
(`Write.lookup_afterAll_customer`).
-/

namespace Till

namespace Entries
variable {α : Type}

/-- The values of two lists with the same keys are joined key by key. -/
theorem join_lookup_zipWith {f : Option α → Option α → Option α} (hf : f none none = none)
    {l l' : List (String × Option α)} (h : l.map (·.1) = l'.map (·.1)) (k : String) :
    ((List.zipWith (fun a b => (a.1, f a.2 b.2)) l l').lookup k).join =
      f (l.lookup k).join (l'.lookup k).join := by
  induction l generalizing l' with
  | nil =>
    cases l' with
    | nil => exact hf.symm
    | cons e' l' => cases h
  | cons e l ih =>
    cases l' with
    | nil => cases h
    | cons e' l' =>
      obtain ⟨he, hl⟩ := List.cons.inj h
      rw [List.zipWith_cons_cons, lookup_cons, lookup_cons, lookup_cons]
      by_cases hk : k = e.1
      · rw [if_pos hk, if_pos hk, if_pos (hk.trans he)]
        rfl
      · rw [if_neg hk, if_neg hk, if_neg (fun hk' => hk (hk'.trans he.symm)), ih hl]

end Entries

theorem nodup_writtenTexts {β : Type} {texts : List (String × Option String)}
    (h : (texts.map (·.1)).Nodup) (f : String → β) :
    (((writtenTexts texts).map fun t => (t.1, f t.2)).map (·.1)).Nodup := by
  rw [List.map_map]
  exact h.sublist (sublist_writtenTexts texts)

/-- The text that is written under a key, if there is one. -/
theorem lookup_writtenTexts {β : Type} {texts : List (String × Option String)}
    (h : (texts.map (·.1)).Nodup) (f : String → β) (key : String) :
    ((writtenTexts texts).map fun t => (t.1, f t.2)).lookup key =
      ((texts.lookup key).join.filter (· ≠ "")).map f := by
  cases hs : (texts.lookup key).join.filter (· ≠ "") with
  | some s =>
    obtain ⟨hj, -⟩ := Option.filter_eq_some_iff.1 hs
    have hmem := Entries.mem_of_lookup (Option.join_eq_some_iff.1 hj)
    rw [hj] at hs
    exact Entries.lookup_of_mem (nodup_writtenTexts h f)
      (mem_map_writtenTexts.2 ⟨_, hmem, s, hs, rfl⟩)
  | none =>
    rw [Option.map_none, Option.eq_none_iff_forall_ne_some]
    intro v hv
    obtain ⟨t, ht, s, hfilter, he⟩ := mem_map_writtenTexts.1 (Entries.mem_of_lookup hv)
    obtain ⟨rfl, -⟩ := Prod.mk.inj he
    rw [Entries.lookup_of_mem h ht] at hs
    exact nomatch hs.symm.trans hfilter

/-! ### Texts of customers -/

namespace Customer

/-- The text that a customer has under a name, unless it is empty. -/
def text? (c : Customer) (name : String) : Option String :=
  (c.texts.lookup name).join.filter (· ≠ "")

/-- The last text that any of the customers has under a name. -/
def lastText? (cs : List Customer) (name : String) : Option String :=
  (cs.filterMap (·.text? name)).getLast?

/-- The names of the texts of a customer. -/
def names : List String :=
  ["account", "contact", "name", "inn", "birthdate", "citizenship", "documentCode", "documentData",
    "address"]

theorem lookup_fields (c : Customer) (name : String) :
    c.fields.lookup name = (c.text? name).map Json.string :=
  lookup_writtenTexts c.nodup_texts Json.string name

theorem lookup_ofList_fields (c : Customer) (name : String) :
    (Entries.ofList c.fields).lookup name = (c.text? name).map Json.string :=
  (Entries.lookup_ofList (nodup_writtenTexts c.nodup_texts Json.string) name).trans
    (c.lookup_fields name)

theorem fields_eq_nil_iff (c : Customer) : c.fields = [] ↔ ∀ name, c.text? name = none := by
  constructor
  · intro h name
    have hlookup := c.lookup_fields name
    rw [h] at hlookup
    exact Option.map_eq_none_iff.1 hlookup.symm
  · intro h
    cases hfields : c.fields with
    | nil => rfl
    | cons f fs =>
      have hlookup := c.lookup_fields f.1
      rw [hfields, Entries.lookup_cons, if_pos rfl, h] at hlookup
      cases hlookup

theorem isEmpty_iff (c : Customer) : c.isEmpty ↔ c.fields = [] := by
  unfold isEmpty fields textFields writtenTexts
  rw [List.map_eq_nil_iff, List.filterMap_eq_nil_iff, List.all_eq_true]
  refine forall₂_congr fun t _ => ?_
  rw [Option.map_eq_none_iff, Option.filter_eq_none_iff, Option.all_eq_true]
  simp

theorem toJson_eq_nil_iff (c : Customer) : c.toJson = .object [] ↔ c.fields = [] := by
  rw [toJson, Json.object.injEq]
  constructor
  · intro h
    by_contra hne
    exact Entries.insertAll_ne_nil (.inr hne) h
  · intro h
    rw [h]
    rfl

/-! ### One customer over another -/

/-- The customer whose texts stand over those of another, which keeps what is not written. -/
def onto (c base : Customer) : Customer :=
  ofTexts (List.zipWith (fun new old => (new.2.filter (· ≠ "")).or old.2) c.texts base.texts)

theorem texts_onto (c base : Customer) :
    (c.onto base).texts =
      List.zipWith (fun new old => (new.1, (new.2.filter (· ≠ "")).or old.2)) c.texts base.texts :=
  rfl

/-- To merge two customers one after the other is to merge one. -/
theorem insertAll_fields (c base : Customer) :
    Entries.insertAll (Entries.ofList base.fields) c.fields = Entries.ofList (c.onto base).fields := by
  have hs : Entries.Sorted (Entries.ofList base.fields) := Entries.sorted_insertAll .nil _
  have hkeys : c.texts.map (·.1) = base.texts.map (·.1) := rfl
  refine Entries.Sorted.ext (Entries.sorted_insertAll hs _) (Entries.sorted_insertAll .nil _) fun k => ?_
  rw [Entries.lookup_insertAll_ofList, lookup_ofList_fields, lookup_ofList_fields,
    lookup_ofList_fields, text?, text?, text?, texts_onto,
    Entries.join_lookup_zipWith (f := fun new old => (new.filter (· ≠ "")).or old) rfl hkeys]
  cases hc : (c.texts.lookup k).join.filter (· ≠ "") with
  | none => rfl
  | some s =>
    have hne : s ≠ "" := by simpa using (Option.filter_eq_some_iff.1 hc).2
    simp [Option.filter, hne]

end Customer

/-! ### Customers of details -/

/-- What the customer of the details has under a name. -/
def Details.customerField (d : Details) (name : String) : Option Json :=
  (fieldsOf (d.get? "customer")).lookup name

namespace Write
open Details

/-- The texts of a customer stand over those that were there, one by one. -/
theorem lookup_after_customer (c : Customer) (v : Option Json) (name : String) :
    (fieldsOf ((customer c).after v)).lookup name =
      ((c.text? name).map Json.string).or ((fieldsOf v).lookup name) := by
  have htext := c.lookup_ofList_fields name
  by_cases hc : c.fields = []
  · rw [hc] at htext
    have hnone : (c.text? name).map Json.string = none := htext.symm
    rw [after, if_pos hc, hnone, Option.none_or]
  · rw [after, if_neg hc]
    show (Entries.insertAll (fieldsOf v) c.fields).lookup name = _
    rw [Entries.lookup_insertAll_ofList, htext]

theorem lookup_afterAll_customer (cs : List Customer) (v : Option Json) (name : String) :
    (fieldsOf (afterAll (cs.map customer) v)).lookup name =
      ((Customer.lastText? cs name).map Json.string).or ((fieldsOf v).lookup name) := by
  induction cs generalizing v with
  | nil => rfl
  | cons c cs ih =>
    show (fieldsOf (afterAll (cs.map customer) ((customer c).after v))).lookup name = _
    rw [ih, lookup_after_customer, ← Option.or_assoc]
    congr 1
    rw [Customer.lastText?, Customer.lastText?, List.filterMap_cons]
    cases c.text? name with
    | none => exact Option.or_none
    | some text =>
      rw [List.getLast?_cons]
      cases (cs.filterMap (·.text? name)).getLast? <;> rfl

end Write
end Till
