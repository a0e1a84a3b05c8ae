import Till.Proofs.Bulk.Disjoint
import Till.Proofs.Details.Customer

/-!
# A record over what is there

The entries of a slot write to its key one after another (`Kind.forall₂_writesTo`). So an operator of
a record takes the place of the one that was there as a whole, the texts of its customers take the
place of single texts, and what the record does not name stays. Main statement:
`Job.overlays_of_merges`.
-/

theorem List.Forall₂.exists_getLast? {α β : Type} {R : α → β → Prop} {l : List α} {l' : List β}
    (h : List.Forall₂ R l l') {a : α} (ha : l.getLast? = some a) :
    ∃ init b, l' = init ++ [b] ∧ R a b := by
  obtain ⟨rest, rfl⟩ := List.getLast?_eq_some_iff.1 ha
  have hreverse := List.forall₂_reverse_iff.2 h
  rw [List.reverse_concat] at hreverse
  cases hl : l'.reverse with
  | nil =>
    rw [hl] at hreverse
    cases hreverse
  | cons b init =>
    rw [hl] at hreverse
    obtain ⟨hab, -⟩ := List.forall₂_cons.1 hreverse
    exact ⟨init.reverse, b, by rw [List.reverse_eq_iff.1 hl, List.reverse_cons], hab⟩

/-- What is read from values one by one can be mapped afterwards. -/
theorem Except.exists_map_of_forall₂ {ε α β γ : Type} {f : α → Except ε β} {g : β → γ} {l : List α}
    {l' : List γ} (h : List.Forall₂ (fun a c => (f a).map g = .ok c) l l') :
    ∃ bs, l' = bs.map g ∧ List.Forall₂ (fun a b => f a = .ok b) l bs := by
  induction h with
  | nil => exact ⟨[], rfl, .nil⟩
  | cons hac _ ih =>
    obtain ⟨b, hb, rfl⟩ := map_eq_ok_iff.1 hac
    obtain ⟨bs, rfl, hbs⟩ := ih
    exact ⟨b :: bs, rfl, .cons hb hbs⟩

namespace Till

open Entries

/-! ### Writes of a slot -/

namespace Kind
variable {k : Kind} {l : List (String × Json)} {s : Slot} {key : String} {v : Json}

/-- What the entries of a slot write to its key. -/
theorem forall₂_writesTo (hs : s ∈ k.slots) (h : (k.acceptAll l).2 = .ok ()) :
    List.Forall₂ (fun e x => s.accept e.2 = .ok x) (named s.foldedKey l)
      (Effect.writesTo s.key (k.acceptAll l).1) := by
  induction l with
  | nil => exact .nil
  | cons entry l ih =>
    obtain ⟨key, v⟩ := entry
    rw [acceptAll] at h ⊢
    cases ha : k.accept key v with
    | error e => rw [ha] at h; cases h
    | ok e =>
      rw [ha] at h
      by_cases hkey : Text.lower key = s.foldedKey
      · rw [accept_slot hs hkey] at ha
        obtain ⟨x, hx, rfl⟩ := Except.map_eq_ok_iff.1 (Checked.lift_eq_ok_iff.1 ha)
        have hwrite : (Effect.write x).writeTo? s.key = some x :=
          Effect.writeTo?_eq_some_iff.2 ⟨rfl, Slot.key_of_accept hx⟩
        rw [named, List.filter_cons_of_pos (by simpa using hkey), Effect.writesTo,
          List.filterMap_cons, hwrite]
        exact .cons hx (ih h)
      · have hnone : e.writeTo? s.key = none := by
          cases he : e.writeTo? s.key with
          | none => rfl
          | some x =>
            obtain ⟨rfl, hx⟩ := Effect.writeTo?_eq_some_iff.1 he
            exact absurd ((lower_of_write ha).trans (by rw [hx, s.bulkName_key])) hkey
        rw [named, List.filter_cons_of_neg (by simpa using hkey), Effect.writesTo,
          List.filterMap_cons, hnone]
        exact ih h

/-- Nothing is written to a key that no entry names. -/
theorem writesTo_eq_nil (h : (k.acceptAll l).2 = .ok ())
    (hkey : named (Details.bulkName key) l = []) :
    Effect.writesTo key (k.acceptAll l).1 = [] := by
  rw [writesTo_acceptAll_named key h, hkey]
  rfl

/-- A slot that is named by a record without unknown keys is one of the kind. -/
theorem mem_slots_of_passes {bulk : Fields} (h : Job.Passes k false bulk)
    (hnamed : named s.foldedKey bulk.entries ≠ []) : s ∈ k.slots := by
  obtain ⟨e, he⟩ := List.exists_mem_of_ne_nil _ hnamed
  obtain ⟨hmem, hlower⟩ := mem_named.1 he
  rcases h with h | h
  · cases h
  · have hknows := h e.1 (List.mem_map_of_mem hmem)
    rw [knows_iff, bulkKey_eq_skipped_iff, bulkKey_eq_idempotencyKey_iff, bulkKey_eq_padding_iff,
      hlower] at hknows
    rcases hknows with hk | hk | hk | ⟨s', hs'⟩
    · exact absurd hk (Slot.foldedKey_ne (by decide) s)
    · exact absurd hk (Slot.foldedKey_ne (by decide) s)
    · exact absurd hk (Slot.foldedKey_ne (by decide) s)
    · obtain ⟨hmem', hlower'⟩ := bulkKey_eq_slot_iff.1 hs'
      rwa [Slot.foldedKey_injective (hlower.symm.trans hlower')]

end Kind

/-! ### Merges -/

/-- What a record leaves of the details that it is merged into. -/
structure Details.Overlays (bulk : Fields) (before after : Details) : Prop where
  /-- The last operator of the record stands. -/
  operator : ∀ e ∈ (named "operator" bulk.entries).getLast?,
    ∃ o, Operator.ofJson e.2 = .ok o ∧ after.get? "operator" = some o.toJson
  /-- Under each name stands the last text that the customers of the record have, or else what stood
  there. -/
  customer : ∃ cs,
    List.Forall₂ (fun e c => Customer.ofJson e.2 = .ok c) (named "customer" bulk.entries) cs ∧
      ∀ name, after.customerField name =
        ((Customer.lastText? cs name).map Json.string).or (before.customerField name)
  /-- What is not named stays. -/
  kept : ∀ key, named (Details.bulkName key) bulk.entries = [] → after.get? key = before.get? key

namespace Job
variable {w : World} {bulk : Fields} {s s' : Job × Trace}

theorem overlays_of_merges (h : Merges w false bulk s s') :
    Details.Overlays bulk s.1.details s'.1.details := by
  obtain ⟨hpasses, hok, rfl⟩ := merges_iff.1 h
  have hkept (key : String) (hkey : named (Details.bulkName key) bulk.entries = []) :
      (Effect.runAll w (s.1.kind.acceptAll bulk.entries).1 s).1.details.get? key =
        s.1.details.get? key := by
    rw [Effect.get?_runAll, Kind.writesTo_eq_nil hok hkey]
    rfl
  refine ⟨fun e he => ?_, ?_, hkept⟩
  · have hslot : Slot.operator ∈ s.1.kind.slots :=
      Kind.mem_slots_of_passes hpasses fun hnil => by
        rw [show Slot.operator.foldedKey = "operator" from rfl] at hnil
        rw [hnil] at he
        cases he
    obtain ⟨xs, x, hxs, hx⟩ := (Kind.forall₂_writesTo hslot hok).exists_getLast? he
    obtain ⟨o, ho, rfl⟩ := Except.map_eq_ok_iff.1 hx
    refine ⟨o, ho, ?_⟩
    rw [Effect.get?_runAll]
    show Write.afterAll (Effect.writesTo Slot.operator.key _) _ = _
    rw [hxs, Write.afterAll, List.foldl_append]
    rfl
  · by_cases hnamed : named "customer" bulk.entries = []
    · refine ⟨[], by rw [hnamed]; exact .nil, fun name => ?_⟩
      rw [Details.customerField, hkept "customer" hnamed]
      rfl
    · have hslot : Slot.customer ∈ s.1.kind.slots := Kind.mem_slots_of_passes hpasses hnamed
      obtain ⟨cs, hcs, hread⟩ := Except.exists_map_of_forall₂ (Kind.forall₂_writesTo hslot hok)
      refine ⟨cs, hread, fun name => ?_⟩
      rw [Details.customerField, Effect.get?_runAll]
      show (Details.fieldsOf
        (Write.afterAll (Effect.writesTo Slot.customer.key _) _)).lookup name = _
      rw [hcs, Write.lookup_afterAll_customer]
      rfl

end Job
end Till
