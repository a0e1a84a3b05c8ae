import Till.Proofs.Details.Customer
import Till.Proofs.Operation.Body

/-!
# What slots hold

However often a slot has been written, what it holds is what one write would have left there
(`Write.holds_after`): lists are joined, customers are merged, and all else is replaced. And what
one write leaves is accepted for the slot and read as that write (`Write.exists_accept_after`). So a
value that a slot holds is at once the record that puts it there.
-/

namespace Till
open Json

/-- The value is what one write leaves in the slot if nothing stood there. -/
def Slot.Holds (s : Slot) (v : Json) : Prop :=
  ∃ x : Write, x.slot = some s ∧ x.after none = some v

/-! ### Writes one after another -/

namespace Write

theorem appended_appended (vs vs' : List Json) (before : Option Json) :
    appended vs' (appended vs before) = appended (vs ++ vs') before := by
  unfold appended
  by_cases h : vs = []
  · simp [h]
  · by_cases h' : vs' = []
    · simp [h, h']
    · simp [h, h', Details.valuesOf]

theorem after_items_items (is is' : List Item) :
    (items is').after ((items is).after none) = (items (is ++ is')).after none := by
  simp only [after, appended_appended, List.map_append]

theorem after_document_document (bs bs' : List DocumentBlock) :
    (document bs').after ((document bs).after none) = (document (bs ++ bs')).after none := by
  simp only [after, appended_appended, List.map_append]

theorem after_customer {c : Customer} (h : c.fields ≠ []) (before : Option Json) :
    (customer c).after before =
      some (.object (Entries.insertAll (Details.fieldsOf before) c.fields)) :=
  if_neg h

/-- A customer over what another has left. -/
theorem after_customer_customer {c base : Customer} (h : c.fields ≠ []) (hbase : base.fields ≠ []) :
    (customer c).after ((customer base).after none) = (customer (c.onto base)).after none := by
  have hfields := c.insertAll_fields base
  have honto : (c.onto base).fields ≠ [] := by
    intro hn
    rw [hn] at hfields
    exact Entries.insertAll_ne_nil (.inr h) hfields
  rw [after_customer h, after_customer hbase, after_customer honto]
  exact congrArg (fun fs => some (Json.object fs)) hfields

theorem holds_after {x : Write} {s : Slot} (hs : x.slot = some s) {before : Option Json}
    (hb : ∀ v ∈ before, s.Holds v) : ∀ v ∈ x.after before, s.Holds v := by
  intro v hv
  cases x with
  | items is =>
    cases hs
    cases before with
    | none => exact ⟨_, rfl, hv⟩
    | some u =>
      obtain ⟨x, hx, hu⟩ := hb u rfl
      cases x with
      | items is₀ =>
        rw [← hu, after_items_items] at hv
        exact ⟨_, rfl, hv⟩
      | _ => cases hx
  | document bs =>
    cases hs
    cases before with
    | none => exact ⟨_, rfl, hv⟩
    | some u =>
      obtain ⟨x, hx, hu⟩ := hb u rfl
      cases x with
      | document bs₀ =>
        rw [← hu, after_document_document] at hv
        exact ⟨_, rfl, hv⟩
      | _ => cases hx
  | customer c =>
    cases hs
    by_cases hc : c.fields = []
    · rw [after, if_pos hc] at hv
      exact hb v hv
    · cases before with
      | none => exact ⟨_, rfl, hv⟩
      | some u =>
        obtain ⟨x, hx, hu⟩ := hb u rfl
        cases x with
        | customer base =>
          have hbase : base.fields ≠ [] := fun hn => by
            rw [after, if_pos hn] at hu
            cases hu
          rw [← hu, after_customer_customer hc hbase] at hv
          exact ⟨_, rfl, hv⟩
        | _ => cases hx
  | _ => exact ⟨_, hs, hv⟩

end Write

/-! ### What is held is read back -/

/-- The image of accepted arguments is accepted for the slot, and read as the write of the setter. -/
theorem Setter.exists_accept_image (st : Setter) {x : Write} (hx : st.accept = .ok x) {s : Slot}
    (hs : st.slot = some s) : ∃ x', s.accept st.image = .ok x' ∧ ∀ d, x'.run d = x.run d := by
  obtain ⟨calls, hcalls, heq⟩ := exists_denotes_image hx hs
  -- slots accept a value or not whatever the job is, so any job with the details will do
  let state (d : Details) : Job × Trace := (⟨⟨"", "", ""⟩, .device .sell, d, none, rfl⟩, .start)
  have hrun (d : Details) :
      (s.accept st.image).lift.map (fun x => (Effect.write x).run (.unreachable .ofNat "") (state d)) =
        .ok ((Effect.write x).run (.unreachable .ofNat "") (state d)) := by
    rw [← hcalls.runAll_eq, heq, Call.runAll_set hx]
    rfl
  obtain ⟨x', hx', -⟩ := Except.map_eq_ok_iff.1 (hrun .empty)
  have haccept := Checked.lift_eq_ok_iff.1 hx'
  refine ⟨x', haccept, fun d => ?_⟩
  have hd := hrun d
  rw [haccept] at hd
  exact congrArg (·.1.details) (Except.ok.inj hd)

theorem Write.exists_accept_after {x : Write} {s : Slot} (hs : x.slot = some s) {v : Json}
    (hv : x.after none = some v) : ∃ x', s.accept v = .ok x' ∧ ∀ d, x'.run d = x.run d := by
  have hlist {vs : List Json} (h : appended vs none = some v) : v = .array vs := by
    unfold appended at h
    split at h
    · cases h
    · exact (Option.some.inj h).symm
  cases x with
  | operator o => cases hs; cases hv; exact Setter.exists_accept_image (.operatorRecord o) rfl rfl
  | cashSum y ok =>
    cases hs
    cases hv
    exact Setter.exists_accept_image (.cashSum y) (Limits.cashSumWrite_eq_ok_iff.2 ⟨ok, rfl⟩) rfl
  | items is =>
    cases hs
    rw [hlist hv]
    exact Setter.exists_accept_image (.pushItems is) rfl rfl
  | tax t =>
    cases hs
    obtain ⟨t, rfl, rfl⟩ := Option.map_eq_some_iff.1 hv
    exact Setter.exists_accept_image (.tax (.value t)) rfl rfl
  | payment p => cases hs; cases hv; exact Setter.exists_accept_image (.paymentRecord p) rfl rfl
  | customer c =>
    cases hs
    rw [after] at hv
    split at hv
    · cases hv
    · cases hv
      exact Setter.exists_accept_image (.customerRecord c) rfl rfl
  | seller s =>
    cases hs
    cases hv
    obtain ⟨email⟩ := s
    -- an empty text is written as little as a missing one
    have hwritten : (⟨some (email.getD "")⟩ : Seller).toJson = (⟨email⟩ : Seller).toJson := by
      cases email <;> rfl
    obtain ⟨x', haccept, hrun⟩ :=
      Setter.exists_accept_image (.sellerEmail (email.getD "")) rfl rfl
    refine ⟨x', by rw [← hwritten]; exact haccept, fun d => (hrun d).trans ?_⟩
    exact congrArg (d.insert "seller") hwritten
  | text slot b =>
    cases hs
    rw [after] at hv
    split at hv
    · cases hv
    · cases hv
      exact Setter.exists_accept_image (.text slot b) rfl rfl
  | flag f b => cases hs; cases hv; exact Setter.exists_accept_image (.flag f b) rfl rfl
  | document bs =>
    cases hs
    rw [hlist hv]
    have hread : (bs.map DocumentBlock.toJson).mapM DocumentBlock.ofJson = .ok bs :=
      DocumentBlock.mapM_ofJson_eq_ok_iff.2
        (List.forall₂_map_left_iff.2 (List.forall₂_same.2 fun b _ => b.denotes_toJson))
    refine ⟨document bs, ?_, fun d => rfl⟩
    simp only [Slot.accept, arrayFor, hread, bind, Except.bind]
    rfl
  | connParams c => cases hs; cases hv; exact Setter.exists_accept_image (.connParams c) rfl rfl
  | padding p => cases hs

/-! ### Details -/

namespace Details

/-- Every slot holds what one write leaves there. -/
def Held (d : Details) : Prop :=
  ∀ (s : Slot) v, d.get? s.key = some v → s.Holds v

theorem Held.empty : Held .empty :=
  fun _ _ h => nomatch h

theorem Held.run {d : Details} (h : d.Held) (x : Write) : (x.run d).Held := by
  intro s v hv
  rw [Write.get?_run] at hv
  split at hv
  · rename_i hkey
    cases hx : x.slot with
    | none =>
      obtain ⟨p, rfl⟩ := Write.eq_padding_of_slot hx
      exact absurd hkey (Slot.key_ne (by decide : "*padding*" ∉ _) s)
    | some s' =>
      cases Slot.key_injective (hkey.trans (Write.key_of_slot hx))
      exact Write.holds_after hx (fun u hu => h s u hu) v hv
  · exact h s v hv

end Details

theorem Effect.runAll_held {w : World} (es : List Effect) {s : Job × Trace} (h : s.1.details.Held) :
    (runAll w es s).1.details.Held := by
  induction es generalizing s with
  | nil => exact h
  | cons e es ih =>
    refine ih ?_
    cases e with
    | skip | pin => exact h
    | write x => exact h.run x

end Till
