import Till.Proofs.Checked
import Till.Proofs.Details.Schema
import Till.Proofs.Kind.BulkKey
import Till.Proofs.Operation.Effect

/-!
# The form of bodies

`Details.Conforms k`: the details have no key but those of the slots of the kind and the padding,
and what stands under a key fits. New details conform, every effect of a step that the kind allows
keeps that (`Effect.Within.conforms`), and so does every run. Main statement: whatever steps a new
job has taken, its details and the bodies it has sent conform (`Job.run_conforms`).
-/

namespace Till

/-! ### Details of a kind -/

namespace Details
variable {k : Kind} {d : Details}

structure Conforms (k : Kind) (d : Details) : Prop where
  known : ∀ key v, d.get? key = some v → key = "*padding*" ∨ ∃ s ∈ k.slots, s.key = key
  fits : ∀ (s : Slot) v, d.get? s.key = some v → s.Fits v
  padding : ∀ v, d.get? "*padding*" = some v → v.IsText fun _ => True

namespace Conforms

theorem empty (k : Kind) : Conforms k .empty where
  known _ _ h := by cases h
  fits _ _ h := by cases h
  padding _ h := by cases h

/-- A key that is neither padding nor that of a slot is not there. -/
theorem get?_eq_none (h : Conforms k d) {key : String} (hp : key ≠ "*padding*")
    (hs : key ∉ Slot.all.map Slot.key) : d.get? key = none := by
  cases hv : d.get? key with
  | none => rfl
  | some v =>
    rcases h.known key v hv with rfl | ⟨s, -, hk⟩
    · exact absurd rfl hp
    · exact absurd hk (Slot.key_ne hs s)

end Conforms
end Details

namespace Write
variable {k : Kind} {d : Details} {x : Write}

theorem key_of_slot {s : Slot} (h : x.slot = some s) : x.key = s.key := by
  cases x <;> cases h <;> rfl

theorem eq_padding_of_slot (h : x.slot = none) : ∃ s, x = padding s := by
  cases x with
  | padding s => exact ⟨s, rfl⟩
  | _ => cases h

/-- A write to a slot of the kind keeps the form of the details. -/
theorem conforms_run (hx : ∀ s ∈ x.slot, s ∈ k.slots) (h : d.Conforms k) :
    (x.run d).Conforms k := by
  cases hslot : x.slot with
  | none =>
    obtain ⟨p, rfl⟩ := eq_padding_of_slot hslot
    refine ⟨fun key v hv => ?_, fun s v hv => ?_, fun v hv => ?_⟩
    · rw [get?_run] at hv
      split at hv
      · exact .inl ‹_›
      · exact h.known key v hv
    · have hne : s.key ≠ (padding p).key := Slot.key_ne (by decide : "*padding*" ∉ _) s
      rw [get?_run, if_neg hne] at hv
      exact h.fits s v hv
    · rw [get?_run] at hv
      cases hv
      exact ⟨p, rfl, trivial⟩
  | some s =>
    have hkey := key_of_slot hslot
    refine ⟨fun key v hv => ?_, fun s' v hv => ?_, fun v hv => ?_⟩
    · rw [get?_run] at hv
      split at hv
      · rename_i he
        exact .inr ⟨s, hx s hslot, by rw [he, hkey]⟩
      · exact h.known key v hv
    · rw [get?_run, hkey] at hv
      split at hv
      · cases Slot.key_injective ‹_›
        exact fits_after hslot (fun v hv => h.fits _ v hv) v hv
      · exact h.fits s' v hv
    · rw [get?_run, hkey, if_neg (Slot.key_ne (by decide) s).symm] at hv
      exact h.padding v hv

end Write

/-! ### The slots of accepted writes -/

theorem Setter.slot_of_accept {s : Setter} {x : Write} (h : s.accept = .ok x) :
    x.slot = s.slot := by
  cases s with
  | operator name inn => obtain ⟨o, -, rfl⟩ := Except.map_eq_ok_iff.1 h; rfl
  | cashSum y => obtain ⟨_, rfl⟩ := Limits.cashSumWrite_eq_ok_iff.1 h; rfl
  | addItem title price quantity => obtain ⟨i, -, rfl⟩ := Except.map_eq_ok_iff.1 h; rfl
  | addTaxedItem title price quantity named =>
    obtain ⟨rate, -, h⟩ := Except.bind_eq_ok_iff.1 h
    obtain ⟨i, -, h⟩ := Except.bind_eq_ok_iff.1 h
    cases h; rfl
  | tax t => obtain ⟨t, -, rfl⟩ := Except.map_eq_ok_iff.1 h; rfl
  | payment named sum =>
    obtain ⟨type, -, h⟩ := Except.bind_eq_ok_iff.1 h
    obtain ⟨p, -, h⟩ := Except.bind_eq_ok_iff.1 h
    cases h; rfl
  | _ => cases h; rfl

theorem Slot.slot_of_accept {s : Slot} {v : Json} {x : Write} (h : s.accept v = .ok x) :
    x.slot = some s := by
  cases s with
  | cashSum =>
    obtain ⟨y, -, h⟩ := Except.bind_eq_ok_iff.1 h
    obtain ⟨_, rfl⟩ := Limits.cashSumWrite_eq_ok_iff.1 h
    rfl
  | items | document =>
    obtain ⟨vs, -, h⟩ := Except.bind_eq_ok_iff.1 h
    obtain ⟨is, -, h⟩ := Except.bind_eq_ok_iff.1 h
    cases h; rfl
  | _ => obtain ⟨a, -, rfl⟩ := Except.map_eq_ok_iff.1 h; rfl

/-- The key under which a setter writes. -/
def Setter.key (s : Setter) : String :=
  (s.slot.map Slot.key).getD "*padding*"

theorem Setter.key_of_accept {s : Setter} {x : Write} (h : s.accept = .ok x) : x.key = s.key := by
  unfold key
  rw [← slot_of_accept h]
  cases x <;> rfl

theorem Slot.key_of_accept {s : Slot} {v : Json} {x : Write} (h : s.accept v = .ok x) :
    x.key = s.key :=
  Write.key_of_slot (slot_of_accept h)

/-! ### Effects -/

/-- The effect writes to slots of the kind only. -/
def Effect.Within (k : Kind) : Effect → Prop
  | write x => ∀ s ∈ x.slot, s ∈ k.slots
  | _ => True

namespace Effect
variable {k : Kind} {w : World}

theorem Within.conforms {e : Effect} (he : e.Within k) {s : Job × Trace}
    (h : s.1.details.Conforms k) : (e.run w s).1.details.Conforms k := by
  cases e with
  | skip => exact h
  | pin key => exact h
  | write x => exact Write.conforms_run he h

theorem runAll_conforms {es : List Effect} (hes : ∀ e ∈ es, e.Within k) {s : Job × Trace}
    (h : s.1.details.Conforms k) : (runAll w es s).1.details.Conforms k := by
  induction es generalizing s with
  | nil => exact h
  | cons e es ih =>
    exact ih (fun e he => hes e (List.mem_cons_of_mem _ he))
      ((hes e (List.mem_cons_self ..)).conforms h)

end Effect

namespace Kind
variable {k : Kind}

/-- An entry that names a slot of the kind says what the slot reads. -/
theorem accept_slot {s : Slot} {key : String} {v : Json} (hs : s ∈ k.slots)
    (hkey : Text.lower key = s.foldedKey) :
    k.accept key v = Checked.lift ((s.accept v).map .write) := by
  unfold accept
  rw [bulkKey_eq_slot_iff.2 ⟨hs, hkey⟩]

theorem within_of_accept {key : String} {v : Json} {e : Effect} (h : k.accept key v = .ok e) :
    e.Within k := by
  cases accepts_of_accept h with
  | skipped | ignored | newKey | key => trivial
  | padding hb => exact nofun
  | slot hb hx =>
    intro s hs
    rw [Slot.slot_of_accept hx] at hs
    cases hs
    exact (bulkKey_eq_slot_iff.1 hb).1

end Kind

theorem Job.within_bulkEffects {k : Kind} {bulk : Fields} {ignoreUnknown : Bool} :
    ∀ e ∈ (bulkEffects k bulk ignoreUnknown).1, e.Within k := by
  intro e he
  obtain ⟨entry, -, haccept⟩ := exists_entry_of_bulkEffects he
  exact Kind.within_of_accept haccept

/-- The steps that a kind allows write to its slots only. -/
theorem JobStep.within_effects {k : Kind} {s : JobStep} (hs : k.allows s = true) :
    ∀ e ∈ (s.effects k).1, e.Within k := by
  cases s with
  | set s =>
    unfold effects
    simp only
    split
    · rename_i x hx
      intro e he
      cases List.mem_singleton.1 he
      intro slot hslot
      rw [Setter.slot_of_accept hx] at hslot
      simpa [Kind.allows, Kind.offers, show s.slot = some slot from hslot] using hs
    · exact fun e he => nomatch he
  | key key =>
    intro e he
    cases List.mem_singleton.1 he
    trivial
  | merge bulk ignoreUnknown => exact Job.within_bulkEffects
  | perform => exact fun e he => nomatch he
  | performWith bulk => exact Job.within_bulkEffects

/-! ### Runs -/

namespace Job
variable {k : Kind} {w : World}

/-- A body that was sent is the text of details that conform. -/
def ConformingBody (k : Kind) (r : Request) : Prop :=
  ∃ d : Details, d.Conforms k ∧ r.body = some d.text

theorem step_conforms {s : JobStep} (hs : k.allows s = true) {j : Job} (hk : j.kind = k) (t : Trace)
    (h : j.details.Conforms k) : (j.step w s t).1.1.details.Conforms k := by
  rw [step_job, hk]
  exact Effect.runAll_conforms (JobStep.within_effects hs) h

/-- Whatever steps a new job has taken, its details conform to its kind, neither the key of the job
nor a wrapper stands among them, and the bodies that it has sent conform as well. -/
theorem run_conforms (c : Connection) (hk : k.isQuery = false) (t : Trace) (steps : List JobStep)
    (hsteps : ∀ s ∈ steps, k.allows s = true) :
    (run w steps (fresh c k hk) t).1.1.details.Conforms k ∧
      (∀ key ∈ ["idempotencyKey", "details"],
        (run w steps (fresh c k hk) t).1.1.details.get? key = none) ∧
      ∀ r ∈ (run w steps (fresh c k hk) t).1.2.sent, r ∈ t.sent ∨ ConformingBody k r := by
  let P (j : Job) (t' : Trace) : Prop :=
    j.kind = k ∧ j.details.Conforms k ∧ ∀ r ∈ t'.sent, r ∈ t.sent ∨ ConformingBody k r
  have hstep : ∀ s j t', k.allows s = true → P j t' →
      P (j.step w s t').1.1 (j.step w s t').1.2 := by
    rintro s j t' hs ⟨hj, hd, hsent⟩
    have hd' := step_conforms (w := w) hs hj t' hd
    refine ⟨by rw [step_kind, hj], hd', fun r hr => ?_⟩
    rcases step_sent (w := w) s j t' with ⟨-, _, key, -, -, he⟩ | ⟨-, he⟩
    · rw [he] at hr
      rcases List.mem_append.1 hr with hr | hr
      · exact hsent r hr
      · cases List.mem_singleton.1 hr
        exact .inr ⟨_, hd', rfl⟩
    · rw [he] at hr
      exact hsent r hr
  obtain ⟨-, hd, hsent⟩ := run_invariant (P := P) hstep hsteps (t := t)
    (show P (fresh c k hk) t from ⟨rfl, .empty k, fun r hr => .inl hr⟩)
  refine ⟨hd, fun key hkey => ?_, hsent⟩
  simp only [List.mem_cons, List.not_mem_nil, or_false] at hkey
  rcases hkey with rfl | rfl
  · exact hd.get?_eq_none (by decide) (by decide)
  · exact hd.get?_eq_none (by decide) (by decide)

/-- A sale with one item, put together by steps of which one fails. -/
def saleSteps : List JobStep :=
  [.set (.addItem "Tea" 12.5 2), .set (.operator " " none), .key (some "k-1"),
    .merge (.ofList [("tax", .string "vat20")]) false, .perform]

theorem run_conforms_sale :
    let out := run (.unreachable .ofNat "down") saleSteps
      (fresh ⟨"host", "secret", "7"⟩ (.device .sell) rfl) .start
    out.1.1.details.Conforms (.device .sell) ∧ (out.1.1.details.get? "items").isSome ∧
      (out.1.1.details.get? "tax").isSome ∧ (out.1.1.details.get? "operator").isNone :=
  ⟨(run_conforms ⟨"host", "secret", "7"⟩ rfl .start saleSteps (by decide)).1, by decide +kernel,
    by decide +kernel, by decide +kernel⟩

end Job
end Till
