import Till.Proofs.Bulk.Prefix
import Till.Proofs.Operation.Key
import Till.Proofs.Settings.Layers

/-!
# Defaults as a bulk record

The defaults of settings that will do merge into every job (`Settings.verdict_defaults`): the
operator and the customer are read back from what is written of them, and a kind that has no use for
one passes over it. They pin no key (`Settings.pins_defaults`).
-/

namespace Till

/-! ### Records under a key of their own -/

namespace Kind
variable {k : Kind} {key : String} {v : Json}

/-- What a write of a slot does to operations of a kind; those without the slot pass over it. -/
def effectFor (k : Kind) (s : Slot) (x : Write) : Effect :=
  if s ∈ k.slots then .write x else .skip

theorem pin?_effectFor (k : Kind) (s : Slot) (x : Write) : (k.effectFor s x).pin? = none := by
  unfold effectFor
  split <;> rfl

/-- A value that its slot accepts is accepted by every kind. -/
theorem accept_of_slot {s : Slot} {x : Write} (hkey : Text.lower key = s.foldedKey)
    (h : s.accept v = .ok x) :
    k.accept key v = .ok (k.effectFor s x) := by
  have hne (folded : String) (hfolded : folded ∉ Slot.all.map Slot.foldedKey) :
      Text.lower key ≠ folded := fun he => Slot.foldedKey_ne hfolded s (hkey.symm.trans he)
  unfold accept
  cases hb : k.bulkKey key with
  | skipped => exact absurd (bulkKey_eq_skipped_iff.1 hb) (hne _ (by decide))
  | idempotencyKey => exact absurd (bulkKey_eq_idempotencyKey_iff.1 hb) (hne _ (by decide))
  | padding => exact absurd (bulkKey_eq_padding_iff.1 hb) (hne _ (by decide))
  | slot s' =>
    obtain ⟨hs', hkey'⟩ := bulkKey_eq_slot_iff.1 hb
    cases Slot.foldedKey_injective (hkey.symm.trans hkey')
    rw [effectFor, if_pos hs']
    show Checked.lift ((s.accept v).map Effect.write) = _
    rw [h]
    rfl
  | unknown =>
    rw [effectFor, if_neg fun hs => ?_]
    rw [bulkKey_eq_slot_iff.2 ⟨hs, hkey⟩] at hb
    cases hb

end Kind

theorem OperatorEntry.ofJson_toJson (o : OperatorEntry) :
    Operator.ofJson o.toJson = Operator.make o.name o.inn :=
  Operator.ofJson_fields o.name o.inn

/-! ### The defaults -/

namespace Settings
variable {s : Settings} {k : Kind}

/-- A command runs with settings that will do. -/
theorem validate_of_layered {file : SettingsFile} {env : Environment} {o : Overrides}
    (h : layered file env o = .ok s) : s.validate = .ok () := by
  unfold layered at h
  cases hread : read file env with
  | error err =>
    rw [hread] at h
    cases h
  | ok s' =>
    rw [hread, Except.bind, validated] at h
    obtain ⟨⟨⟩, hs, rfl⟩ := Except.map_eq_ok_iff.1 h
    exact hs

theorem exists_operator? (hs : s.validate = .ok ()) : ∃ o, s.operator? = .ok o := by
  obtain ⟨-, hoperator⟩ := validate_eq_ok_iff.1 hs
  unfold operator?
  cases ho : s.operator with
  | none => exact ⟨none, rfl⟩
  | some e =>
    obtain ⟨o, ho⟩ := hoperator e ho
    refine ⟨some o, ?_⟩
    show e.operator.map some = _
    rw [ho]
    rfl

/-- What the defaults do to operations of a kind. -/
def defaultEffects (k : Kind) (o : Option Operator) (c : Option Customer) : List Effect :=
  (c.map fun c => k.effectFor .customer (.customer c)).toList ++
    (o.map fun o => k.effectFor .operator (.operator o)).toList

theorem entries_defaults (s : Settings) : s.defaults.entries =
    (s.customer?.map fun c => ("customer", c.toJson)).toList ++
      (s.operator.map fun o => ("operator", o.toJson)).toList := by
  unfold defaults
  cases s.operator with
  | none => cases s.customer? <;> rfl
  | some o =>
    cases s.customer? with
    | none => rfl
    | some c =>
      have hlt : "customer" < "operator" := by decide
      show Entries.insert "customer" c.toJson [("operator", o.toJson)] = _
      rw [Entries.insert, if_pos hlt]
      rfl

theorem acceptAll_operator (k : Kind) {o : Option Operator} (ho : s.operator? = .ok o) :
    k.acceptAll (s.operator.map fun o => ("operator", o.toJson)).toList =
      (defaultEffects k o none, .ok ()) := by
  unfold operator? at ho
  cases he : s.operator with
  | none =>
    rw [he] at ho
    cases ho
    rfl
  | some e =>
    rw [he] at ho
    obtain ⟨x, hx, rfl⟩ := Except.map_eq_ok_iff.1 ho
    have haccept : Slot.operator.accept e.toJson = .ok (.operator x) := by
      rw [Slot.accept, e.ofJson_toJson, Checked.lift_eq_ok_iff.1 hx]
      rfl
    have hkey : Text.lower "operator" = Slot.operator.foldedKey := by decide
    rw [Option.map_some, Option.toList_some, Kind.acceptAll, Kind.accept_of_slot hkey haccept]
    rfl

theorem acceptAll_customer (k : Kind) (c? : Option Customer) :
    k.acceptAll (c?.map fun c => ("customer", c.toJson)).toList =
      (defaultEffects k none (c?.map Customer.withoutBlanks), .ok ()) := by
  cases c? with
  | none => rfl
  | some c =>
    have haccept : Slot.customer.accept c.toJson = .ok (.customer c.withoutBlanks) := by
      rw [Slot.accept, Customer.ofJson_eq_ok_iff.2 c.denotes_toJson]
      rfl
    have hkey : Text.lower "customer" = Slot.customer.foldedKey := by decide
    rw [Option.map_some, Option.toList_some, Kind.acceptAll, Kind.accept_of_slot hkey haccept]
    rfl

/-- Settings that will do have defaults that every kind accepts. -/
theorem acceptAll_defaults {o : Option Operator} (ho : s.operator? = .ok o) (k : Kind) :
    k.acceptAll s.defaults.entries =
      (defaultEffects k o (s.customer?.map Customer.withoutBlanks), .ok ()) := by
  have hcustomer := acceptAll_customer k s.customer?
  rw [entries_defaults, Kind.acceptAll_append (congrArg Prod.snd hcustomer), hcustomer,
    acceptAll_operator k ho]
  cases s.customer? <;> rfl

/-- Settings that will do have defaults that merge, whatever the kind. -/
theorem verdict_defaults (hs : s.validate = .ok ()) :
    (Job.bulkEffects k s.defaults true).2 = .ok () := by
  obtain ⟨o, ho⟩ := exists_operator? hs
  exact congrArg Prod.snd (acceptAll_defaults ho k)

theorem pins_defaults (hs : s.validate = .ok ()) :
    (JobStep.merge s.defaults true).pins k = [] := by
  obtain ⟨o, ho⟩ := exists_operator? hs
  rw [← JobStep.pins_effects]
  show (k.acceptAll s.defaults.entries).1.filterMap Effect.pin? = []
  rw [acceptAll_defaults ho k]
  cases o <;> cases s.customer? <;> simp [defaultEffects, Kind.pin?_effectFor]

end Settings
end Till
