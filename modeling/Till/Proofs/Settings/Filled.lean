import Till.Proofs.Bulk.Overlay
import Till.Proofs.CommandLine.Key

/-!
# Details with defaults

The defaults of settings that will do go into any job without fail, as what the accessors of the
settings say (`Settings.fill`): the operator is set, the texts of the customer are set one by one,
each where operations of the kind have it, and that is all (`Settings.fills_fill`). The details of a
command line go over them (`Details.Overlays`). Main statement: `Settings.defaults_merge`.
-/

namespace Till

namespace Settings
/-- Details with an operator and a customer by default, where operations of the kind have them. -/
def fill (k : Kind) (o : Option Operator) (c : Option Customer) (d : Details) : Details :=
  let d := if Slot.customer ∈ k.slots then c.elim d d.mergeCustomer else d
  if Slot.operator ∈ k.slots then o.elim d d.setOperator else d

/-- What the defaults leave of details. -/
structure Fills (k : Kind) (o : Option Operator) (c : Option Customer) (before after : Details) :
    Prop where
  operator : Slot.operator ∈ k.slots → ∀ x ∈ o, after.get? "operator" = some x.toJson
  /-- The texts of the customer stand, those that are empty apart, over what stood there. -/
  customer : Slot.customer ∈ k.slots → ∀ x ∈ c, ∀ name, after.customerField name =
    ((x.text? name).map Json.string).or (before.customerField name)
  noOperator : Slot.operator ∉ k.slots ∨ o = none →
    after.get? "operator" = before.get? "operator"
  noCustomer : Slot.customer ∉ k.slots ∨ c = none →
    after.get? "customer" = before.get? "customer"
  others : ∀ key, key ∉ ["operator", "customer"] → after.get? key = before.get? key

theorem get?_fill (k : Kind) (o : Option Operator) (c : Option Customer) (d : Details)
    (key : String) :
    (fill k o c d).get? key =
      if key = "operator" ∧ Slot.operator ∈ k.slots then
        o.elim (d.get? key) fun x => some x.toJson
      else if key = "customer" ∧ Slot.customer ∈ k.slots then
        c.elim (d.get? key) fun x => (Write.customer x).after (d.get? key)
      else d.get? key := by
  have hcustomer : (if Slot.customer ∈ k.slots then c.elim d d.mergeCustomer else d).get? key =
      if key = "customer" ∧ Slot.customer ∈ k.slots then
        c.elim (d.get? key) fun x => (Write.customer x).after (d.get? key)
      else d.get? key := by
    by_cases hk : Slot.customer ∈ k.slots
    · cases c with
      | none => simp
      | some x => simp [hk, Write.get?_mergeCustomer]
    · simp [hk]
  rw [fill]
  by_cases hk : Slot.operator ∈ k.slots
  · cases o with
    | none =>
      by_cases hkey : key = "operator"
      · subst hkey
        simpa [hk] using hcustomer
      · simp [hk, hkey, hcustomer]
    | some x => simp [hk, Details.setOperator, hcustomer]
  · simp [hk, hcustomer]

theorem fills_fill (k : Kind) (o : Option Operator) (c : Option Customer) (d : Details) :
    Fills k o c d (fill k o c d) where
  operator hk x hx := by
    rw [get?_fill, if_pos ⟨rfl, hk⟩, Option.mem_def.1 hx]
    rfl
  customer hk x hx name := by
    rw [Details.customerField, get?_fill, if_neg (by simp), if_pos ⟨rfl, hk⟩, Option.mem_def.1 hx]
    exact Write.lookup_after_customer x _ name
  noOperator h := by
    rw [get?_fill]
    rcases h with hk | rfl
    · simp [hk]
    · simp
  noCustomer h := by
    rw [get?_fill]
    rcases h with hk | rfl
    · simp [hk]
    · simp
  others key hkey := by
    simp only [List.mem_cons, List.not_mem_nil, or_false, not_or] at hkey
    rw [get?_fill, if_neg (fun h => hkey.1 h.1), if_neg (fun h => hkey.2 h.1)]

theorem run_effectFor {w : World} (k : Kind) (s : Slot) (x : Write) (j : Job) (t : Trace) :
    (k.effectFor s x).run w (j, t) =
      ({ j with details := if s ∈ k.slots then x.run j.details else j.details }, t) := by
  unfold Kind.effectFor
  split <;> rfl

/-- What the defaults do to a job. -/
theorem runAll_defaultEffects {w : World} (o : Option Operator) (c : Option Customer) (j : Job)
    (t : Trace) :
    Effect.runAll w (defaultEffects j.kind o (c.map Customer.withoutBlanks)) (j, t) =
      ({ j with details := fill j.kind o c j.details }, t) := by
  cases c with
  | none =>
    cases o with
    | none => simp [defaultEffects, fill]
    | some x => simp [defaultEffects, fill, run_effectFor, Write.run]
  | some c =>
    cases o with
    | none =>
      simp [defaultEffects, fill, run_effectFor, Write.run, Details.mergeCustomer_withoutBlanks]
    | some x =>
      show (j.kind.effectFor _ _).run w ((j.kind.effectFor _ _).run w (j, t)) = _
      rw [run_effectFor, run_effectFor]
      simp [fill, Write.run, Details.mergeCustomer_withoutBlanks]

end Settings

/-- An operation with an operator and a customer by default; a query has no use for them. -/
def Prepared.filled (o : Option Operator) (c : Option Customer) : Prepared → Prepared
  | query q => query q
  | job j => job { j with details := Settings.fill j.kind o c j.details }

theorem Prepared.merges_of_merge {w : World} {bulk : Fields} {ignoreUnknown : Bool} {j : Job}
    {t t' : Trace} {p : Prepared}
    (h : (Prepared.job j).merge w bulk ignoreUnknown t = ((p, t'), .ok ())) :
    ∃ j', p = .job j' ∧ Job.Merges w ignoreUnknown bulk (j, t) (j', t') := by
  rw [merge_job] at h
  rcases hm : j.merge w bulk ignoreUnknown t with ⟨⟨j', t''⟩, verdict⟩
  rw [hm] at h
  cases h
  exact ⟨j', rfl, hm⟩

namespace Settings
variable {s : Settings}

/-- The defaults merge into every operation, whatever state it is in. -/
theorem merge_defaults {o : Option Operator} (ho : s.operator? = .ok o) (w : World) (p : Prepared)
    (t : Trace) :
    p.merge w s.defaults true t = ((p.filled o s.customer?, t), .ok ()) := by
  cases p with
  | query q => exact Prepared.merge_query q w t s.defaults true
  | job j =>
    have hmerge : j.merge w s.defaults true t =
        (({ j with details := fill j.kind o s.customer? j.details }, t), .ok ()) := by
      rw [Job.merge_eq]
      show (Effect.runAll w (j.kind.acceptAll s.defaults.entries).1 (j, t),
        (j.kind.acceptAll s.defaults.entries).2) = _
      rw [acceptAll_defaults ho, runAll_defaultEffects]
    rw [Prepared.merge_job, hmerge]
    rfl

/-- The details of a command line go over the defaults. -/
theorem prepare_overlays {o : Option Operator} (ho : s.operator? = .ok o)
    {a : CommandLine.Sending} (ha : a.noDefaults = false) {w : World}
    {j : Job} {t t' : Trace} {p : Prepared} (h : a.prepare s w (.job j) t = .ok (p, t')) :
    ∃ bulk j', a.bulk = .ok bulk ∧ p = .job j' ∧
      Details.Overlays bulk (fill j.kind o s.customer? j.details) j'.details := by
  obtain ⟨p₁, t₁, bulk, p₂, t₂, hm, hbulk, hm', hp⟩ :=
    CommandLine.Sending.exists_merges_of_prepare h
  rw [CommandLine.Sending.defaults, ha, if_neg Bool.false_ne_true, merge_defaults ho] at hm
  cases hm
  obtain ⟨j₂, rfl, hmerges⟩ := Prepared.merges_of_merge hm'
  -- the key comes last and leaves the details alone
  have hdetails : (j₂.pinKey a.key w t₂).1.details = j₂.details := by cases a.key <;> rfl
  rw [if_pos (a.pins_job j₂), Prepared.pinKey_job] at hp
  refine ⟨bulk, (j₂.pinKey a.key w t₂).1, hbulk, congrArg Prod.fst hp, ?_⟩
  rw [hdetails]
  exact Job.overlays_of_merges hmerges

/-- Settings that will do have an operator, or none, and their defaults merge into every operation:
into a query for nothing, and into a job in whatever state as that operator and the customer, with no
change to its key or to the trace. A command that merges them puts its own details over them. -/
theorem defaults_merge (s : Settings) (hs : s.validate = .ok ()) :
    ∃ o, s.operator? = .ok o ∧
      (∀ w (p : Prepared) t,
        p.merge w s.defaults true t = ((p.filled o s.customer?, t), .ok ())) ∧
      (∀ k d, Fills k o s.customer? d (fill k o s.customer? d)) ∧
      ∀ (a : CommandLine.Sending) w j t p t', a.noDefaults = false →
        a.prepare s w (.job j) t = .ok (p, t') →
          ∃ bulk j', a.bulk = .ok bulk ∧ p = .job j' ∧
            Details.Overlays bulk (fill j.kind o s.customer? j.details) j'.details := by
  obtain ⟨o, ho⟩ := exists_operator? hs
  exact ⟨o, ho, merge_defaults ho, fun k d => fills_fill k o s.customer? d,
    fun a w j t p t' ha h => prepare_overlays ho ha h⟩

/-- A till with an operator and a customer, each with texts to be cleaned or passed over. -/
def tillSettings : Settings :=
  { connection := ⟨"till", "", "42"⟩
    operator := some ⟨" Anna ", some ""⟩
    customer := some { contact := some "a@b", name := some "" } }

theorem defaults_merge_sale :
    let w := World.unreachable .ofNat "down"
    let a : CommandLine.Sending :=
      ⟨"sell", some "\x7b\"Operator\":\x7b\"name\":\"Eva\"\x7d\x7d", none, false⟩
    let j := Job.fresh tillSettings.connection (.device .sell) rfl
    tillSettings.validate = .ok () ∧
      ∃ o, tillSettings.operator? = .ok o ∧ ∃ bulk j' t', a.bulk = .ok bulk ∧
        a.prepare tillSettings w (.job j) .start = .ok (.job j', t') ∧
        Details.Overlays bulk (fill j.kind o tillSettings.customer? j.details) j'.details := by
  intro w a j
  have hs : tillSettings.validate = .ok () := Except.eq_ok_of_isOk (by decide +kernel)
  have hok : (a.prepare tillSettings w (.job j) .start).isOk = true := by decide +kernel
  obtain ⟨o, ho, -, -, hprepare⟩ := defaults_merge tillSettings hs
  cases hp : a.prepare tillSettings w (.job j) .start with
  | error e =>
    rw [hp] at hok
    cases hok
  | ok found =>
    obtain ⟨p, t'⟩ := found
    obtain ⟨bulk, j', hbulk, rfl, hover⟩ := hprepare a w j .start p t' rfl hp
    exact ⟨hs, o, ho, bulk, j', t', hbulk, rfl, hover⟩

end Settings
end Till
