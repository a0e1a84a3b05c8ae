import Till.Proofs.Bulk.Prefix
import Till.Proofs.Operation.Body

/-!
# Setters write in one place

An update is confined to a key if it writes there and nowhere else, and writes nothing when it is
refused (`Update.Confined`). A check in front of a confined update leaves it so
(`Update.Confined.check`); behind a write it would not. Main statement: the single writes of the
details, the setters built on them and the values of a bulk record are each confined to one key,
whatever stands in the details and in whatever form, and so a job that refuses one is as it was
(`Job.setters_confined`).
-/

namespace Till

namespace Update

/-- An update that fails by its arguments alone and then has written nothing, or else writes under
one key alone. -/
structure Confined (key : String) (u : Update Unit) : Prop where
  atomic : ∀ {d e}, (u.on d).2 = .error e → (u.on d).1 = d
  /-- If it fails, it fails so whatever the details are. -/
  refuses : ∀ {d e}, (u.on d).2 = .error e → ∀ d', (u.on d').2 = .error e
  frame : ∀ {d}, (u.on d).2 = .ok () → ∀ k, k ≠ key → (u.on d).1.get? k = d.get? k
  /-- What it leaves under its key is decided by what stood there. -/
  own : ∀ {d d'}, d.get? key = d'.get? key → (u.on d).1.get? key = (u.on d').1.get? key

theorem confined_modify {key : String} {g : Details → Details}
    (after : Option Json → Option Json)
    (h : ∀ d k, (g d).get? k = if k = key then after (d.get? k) else d.get? k) :
    Confined key (modify g) where
  atomic := nofun
  refuses := nofun
  frame {d} _ k hk := by rw [on_modify, h, if_neg hk]
  own {d d'} hd := by rw [on_modify, on_modify, h, h, if_pos rfl, if_pos rfl, hd]

theorem Confined.check {α : Type} {key : String} {c : Checked α} {u : α → Update Unit}
    (h : ∀ a, c = .ok a → Confined key (u a)) : Confined key (do u (← c)) := by
  cases c with
  | ok a => exact h a rfl
  | error e =>
    -- nothing has been written by the time of the check
    exact ⟨fun _ => rfl, fun he _ => he, nofun, fun hd => hd⟩

-- behind a write a check comes too late: what was written stays
example :
    ((do modify (·.insert "items" .null); throw (.required "items") : Update Unit).on
      .empty).1.get? "items" = some .null := rfl

theorem confined_run (x : Write) : Confined x.key (modify x.run) :=
  confined_modify x.after x.get?_run

theorem confined_commit {key : String} {c : Checked Write} (hkey : ∀ x, c = .ok x → x.key = key) :
    Confined key (commit c) :=
  .check fun x hx => hkey x hx ▸ confined_run x

end Update

namespace Details

/-- The single writes of the details. -/
inductive Mutator
  | pushItem (i : Item)
  | setOperator (o : Operator)
  | mergeCustomer (c : Customer)
  | setSeller (s : Seller)
  | setPayment (p : Payment)
  | setTax (t : Tax)
  | setText (slot : TextSlot) (b : TextBlock)
  | setCashSum (x : Float)
  | setFlag (key : String) (b : Bool)
  | pushDocumentBlock (b : DocumentBlock)
  | setConnParams (s : String)
  | setPadding (s : String)

namespace Mutator

def key : Mutator → String
  | pushItem _ => "items"
  | setOperator _ => "operator"
  | mergeCustomer _ => "customer"
  | setSeller _ => "seller"
  | setPayment _ => "payment"
  | setTax _ => "tax"
  | setText slot _ => slot.key
  | setCashSum _ => "cashSum"
  | setFlag key _ => key
  | pushDocumentBlock _ => "document"
  | setConnParams _ => "connParams"
  | setPadding _ => "*padding*"

def apply : Mutator → Update Unit
  | pushItem i => modify (·.pushItem i)
  | setOperator o => modify (·.setOperator o)
  | mergeCustomer c => modify (·.mergeCustomer c)
  | setSeller s => modify (·.setSeller s)
  | setPayment p => modify (·.setPayment p)
  | setTax t => modify (·.setTax t)
  | setText slot b => modify (·.setText slot b)
  | setCashSum x => Update.setCashSum x
  | setFlag key b => modify (·.setFlag key b)
  | pushDocumentBlock b => modify (·.pushDocumentBlock b)
  | setConnParams s => modify (·.setConnParams s)
  | setPadding s => modify (·.setPadding s)

theorem confined (m : Mutator) : m.apply.Confined m.key := by
  cases m with
  | pushItem i => exact Update.confined_run (.items [i])
  | setOperator o => exact Update.confined_run (.operator o)
  | mergeCustomer c => exact Update.confined_run (.customer c)
  | setSeller s => exact Update.confined_run (.seller s)
  | setPayment p => exact Update.confined_run (.payment p)
  | setTax t => exact Update.confined_run (.tax (some t))
  | setText slot b => exact Update.confined_run (.text slot b)
  | pushDocumentBlock b => exact Update.confined_run (.document [b])
  | setConnParams s => exact Update.confined_run (.connParams s)
  | setPadding s => exact Update.confined_run (.padding s)
  | setCashSum x =>
    refine .check fun _ _ => ?_
    exact Update.confined_modify (fun _ => some (.ofFloat x)) fun d k => d.get?_insert "cashSum" k _
  | setFlag key b =>
    -- any key will do, so this is no write of a slot
    exact Update.confined_modify (fun _ => some (.bool b)) fun d k => d.get?_insert key k _

end Mutator
end Details

theorem Setter.confined (s : Setter) : s.apply.Confined s.key := by
  rw [Setter.apply_eq]
  exact Update.confined_commit fun _ => key_of_accept

theorem Slot.confined (s : Slot) (v : Json) : (s.write v).Confined s.key := by
  rw [Slot.write_eq]
  exact Update.confined_commit fun _ => key_of_accept

/-! ### Setters of jobs -/

/-- The key of the details that a bulk key names. -/
def BulkKey.detailsKey? : BulkKey → Option String
  | padding => some "*padding*"
  | slot s => some s.key
  | _ => none

theorem Kind.exists_write_of_accept {k : Kind} {name key : String} {v : Json} {e : Effect}
    (hkey : (k.bulkKey name).detailsKey? = some key) (h : k.accept name v = .ok e) :
    ∃ x, e = .write x ∧ x.key = key := by
  cases accepts_of_accept h with
  | skipped hb | ignored hb | newKey hb | key hb =>
    rw [hb] at hkey
    cases hkey
  | padding hb =>
    rw [hb] at hkey
    cases hkey
    exact ⟨_, rfl, rfl⟩
  | slot hb hx =>
    rw [hb] at hkey
    cases hkey
    exact ⟨_, rfl, Slot.key_of_accept hx⟩

namespace Job
variable {w : World}

/-- What a setter with the key may come to on a job: an error, and job and trace are what they were,
or details that differ at most under the key, and all else is what it was. -/
inductive Settles {α : Type} (key : String) (j : Job) (t : Trace) :
    (Job × Trace) × Except ClientError α → Prop
  | refused (e : ClientError) : Settles key j t ((j, t), .error e)
  | written {d : Details} {a : α} (h : ∀ k, k ≠ key → d.get? k = j.details.get? k) :
      Settles key j t (({ j with details := d }, t), .ok a)

theorem update_settles {key : String} {u : Update Unit} (h : u.Confined key) (j : Job) (t : Trace) :
    Settles key j t (((j.update u).1, t), (j.update u).2) := by
  unfold update
  have hatomic : ∀ e, (u.on j.details).2 = .error e → (u.on j.details).1 = j.details :=
    fun _ => h.atomic
  have hframe : (u.on j.details).2 = .ok () →
      ∀ k, k ≠ key → (u.on j.details).1.get? k = j.details.get? k := h.frame
  generalize u.on j.details = out at hatomic hframe
  obtain ⟨d, verdict⟩ := out
  cases verdict with
  | error e =>
    obtain rfl : d = j.details := hatomic e rfl
    exact .refused _
  | ok => exact .written (hframe rfl)

theorem Settles.map {α β : Type} {key : String} {j : Job} {t : Trace} {state : Job × Trace}
    {verdict : Except ClientError α} (h : Settles key j t (state, verdict)) (f : α → β) :
    Settles key j t (state, verdict.map f) := by
  cases h with
  | refused e => exact .refused e
  | written h => exact .written h

theorem step_set_settles (s : Setter) (j : Job) (t : Trace) :
    Settles s.key j t (j.step w (.set s) t) :=
  (update_settles s.confined j t).map _

theorem merge_single_settles {name key : String} {j : Job}
    (hkey : (j.kind.bulkKey name).detailsKey? = some key) (v : Json) (ignoreUnknown : Bool)
    (t : Trace) : Settles key j t (j.merge w (.single name v) ignoreUnknown t) := by
  have hknows : ∀ key' ∈ (Fields.single name v).keys, j.kind.Knows key' := by
    intro key' hmem
    cases List.mem_singleton.1 hmem
    by_contra hno
    rw [Kind.bulkKey_eq_unknown_iff.2 hno] at hkey
    cases hkey
  rw [merge_single (.inr hknows) t (List.mem_singleton_self _), Kind.acceptAll]
  cases ha : j.kind.accept name v with
  | error e => exact .refused e
  | ok e =>
    obtain ⟨x, rfl, hx⟩ := Kind.exists_write_of_accept hkey ha
    refine .written fun k hk => ?_
    rw [Write.get?_run, hx, if_neg hk]

/-- Every write to the details, made by itself, by a setter that checks its arguments first or from a
value of a bulk record, is confined to its key: one that fails does so whatever the details are and
leaves them as they were, and one that succeeds changes nothing but what stands under that key. So a
job that takes one ends with the same details, key and trace as before, or with details that differ
under that key at most. The details may hold anything under any key. -/
theorem setters_confined (w : World) :
    (∀ m : Details.Mutator, m.apply.Confined m.key) ∧
    (∀ s : Setter, s.apply.Confined s.key ∧ ∀ j t, Settles s.key j t (j.step w (.set s) t)) ∧
    (∀ (s : Slot) v, (s.write v).Confined s.key) ∧
    ∀ (j : Job) t name v ignoreUnknown, ∀ key ∈ (j.kind.bulkKey name).detailsKey?,
      Settles key j t (j.merge w (.single name v) ignoreUnknown t) :=
  ⟨Details.Mutator.confined, fun s => ⟨s.confined, step_set_settles s⟩, Slot.confined,
    fun _ t _ v ignoreUnknown _ hkey => merge_single_settles hkey v ignoreUnknown t⟩

end Job
end Till
