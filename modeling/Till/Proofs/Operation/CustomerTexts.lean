import Till.Proofs.Details.Again
import Till.Proofs.Details.Customer
import Till.Proofs.Operation.History

/-!
# The texts of the customer

Customers are merged text by text. After a run there stands under each name the last text that an
accepted call has given it, and no text is ever taken away (`Call.lookup_runAll_customer`). A
customer without texts is written as an empty object, and merging it is doing nothing
(`Customer.isEmpty_iff_mergeCustomer`). Main statement: `Job.run_customerTexts`.
-/

namespace Till

/-! ### Customers without texts -/

namespace Customer

theorem mergeCustomer_of_isEmpty {c : Customer} (h : c.isEmpty) (d : Details) :
    d.mergeCustomer c = d := by
  rw [Details.mergeCustomer, c.isEmpty_iff.1 h]
  rfl

/-- Where no object stands, a customer with texts makes one. -/
theorem mergeCustomer_ne {c : Customer} (h : ¬ c.isEmpty) {d : Details}
    (hd : ∀ fs, d.get? "customer" ≠ some (.object fs)) : d.mergeCustomer c ≠ d := by
  intro heq
  have hget := Write.get?_mergeCustomer d c "customer"
  rw [heq, if_pos rfl, Write.after, if_neg (mt c.isEmpty_iff.2 h)] at hget
  exact hd _ hget

theorem isEmpty_iff_mergeCustomer (c : Customer) :
    c.isEmpty ↔ ∀ d : Details, d.mergeCustomer c = d := by
  constructor
  · exact mergeCustomer_of_isEmpty
  · intro h
    by_contra hc
    exact mergeCustomer_ne hc (by simp) (h .empty)

/-- The texts of a customer that a value denotes: those that are strings and not empty. -/
theorem Denotes.text?_eq_some_iff {fs : List (String × Json)} {c : Customer}
    (h : Denotes (.object fs) c) {name s : String} :
    c.text? name = some s ↔ name ∈ names ∧ s ≠ "" ∧ fs.lookup name = some (.string s) := by
  obtain ⟨htexts⟩ := h
  have hnames : c.texts.map (·.1) = names := rfl
  rw [text?, Option.filter_eq_some_iff, Option.join_eq_some_iff]
  constructor
  · rintro ⟨hlookup, hne⟩
    have hmem := Entries.mem_of_lookup hlookup
    refine ⟨hnames ▸ List.mem_map_of_mem hmem, by simpa using hne, ?_⟩
    obtain ⟨-, htext⟩ := htexts _ hmem
    generalize fs.lookup name = found at htext
    cases htext with
    | given hs => cases hs; rfl
  · rintro ⟨hname, hne, hlookup⟩
    rw [← hnames] at hname
    obtain ⟨⟨_, o⟩, hmem, rfl⟩ := List.mem_map.1 hname
    obtain ⟨-, htext⟩ := htexts _ hmem
    rw [hlookup] at htext
    cases htext with
    | given hs =>
      cases hs
      exact ⟨Entries.lookup_of_mem c.nodup_texts hmem, by simpa using hne⟩

theorem flatMap_fields_eq_nil_iff (cs : List Customer) :
    cs.flatMap fields = [] ↔ ∀ name, lastText? cs name = none := by
  simp only [List.flatMap_eq_nil_iff, fields_eq_nil_iff, lastText?, List.getLast?_eq_none_iff,
    List.filterMap_eq_nil_iff]
  constructor
  · intro h name c hc
    exact h c hc name
  · intro h c hc name
    exact h name c hc

end Customer

/-! ### Calls -/

namespace Call
variable {w : World} {state state' : Job × Trace} {calls : List Call}

/-- The customer that a call merges. -/
def customer? : Call → Option Customer
  | set (.customer account contact name) => some { account, contact, name }
  | set (.customerRecord c) => some c
  | _ => none

/-- The last text that the calls give to a name. -/
def lastText? (calls : List Call) (name : String) : Option String :=
  Customer.lastText? (calls.filterMap customer?) name

theorem customer?_of_accept {s : Setter} {x : Write} (h : s.accept = .ok x) :
    (∃ c, (set s).customer? = some c ∧ x = .customer c) ∨
      (set s).customer? = none ∧ x.key ≠ "customer" := by
  by_cases hkey : x.key = "customer"
  · have hslot : s.slot = some .customer :=
      (Setter.slot_of_accept h).symm.trans (Write.slot_of_key hkey)
    cases s with
    | customer | customerRecord =>
      cases h
      exact .inl ⟨_, rfl, rfl⟩
    | _ => cases hslot
  · refine .inr ⟨?_, hkey⟩
    cases s with
    | customer | customerRecord =>
      cases h
      exact absurd rfl hkey
    | _ => rfl

theorem get?_run_customer {c : Call} (h : c.run w state = .ok state') :
    state'.1.details.get? "customer" =
      Write.afterAll (c.customer?.toList.map .customer) (state.1.details.get? "customer") := by
  obtain ⟨e, he, rfl⟩ := run_eq_ok_iff.1 h
  cases c with
  | set s =>
    obtain ⟨x, hx, rfl⟩ := accept_set_eq_ok_iff.1 he
    show (x.run state.1.details).get? "customer" = _
    rw [Write.get?_run]
    rcases customer?_of_accept hx with ⟨c, hc, rfl⟩ | ⟨hc, hkey⟩
    · rw [hc]
      rfl
    · rw [hc, if_neg (Ne.symm hkey)]
      rfl
  | key k =>
    cases he
    rfl
  | clearTax =>
    cases he
    exact Write.get?_run (.tax none) state.1.details "customer"

/-- Accepted calls leave what their customers leave, merged one after another. -/
theorem get?_runAll_customer (h : runAll w calls state = .ok state') :
    state'.1.details.get? "customer" =
      Write.afterAll ((calls.filterMap customer?).map .customer)
        (state.1.details.get? "customer") := by
  induction calls generalizing state with
  | nil =>
    cases h
    rfl
  | cons c calls ih =>
    obtain ⟨state₁, hc, h⟩ := runAll_cons_eq_ok_iff.1 h
    rw [ih h, get?_run_customer hc, List.filterMap_cons]
    cases c.customer? <;> rfl

theorem customerField_runAll (h : runAll w calls state = .ok state') (name : String) :
    state'.1.details.customerField name =
      ((lastText? calls name).map Json.string).or (state.1.details.customerField name) := by
  rw [Details.customerField, get?_runAll_customer h, Write.lookup_afterAll_customer]
  rfl

/-- Where no customer stood, there is one just if the calls give it a text. -/
theorem get?_runAll_customer_of_none (h : runAll w calls state = .ok state')
    (hnone : state.1.details.get? "customer" = none) :
    (state'.1.details.get? "customer" = none ∧ ∀ name, lastText? calls name = none) ∨
      ∃ fs, state'.1.details.get? "customer" = some (.object fs) ∧ Entries.Sorted fs ∧
        ∃ name, (lastText? calls name).isSome := by
  have hkeys : ∀ x ∈ (calls.filterMap customer?).map Write.customer, x.key = "customer" := by
    intro x hx
    obtain ⟨c, -, rfl⟩ := List.mem_map.1 hx
    rfl
  have hget := get?_runAll_customer h
  rw [Write.afterAll_customer hkeys, List.flatMap_map, hnone] at hget
  by_cases hnil : (calls.filterMap customer?).flatMap Customer.fields = []
  · exact .inl ⟨hget.trans (if_pos hnil), (Customer.flatMap_fields_eq_nil_iff _).1 hnil⟩
  · refine .inr ⟨_, hget.trans (if_neg hnil), Entries.sorted_insertAll .nil _, ?_⟩
    by_contra hno
    refine hnil ((Customer.flatMap_fields_eq_nil_iff _).2 fun name => ?_)
    exact Option.not_isSome_iff_eq_none.1 fun hsome => hno ⟨name, hsome⟩

end Call

/-! ### Runs -/

namespace Job

/-- The details have a customer just if there is a text for some name, and it has these texts alone. -/
structure HasTexts (d : Details) (text? : String → Option String) : Prop where
  isSome_iff : (d.get? "customer").isSome ↔ ∃ name, (text? name).isSome
  fields : ∀ v, d.get? "customer" = some v → ∃ fs, v = .object fs ∧ Entries.Sorted fs ∧
    ∀ name, fs.lookup name = (text? name).map .string

theorem hasTexts_of_runAll {w : World} {calls : List Call} {j j' : Job} {t t' : Trace}
    (h : Call.runAll w calls (j, t) = .ok (j', t')) (hnone : j.details.get? "customer" = none) :
    HasTexts j'.details (Call.lastText? calls) := by
  have hfield (name : String) := Call.customerField_runAll h name
  simp only [Details.customerField, hnone] at hfield
  rcases Call.get?_runAll_customer_of_none h hnone with ⟨hget, hno⟩ | ⟨fs, hget, hsorted, hsome⟩
  · refine ⟨?_, ?_⟩
    · simp [hget, hno]
    · rw [hget]
      exact nofun
  · refine ⟨iff_of_true (by rw [hget]; rfl) hsome, fun v hv => ?_⟩
    obtain rfl : Json.object fs = v := Option.some.inj (hget.symm.trans hv)
    refine ⟨fs, rfl, hsorted, fun name => ?_⟩
    have := hfield name
    rw [hget] at this
    exact this.trans Option.or_none

/-- After a run there stands under each name of a customer the last text, not an empty one, that an
accepted call has given to it, or what stood there before. If no customer was there before, there is
one just if some name has got a text, and it has no other fields. A record gives a name a text by a
string that is not empty, and by nothing else; a customer without texts is one that is written as an
empty object, and one that changes no details at all. -/
theorem run_customerTexts (w : World) (steps : List JobStep) (j : Job) (t : Trace) :
    let out := run w steps j t
    (∃ calls, (∀ calls', History j.kind steps out.2 calls' ↔ calls' = calls) ∧
      (∀ name, out.1.1.details.customerField name =
        ((Call.lastText? calls name).map .string).or (j.details.customerField name)) ∧
      (j.details.get? "customer" = none →
        HasTexts out.1.1.details (Call.lastText? calls))) ∧
    (∀ bulk ignoreUnknown j t,
      Applies w bulk ignoreUnknown j t (j.kind.applied bulk ignoreUnknown)) ∧
    (∀ fs c, Customer.Denotes (.object fs) c → ∀ name s,
      c.text? name = some s ↔
        name ∈ Customer.names ∧ s ≠ "" ∧ fs.lookup name = some (.string s)) ∧
    ∀ c : Customer, (c.isEmpty ↔ c.toJson = .object []) ∧
      (c.isEmpty ↔ ∀ d : Details, d.mergeCustomer c = d) ∧
      (¬ c.isEmpty → ∀ d : Details, (∀ fs, d.get? "customer" ≠ some (.object fs)) →
        d.mergeCustomer c ≠ d) := by
  intro out
  obtain ⟨calls, hcalls, t', hrun⟩ := exists_history_iff w steps j t
  refine ⟨⟨calls, hcalls, Call.customerField_runAll hrun, hasTexts_of_runAll hrun⟩,
    applies_applied, fun fs c h name s => h.text?_eq_some_iff, fun c => ⟨?_, ?_, ?_⟩⟩
  · rw [c.isEmpty_iff, c.toJson_eq_nil_iff]
  · exact c.isEmpty_iff_mergeCustomer
  · intro hc d hd
    exact Customer.mergeCustomer_ne hc hd

-- an empty text and a `null` leave what the customer has
example :
    let w : World := .unreachable .ofNat "down"
    let j := fresh ⟨"host", "secret", "7"⟩ (.device .sell) rfl
    let out := run w [.set (.customer none (some "a@b.c") (some "Ann")),
      .merge (.ofList [("CUSTOMER", .object [("contact", .string ""), ("inn", .string "7"),
        ("name", .null), ("phone", .string "1")])]) false] j .start
    out.1.1.details.get? "customer" =
      some (.object [("contact", .string "a@b.c"), ("inn", .string "7"), ("name", .string "Ann")]) := by
  rfl

end Job
end Till
