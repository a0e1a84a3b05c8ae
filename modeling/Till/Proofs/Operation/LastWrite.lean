import Till.Proofs.Details.Again
import Till.Proofs.Operation.History

/-!
# The last write stands

Outside lists and customers a write leaves the image of its arguments under its key, and nothing of
what stood there (`Setter.after_of_accept`). So what stands there after a run is told from the last
accepted call for the key, or is what it was before the run if there is none. Main statement:
`Job.run_lastWrite`.
-/

namespace Till

/-- What a setter leaves under its key: the image of its arguments, of an operator's without blanks
around them, and nothing at all for a text without content. -/
def Setter.leaves : Setter → Option Json
  | operator name inn => some (image (.operator (Text.trim name) (Operator.cleanInn inn)))
  | text slot b => if b.content = "" then none else some (image (.text slot b))
  | s => some s.image

namespace Call

/-- The key of the details under which the call writes. -/
def key? : Call → Option String
  | set s => some s.key
  | key _ => none
  | clearTax => some "tax"

/-- What the call leaves under its key. -/
def leaves : Call → Option Json
  | set s => s.leaves
  | key _ => none
  | clearTax => none

/-- The last of the calls that write under a key. -/
def last? (calls : List Call) (key : String) : Option Call :=
  (calls.filter fun c => c.key? = some key).getLast?

/-- The calls that leave nothing under their key. -/
inductive Clears : Call → Prop
  | tax : Clears .clearTax
  | text {slot : TextSlot} {b : TextBlock} (h : b.content = "") : Clears (.set (.text slot b))

end Call

/-- The values that clear a slot: no tax, and of a text no content but blanks, whatever its format. -/
inductive Slot.Clears : Slot → Json → Prop
  | tax : Clears .tax .null
  | null (slot : TextSlot) : Clears (.text slot) .null
  | blank {s : String} (slot : TextSlot) (h : Text.isBlankText s) : Clears (.text slot) (.string s)
  | object {fs : List (String × Json)} (slot : TextSlot)
      (h : ∀ s, fs.lookup "content" = some (.string s) → Text.isBlankText s) :
      Clears (.text slot) (.object fs)

/-! ### Images of what is written -/

namespace Operator

theorem toJson_of_make {name : String} {inn : Option String} {o : Operator}
    (h : make name inn = .ok o) :
    o.toJson = (Setter.operator (Text.trim name) (cleanInn inn)).image := by
  obtain ⟨hname, hinn⟩ := make_eq_ok_iff.1 h
  obtain ⟨htrim, -⟩ := Limits.operatorName_ok hname
  rw [toJson, fields, htrim, ← hinn]
  rfl

end Operator

namespace Payment

theorem toJson_of_make {type : PaymentType} {sum : Option Float} {p : Payment}
    (h : make type sum = .ok p) : p.toJson = (Setter.payment (.value type) sum).image := by
  obtain ⟨ok, rfl⟩ := make_eq_ok_iff.1 h
  rfl

end Payment

namespace Setter
variable {s : Setter} {x : Write}

/-- Outside lists and customers an accepted setter leaves the image of its arguments, whatever stood
under its key. -/
theorem after_of_accept (h : s.accept = .ok x) (hkey : x.key ∉ ["items", "document", "customer"])
    (v : Option Json) : x.after v = s.leaves := by
  cases s with
  | operator name inn =>
    obtain ⟨o, ho, rfl⟩ := Except.map_eq_ok_iff.1 h
    exact congrArg some (Operator.toJson_of_make ho)
  | cashSum y =>
    obtain ⟨_, rfl⟩ := Limits.cashSumWrite_eq_ok_iff.1 h
    rfl
  | tax named =>
    obtain ⟨t, ht, rfl⟩ := Except.map_eq_ok_iff.1 h
    show some (Token.toJson t) = some (Json.string named.text)
    rw [Named.text_of_resolve ht]
    rfl
  | payment named sum =>
    obtain ⟨type, htype, h⟩ := Except.bind_eq_ok_iff.1 h
    obtain ⟨p, hp, h⟩ := Except.bind_eq_ok_iff.1 h
    cases h
    show some p.toJson = some (image (.payment named sum))
    rw [Payment.toJson_of_make hp, image, image, Named.text_of_resolve htype]
    rfl
  | text slot b =>
    cases h
    show (if b.content.isEmpty then none else some b.toJson) = leaves (.text slot b)
    simp only [leaves, String.isEmpty_iff]
    rfl
  | addItem title price quantity =>
    obtain ⟨i, -, rfl⟩ := Except.map_eq_ok_iff.1 h
    exact absurd (by simp [Write.key]) hkey
  | addTaxedItem title price quantity named =>
    obtain ⟨rate, -, h⟩ := Except.bind_eq_ok_iff.1 h
    obtain ⟨i, -, h⟩ := Except.bind_eq_ok_iff.1 h
    cases h
    exact absurd (by simp [Write.key]) hkey
  | pushItem | pushItems | documentBlock | customer | customerRecord =>
    cases h
    exact absurd (by simp [Write.key]) hkey
  | operatorRecord | paymentRecord | sellerEmail | flag | connParams | padding =>
    cases h
    rfl

end Setter

/-! ### Calls -/

namespace Call
variable {w : World} {key : String} {state state' : Job × Trace}

theorem get?_run {c : Call} (hkey : key ∉ ["items", "document", "customer"])
    (h : c.run w state = .ok state') :
    state'.1.details.get? key =
      if c.key? = some key then c.leaves else state.1.details.get? key := by
  obtain ⟨e, he, rfl⟩ := run_eq_ok_iff.1 h
  cases c with
  | set s =>
    obtain ⟨x, hx, rfl⟩ := accept_set_eq_ok_iff.1 he
    show (x.run state.1.details).get? key = _
    rw [Write.get?_run, Setter.key_of_accept hx]
    simp only [key?, leaves, Option.some.injEq]
    by_cases hs : s.key = key
    · rw [if_pos hs, if_pos hs.symm, Setter.after_of_accept hx]
      rwa [Setter.key_of_accept hx, hs]
    · rw [if_neg hs, if_neg (Ne.symm hs)]
  | key k =>
    cases he
    rfl
  | clearTax =>
    cases he
    show (Write.run (.tax none) state.1.details).get? key = _
    rw [Write.get?_run]
    by_cases hs : key = "tax"
    · subst hs
      rfl
    · exact (if_neg hs).trans (if_neg fun h => hs (Option.some.inj h).symm).symm

/-- After accepted calls there stands under a key what the last call for it leaves. -/
theorem get?_runAll {calls : List Call} (hkey : key ∉ ["items", "document", "customer"])
    (h : runAll w calls state = .ok state') :
    state'.1.details.get? key =
      match last? calls key with
      | some c => c.leaves
      | none => state.1.details.get? key := by
  induction calls generalizing state with
  | nil =>
    cases h
    rfl
  | cons c calls ih =>
    obtain ⟨state₁, hc, h⟩ := runAll_cons_eq_ok_iff.1 h
    rw [ih h, get?_run hkey hc, last?, last?]
    by_cases hs : c.key? = some key
    · -- the call counts unless there is a later one
      rw [List.filter_cons_of_pos (by simpa using hs), List.getLast?_cons, if_pos hs]
      cases (calls.filter fun c => c.key? = some key).getLast? <;> rfl
    · rw [List.filter_cons_of_neg (by simpa using hs), if_neg hs]

theorem leaves_eq_none_iff {c : Call} (h : c.key?.isSome) : c.leaves = none ↔ c.Clears := by
  constructor
  · intro hc
    cases c with
    | set s =>
      cases s with
      | text slot b => exact .text (by simpa [leaves, Setter.leaves] using hc)
      | _ => cases hc
    | key k => cases h
    | clearTax => exact .tax
  · intro hc
    cases hc with
    | tax => rfl
    | text hb => exact if_pos hb

end Call

/-! ### Values that clear -/

namespace TextBlock

theorem content_make_eq_iff (content : String) (center magnified separated : Bool) :
    (make content center magnified separated).content = "" ↔ Text.isBlankText content :=
  String.isEmpty_iff.symm

theorem Denotes.content_eq_iff {v : Json} {b : TextBlock} (h : Denotes v b) (slot : TextSlot) :
    b.content = "" ↔ Slot.Clears (.text slot) v := by
  cases h with
  | string s =>
    rw [content_make_eq_iff]
    constructor
    · exact .blank slot
    · intro hc
      cases hc with
      | blank _ h => exact h
  | null => exact iff_of_true rfl (.null slot)
  | @object fs content _ _ _ hcontent =>
    rw [content_make_eq_iff]
    constructor
    · intro hblank
      refine .object slot fun s hs => ?_
      rw [hs] at hcontent
      cases hcontent with
      | given h => cases h; exact hblank
    · intro hc
      cases hc with
      | object _ h =>
        generalize fs.lookup "content" = found at hcontent h
        cases hcontent with
        | missing | null => rfl
        | given hs => cases hs; exact h _ rfl

end TextBlock

namespace Slot

theorem Denotes.clears_iff {s : Slot} {v : Json} {calls : List Call} (h : s.Denotes v calls) :
    (∃ c ∈ calls, c.Clears) ↔ s.Clears v := by
  cases h with
  | @text slot v b h =>
    rw [← h.content_eq_iff slot]
    constructor
    · rintro ⟨c, hc, hclears⟩
      rw [List.mem_singleton.1 hc] at hclears
      cases hclears with
      | text hb => exact hb
    · intro hb
      exact ⟨_, List.mem_singleton_self _, .text hb⟩
  | noTax => exact iff_of_true ⟨_, List.mem_singleton_self _, .tax⟩ .tax
  | tax h =>
    cases h
    refine iff_of_false ?_ nofun
    rintro ⟨c, hc, hclears⟩
    cases List.mem_singleton.1 hc
    cases hclears
  | items | document =>
    refine iff_of_false ?_ nofun
    rintro ⟨c, hc, hclears⟩
    obtain ⟨_, -, rfl⟩ := List.mem_map.1 hc
    cases hclears
  | _ =>
    refine iff_of_false ?_ nofun
    rintro ⟨c, hc, hclears⟩
    cases List.mem_singleton.1 hc
    cases hclears

end Slot

/-! ### Runs -/

namespace Job

/-- After a run there stands under each key, lists and customers apart, what the last accepted call
that writes under it leaves, and nothing else; if there was no such call, what stood there before. The
calls are the setters that were accepted and those that the applied bulk entries denote. Nothing is
left under the key just by a text without content and by a tax that is `null`; in a record these are
the values that clear their slot. -/
theorem run_lastWrite (w : World) (steps : List JobStep) (j : Job) (t : Trace) :
    let out := run w steps j t
    (∃ calls, (∀ calls', History j.kind steps out.2 calls' ↔ calls' = calls) ∧
      ∀ key, key ∉ ["items", "document", "customer"] →
        out.1.1.details.get? key =
          match Call.last? calls key with
          | some c => c.leaves
          | none => j.details.get? key) ∧
    (∀ bulk ignoreUnknown j t,
      Applies w bulk ignoreUnknown j t (j.kind.applied bulk ignoreUnknown)) ∧
    (∀ c : Call, c.key?.isSome → (c.leaves = none ↔ c.Clears)) ∧
    (∀ (s : Slot) v calls, s.Denotes v calls → ((∃ c ∈ calls, c.Clears) ↔ s.Clears v)) ∧
    ∀ content center magnified separated,
      (TextBlock.make content center magnified separated).content = "" ↔
        Text.isBlankText content := by
  intro out
  obtain ⟨calls, hcalls, t', hrun⟩ := exists_history_iff w steps j t
  exact ⟨⟨calls, hcalls, fun key hkey => Call.get?_runAll hkey hrun⟩, applies_applied,
    fun _ => Call.leaves_eq_none_iff, fun _ _ _ => Slot.Denotes.clears_iff,
    TextBlock.content_make_eq_iff⟩

-- the number of the first operator is gone, and the operator that is refused leaves no trace
example :
    let w : World := .unreachable .ofNat "down"
    let j := fresh ⟨"host", "secret", "7"⟩ (.device .sell) rfl
    let out := run w [.set (.operator "Ann" (some "7")),
      .merge (.ofList [("Operator", .object [("name", .string " Bob ")])]) false,
      .set (.operator " " none)] j .start
    out.1.1.details.get? "operator" = some (.object [("name", .string "Bob")]) := by
  rfl

end Job
end Till
