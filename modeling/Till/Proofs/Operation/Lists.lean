import Till.Proofs.Bulk.Applied
import Till.Proofs.Bulk.Replay
import Till.Proofs.Operation.Verdict

/-!
# Lists that only grow

Items and document blocks stand in lists, to which lines are added at the end and from which none is
taken. `ListSlot.Log` tells from the calls of a run, and from what they answered, the lines that they
add: those of each accepted call, those of each bulk entry that is applied, and none for what is
refused. Main statement: after a run a list is what it was before, followed by the lines of the
calls in their order (`Job.run_appendOnly`).
-/

namespace Till

/-- The slots that hold a list. -/
inductive ListSlot
  | items
  | document
deriving DecidableEq, Repr

namespace ListSlot

def slot : ListSlot → Slot
  | items => .items
  | document => .document

/-- The key of the list in the details. -/
def key (l : ListSlot) : String :=
  l.slot.key

/-! ### The lines of calls and entries -/

/-- The lines that a setter adds to the list if its arguments are accepted. -/
inductive Adds : ListSlot → Setter → List Json → Prop
  | addItem {title : String} {price quantity : Float} {i : Item}
      (hi : Item.make title price quantity = .ok i) :
      Adds .items (.addItem title price quantity) [i.toJson]
  | addTaxedItem {title : String} {price quantity : Float} {named : Named Tax} {rate : Tax}
      {i : Item} (hrate : named.resolve = .ok rate) (hi : Item.make title price quantity = .ok i) :
      Adds .items (.addTaxedItem title price quantity named) [(i.withTax (some rate)).toJson]
  | pushItem (i : Item) : Adds .items (.pushItem i) [i.toJson]
  | pushItems (is : List Item) : Adds .items (.pushItems is) (is.map Item.toJson)
  | documentBlock (b : DocumentBlock) : Adds .document (.documentBlock b) [b.toJson]

/-- The lines that a value stands for: each member of the array denotes one. -/
inductive Lists : ListSlot → Json → List Json → Prop
  | items {vs : List Json} {is : List Item} (h : List.Forall₂ Item.Denotes vs is) :
      Lists .items (.array vs) (is.map Item.toJson)
  | document {vs : List Json} {bs : List DocumentBlock}
      (h : List.Forall₂ DocumentBlock.Denotes vs bs) :
      Lists .document (.array vs) (bs.map DocumentBlock.toJson)

/-- The lines that an entry of a bulk record brings to the list: those of its value if it has the name
of the list, in any case of the letters, and the kind has the list. -/
inductive Takes (k : Kind) (l : ListSlot) : String × Json → List Json → Prop
  | named {key : String} {v : Json} {lines : List Json} (hslot : l.slot ∈ k.slots)
      (hkey : Text.lower key = l.slot.foldedKey) (h : l.Lists v lines) : Takes k l (key, v) lines
  | other {key : String} {v : Json} (h : l.slot ∈ k.slots → Text.lower key ≠ l.slot.foldedKey) :
      Takes k l (key, v) []

/-- The lines that a step adds to the list, by what it answers. -/
inductive Logs (k : Kind) (l : ListSlot) : JobStep → Result (Option Envelope) → List Json → Prop
  | accepted {s : Setter} {e : Option Envelope} {lines : List Json} (h : l.Adds s lines) :
      Logs k l (.set s) (.ok e) lines
  | elsewhere {s : Setter} {e : Option Envelope} (h : s.slot ≠ some l.slot) :
      Logs k l (.set s) (.ok e) []
  | refused {s : Setter} {e : ClientError} : Logs k l (.set s) (.error e) []
  | merge {bulk : Fields} {ignoreUnknown : Bool} {answer : Result (Option Envelope)}
      {lines : List (List Json)}
      (h : List.Forall₂ (l.Takes k) (k.applied bulk ignoreUnknown) lines) :
      Logs k l (.merge bulk ignoreUnknown) answer lines.flatten
  | performWith {bulk : Fields} {answer : Result (Option Envelope)} {lines : List (List Json)}
      (h : List.Forall₂ (l.Takes k) (k.applied bulk false) lines) :
      Logs k l (.performWith bulk) answer lines.flatten
  | key {pin : Option String} {answer : Result (Option Envelope)} : Logs k l (.key pin) answer []
  | perform {answer : Result (Option Envelope)} : Logs k l .perform answer []

/-- The lines of steps one after another. -/
inductive Log (k : Kind) (l : ListSlot) :
    List JobStep → List (Result (Option Envelope)) → List Json → Prop
  | nil : Log k l [] [] []
  | cons {s : JobStep} {steps : List JobStep} {answer : Result (Option Envelope)}
      {answers : List (Result (Option Envelope))} {lines rest : List Json}
      (h : l.Logs k s answer lines) (hrest : Log k l steps answers rest) :
      Log k l (s :: steps) (answer :: answers) (lines ++ rest)

theorem key_mem (l : ListSlot) : l.key ∈ ["items", "document"] := by
  cases l <;> decide

theorem bulkName_key (l : ListSlot) : Details.bulkName l.key = l.slot.foldedKey :=
  l.slot.bulkName_key

/-! ### The lines of writes -/

variable {k : Kind} {l : ListSlot} {lines : List Json} {x : Write}

theorem adds_iff {s : Setter} (hs : s.slot = some l.slot) (h : s.accept = .ok x) :
    l.Adds s lines ↔ lines = x.values := by
  cases l with
  | items =>
    cases s with
    | addItem title price quantity =>
      obtain ⟨i, hi, rfl⟩ := Except.map_eq_ok_iff.1 h
      constructor
      · rintro ⟨hi'⟩
        cases hi.symm.trans hi'
        rfl
      · rintro rfl
        exact .addItem hi
    | addTaxedItem title price quantity named =>
      obtain ⟨rate, hrate, h⟩ := Except.bind_eq_ok_iff.1 h
      obtain ⟨i, hi, h⟩ := Except.bind_eq_ok_iff.1 h
      cases h
      constructor
      · rintro (_ | ⟨hrate', hi'⟩)
        cases hrate.symm.trans hrate'
        cases hi.symm.trans hi'
        rfl
      · rintro rfl
        exact .addTaxedItem hrate hi
    | pushItem i =>
      cases h
      constructor
      · rintro ⟨⟩; rfl
      · rintro rfl; exact .pushItem i
    | pushItems is =>
      cases h
      constructor
      · rintro ⟨⟩; rfl
      · rintro rfl; exact .pushItems is
    | _ => cases hs
  | document =>
    cases s with
    | documentBlock b =>
      cases h
      constructor
      · rintro ⟨⟩; rfl
      · rintro rfl; exact .documentBlock b
    | _ => cases hs

theorem lists_iff {v : Json} (h : l.slot.accept v = .ok x) : l.Lists v lines ↔ lines = x.values := by
  cases l with
  | items =>
    obtain ⟨vs, hv, hread⟩ := Except.bind_eq_ok_iff.1 h
    obtain ⟨is, his, hx⟩ := Except.bind_eq_ok_iff.1 hread
    cases Json.arrayFor_eq_ok_iff.1 hv
    cases hx
    constructor
    · rintro ⟨h⟩
      cases his.symm.trans (Item.mapM_ofJson_eq_ok_iff.2 h)
      rfl
    · rintro rfl
      exact .items (Item.mapM_ofJson_eq_ok_iff.1 his)
  | document =>
    obtain ⟨vs, hv, hread⟩ := Except.bind_eq_ok_iff.1 h
    obtain ⟨bs, hbs, hx⟩ := Except.bind_eq_ok_iff.1 hread
    cases Json.arrayFor_eq_ok_iff.1 hv
    cases hx
    constructor
    · rintro (_ | ⟨h⟩)
      cases hbs.symm.trans (DocumentBlock.mapM_ofJson_eq_ok_iff.2 h)
      rfl
    · rintro rfl
      exact .document (DocumentBlock.mapM_ofJson_eq_ok_iff.1 hbs)

end ListSlot

/-! ### The lines of effects -/

namespace Effect
variable {key : String}

/-- The lines that the effect adds to the list under the key. -/
def lines (key : String) (e : Effect) : List Json :=
  (e.writeTo? key).toList.flatMap Write.values

theorem lines_write_self {x : Write} (h : x.key = key) : (write x).lines key = x.values := by
  simp [lines, writeTo?, h]

theorem lines_eq_nil {e : Effect} (h : ∀ x, e = .write x → x.key ≠ key) : e.lines key = [] := by
  cases e with
  | skip | pin => rfl
  | write x => simp [lines, writeTo?, h x rfl]

theorem flatMap_values_writesTo (es : List Effect) :
    (writesTo key es).flatMap Write.values = es.flatMap (lines key) := by
  rw [writesTo, List.filterMap_eq_flatMap_toList, List.flatMap_assoc]
  rfl

end Effect

namespace Kind
variable {k : Kind} {l : ListSlot}

/-- What an accepted entry brings to the list is what its effect adds. -/
theorem takes_iff_of_accept {key : String} {v : Json} {e : Effect} (h : k.accept key v = .ok e)
    {lines : List Json} : l.Takes k (key, v) lines ↔ lines = e.lines l.key := by
  by_cases hb : k.bulkKey key = .slot l.slot
  · obtain ⟨hslot, hkey⟩ := bulkKey_eq_slot_iff.1 hb
    rw [accept_slot hslot hkey] at h
    obtain ⟨x, hx, rfl⟩ := Except.map_eq_ok_iff.1 (Checked.lift_eq_ok_iff.1 h)
    have hwrite : x.key = l.key := Slot.key_of_accept hx
    rw [Effect.lines_write_self hwrite, ← ListSlot.lists_iff hx]
    constructor
    · rintro (⟨-, -, hl⟩ | ⟨hn⟩)
      · exact hl
      · exact absurd hkey (hn hslot)
    · exact .named hslot hkey
  · have hother : l.slot ∈ k.slots → Text.lower key ≠ l.slot.foldedKey := fun hslot hkey =>
      hb (bulkKey_eq_slot_iff.2 ⟨hslot, hkey⟩)
    -- a write to the list would stem from an entry with its name, and from a slot of the kind
    have hnone : e.lines l.key = [] := by
      refine Effect.lines_eq_nil fun x hx hkey => ?_
      subst hx
      have hslot : l.slot ∈ k.slots := within_of_accept h l.slot (Write.slot_of_key hkey)
      refine hother hslot ?_
      rw [lower_of_write h, hkey, l.bulkName_key]
    rw [hnone]
    constructor
    · rintro (⟨hslot, hkey, -⟩ | ⟨-⟩)
      · exact absurd hkey (hother hslot)
      · rfl
    · rintro rfl
      exact .other hother

end Kind

/-- The lines that applied entries bring are those that their effects add. -/
theorem ListSlot.takes_applied_iff {k : Kind} {l : ListSlot} {entries : List (String × Json)}
    {es : List Effect}
    (h : List.Forall₂ (fun entry e => k.accept entry.1 entry.2 = .ok e) entries es)
    {lines : List (List Json)} :
    List.Forall₂ (l.Takes k) entries lines ↔ lines = es.map (Effect.lines l.key) := by
  induction h generalizing lines with
  | nil => rw [List.forall₂_nil_left_iff, List.map_nil]
  | cons ha _ ih =>
    rw [List.forall₂_cons_left_iff, List.map_cons]
    constructor
    · rintro ⟨b, bs, hb, hbs, rfl⟩
      rw [(Kind.takes_iff_of_accept ha).1 hb, ih.1 hbs]
    · rintro rfl
      exact ⟨_, _, (Kind.takes_iff_of_accept ha).2 rfl, ih.2 rfl, rfl⟩

/-! ### The lines of steps -/

namespace Job
variable {w : World} {l : ListSlot} {lines : List Json}

theorem logs_iff (s : JobStep) (j : Job) (t : Trace) :
    l.Logs j.kind s (j.step w s t).2 lines ↔
      lines = (s.effects j.kind).1.flatMap (Effect.lines l.key) := by
  cases s with
  | set s =>
    rw [answer_of_not_sends rfl, JobStep.effects]
    cases ha : s.accept with
    | error e =>
      constructor
      · rintro ⟨⟩; rfl
      · rintro rfl; exact .refused
    | ok x =>
      by_cases hs : s.slot = some l.slot
      · have hkey : x.key = l.key := Write.key_of_slot ((Setter.slot_of_accept ha).trans hs)
        rw [List.flatMap_singleton, Effect.lines_write_self hkey, ← ListSlot.adds_iff hs ha]
        constructor
        · rintro (h | h)
          · exact h
          · exact absurd hs h
        · exact .accepted
      · have hkey : x.key ≠ l.key := fun hkey =>
          hs ((Setter.slot_of_accept ha).symm.trans (Write.slot_of_key hkey))
        rw [List.flatMap_singleton, Effect.lines_eq_nil (by rintro _ ⟨⟩; exact hkey)]
        constructor
        · rintro (h | h)
          · cases l <;> cases h <;> exact absurd rfl hs
          · rfl
        · rintro rfl
          exact .elsewhere hs
  | key pin =>
    constructor
    · rintro ⟨⟩; rfl
    · rintro rfl; exact .key
  | perform =>
    constructor
    · rintro ⟨⟩; rfl
    · rintro rfl; exact .perform
  | merge bulk ignoreUnknown =>
    have htakes := @ListSlot.takes_applied_iff _ l _ _ (forall₂_bulkEffects j.kind bulk ignoreUnknown)
    rw [JobStep.effects, List.flatMap_def]
    constructor
    · intro h
      cases h with
      | merge h => rw [htakes.1 h]
    · rintro rfl
      exact .merge (htakes.2 rfl)
  | performWith bulk =>
    have htakes := @ListSlot.takes_applied_iff _ l _ _ (forall₂_bulkEffects j.kind bulk false)
    rw [JobStep.effects, List.flatMap_def]
    constructor
    · intro h
      cases h with
      | performWith h => rw [htakes.1 h]
    · rintro rfl
      exact .performWith (htakes.2 rfl)

theorem get?_step_list (l : ListSlot) (s : JobStep) (j : Job) (t : Trace) :
    (j.step w s t).1.1.details.get? l.key =
      Write.appended ((s.effects j.kind).1.flatMap (Effect.lines l.key))
        (j.details.get? l.key) := by
  rw [step_job, Effect.get?_runAll_list l.key_mem, Effect.flatMap_values_writesTo]

/-! ### Runs -/

theorem log_iff (steps : List JobStep) (j : Job) (t : Trace) :
    l.Log j.kind steps (run w steps j t).2 lines ↔
      lines = steps.flatMap fun s => (s.effects j.kind).1.flatMap (Effect.lines l.key) := by
  induction steps generalizing j t lines with
  | nil =>
    constructor
    · rintro ⟨⟩; rfl
    · rintro rfl; exact .nil
  | cons s steps ih =>
    have hrest (rest : List Json) := @ih rest (j.step w s t).1.1 (j.step w s t).1.2
    simp only [step_kind] at hrest
    rw [run_cons, List.flatMap_cons]
    constructor
    · intro h
      cases h with
      | cons h h' => rw [(logs_iff s j t).1 h, (hrest _).1 h']
    · rintro rfl
      exact .cons ((logs_iff s j t).2 rfl) ((hrest _).2 rfl)

theorem get?_run_list (l : ListSlot) (steps : List JobStep) (j : Job) (t : Trace) :
    (run w steps j t).1.1.details.get? l.key =
      Write.appended (steps.flatMap fun s => (s.effects j.kind).1.flatMap (Effect.lines l.key))
        (j.details.get? l.key) := by
  induction steps generalizing j t with
  | nil => rfl
  | cons s steps ih =>
    rw [run_cons, ih, step_kind, get?_step_list, Write.appended_appended, List.flatMap_cons]

/-- After a run a list is what it was before, followed by the lines of the calls in their order, and by
no others; of a new job it is just these lines, and it is not there if there are none. The entries
of a bulk record whose lines count are all of them, or those in front of the one at which the merge
stops, or none if the record is refused for a key. A line that is added to details stands behind
those that were there, whatever stood under the key of the list. -/
theorem run_appendOnly (w : World) (l : ListSlot) (steps : List JobStep) (j : Job) (t : Trace) :
    let out := run w steps j t
    (∃ log, (∀ lines, l.Log j.kind steps out.2 lines ↔ lines = log) ∧
      out.1.1.details.listAt l.key = j.details.listAt l.key ++ log ∧
      (j.details = .empty →
        out.1.1.details.get? l.key = if log = [] then none else some (.array log))) ∧
    (∀ bulk ignoreUnknown j t,
      Applies w bulk ignoreUnknown j t (j.kind.applied bulk ignoreUnknown)) ∧
    ∀ d : Details, (∀ i, (d.pushItem i).items = d.items ++ [i.toJson]) ∧
      ∀ b, (d.pushDocumentBlock b).listAt "document" = d.listAt "document" ++ [b.toJson] := by
  intro out
  have hget := get?_run_list (w := w) l steps j t
  refine ⟨⟨_, fun lines => log_iff steps j t, ?_, fun hempty => ?_⟩, applies_applied, fun d => ?_⟩
  · rw [Details.listAt_eq, hget, Details.valuesOf_appended, Details.listAt_eq]
  · rw [hget, hempty]
    rfl
  · exact ⟨fun i => d.listAt_append "items" i.toJson, fun b => d.listAt_append "document" b.toJson⟩

end Job
end Till
