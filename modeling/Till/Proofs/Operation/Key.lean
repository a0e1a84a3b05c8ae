import Mathlib.Data.List.TakeWhile
import Till.Proofs.Checked
import Till.Proofs.Operation.Effect

/-!
# The key of a job

Keys are pinned by steps and by entries of bulk records that are applied (`JobStep.pins`), and by
nothing else: the key after a run is what its pins leave (`World.pinned`). A key that is made up is
never blank. Main statement: whatever steps have been taken, only performing steps that succeed send
a request, one each, and they send it under the key that the job has (`Job.run_keyDiscipline`).
-/

namespace Till

/-! ### Keys that are made up -/

namespace Text

theorem strip_eq_nil_iff {p : Char → Bool} {l : List Char} : strip p l = [] ↔ ∀ c ∈ l, p c := by
  constructor
  · intro h c hc
    rw [strip, List.reverse_eq_nil_iff, List.dropWhile_eq_nil_iff] at h
    rw [← List.takeWhile_append_dropWhile (p := p) (l := l)] at hc
    rcases List.mem_append.1 hc with hc | hc
    · exact List.mem_takeWhile_imp hc
    · exact h c (List.mem_reverse.2 hc)
  · intro h
    rw [strip, List.dropWhile_eq_nil_iff.2 h]
    rfl

theorem isBlankText_iff {s : String} : isBlankText s = true ↔ ∀ c ∈ s.toList, isBlank c := by
  rw [← strip_eq_nil_iff, isBlankText, trim, stripped, String.isEmpty_iff, String.ofList_eq_empty_iff]

end Text

namespace KeySeed

theorem isBlank_hexDigit (n : Nat) : Text.isBlank (hexDigit n) = false := by
  have hall : ("0123456789abcdef".toList.all fun c => !Text.isBlank c) = true := by decide
  unfold hexDigit
  rw [List.getD_eq_getElem?_getD]
  cases h : "0123456789abcdef".toList[n]? with
  | none => rfl
  | some c =>
    have hc := List.all_eq_true.1 hall c (List.mem_of_getElem? h)
    rwa [Bool.not_eq_true'] at hc

theorem length_key (s : KeySeed) : s.key.length = 64 := by
  have h : (s.bytes.map fun _ => 2).sum = 64 := by
    rw [List.map_const', List.sum_replicate_nat, s.length_eq]
  rw [key, String.length_ofList, List.length_flatMap]
  exact h

theorem isBlankText_key (s : KeySeed) : Text.isBlankText s.key = false := by
  rw [Bool.eq_false_iff]
  intro hb
  rw [Text.isBlankText_iff, key, String.toList_ofList] at hb
  obtain ⟨b, bs, hbs⟩ := List.exists_cons_of_length_pos (l := s.bytes) (by rw [s.length_eq]; decide)
  have := hb (hexDigit (b.toNat / 16)) (by simp [hbs])
  rw [isBlank_hexDigit] at this
  cases this

end KeySeed

/-! ### Pins -/

/-- The key that an entry of a bulk record pins, if it pins one; `none` asks for a new key. -/
def Kind.pin? (k : Kind) (e : String × Json) : Option (Option String) :=
  match k.bulkKey e.1, e.2 with
  | .idempotencyKey, .null => some none
  | .idempotencyKey, .string s => some (some s)
  | _, _ => none

/-- The entries of a bulk record that are applied: those in front of the first that fails. -/
def Kind.applied (k : Kind) (bulk : Fields) (ignoreUnknown : Bool) : List (String × Json) :=
  match if ignoreUnknown then none else Job.unknownKey? k bulk with
  | some _ => []
  | none => bulk.entries.takeWhile fun e => (k.accept e.1 e.2).isOk

/-- The keys that a step pins, one after another. -/
def JobStep.pins (k : Kind) : JobStep → List (Option String)
  | .key pin => [pin]
  | merge bulk ignoreUnknown => (k.applied bulk ignoreUnknown).filterMap k.pin?
  | performWith bulk => (k.applied bulk false).filterMap k.pin?
  | _ => []

/-- The key that pins leave, and how many keys have been made up by then. -/
def World.pinned (w : World) : List (Option String) → Option String → Nat → Option String × Nat
  | [], key, n => (key, n)
  | some key :: pins, _, n => w.pinned pins (some key) n
  | none :: pins, _, n => w.pinned pins (some (w.seed n).key) (n + 1)

namespace World
variable {w : World}

theorem pinned_append (ps ps' : List (Option String)) (key : Option String) (n : Nat) :
    w.pinned (ps ++ ps') key n = w.pinned ps' (w.pinned ps key n).1 (w.pinned ps key n).2 := by
  induction ps generalizing key n with
  | nil => rfl
  | cons p ps ih =>
    cases p with
    | some key => exact ih ..
    | none => exact ih ..

/-- A key is made up for each pin that asks for a new one, and for no other. -/
theorem drawn_pinned (ps : List (Option String)) (key : Option String) (n : Nat) :
    (w.pinned ps key n).2 = n + ps.count none := by
  induction ps generalizing key n with
  | nil => rfl
  | cons p ps ih =>
    cases p with
    | some key => rw [List.count_cons_of_ne (by simp), pinned, ih]
    | none =>
      rw [List.count_cons_self, pinned, ih]
      omega

/-- After a pin that asks for a new key the key is one that was made up. -/
theorem pinned_of_getLast? {ps : List (Option String)} (h : ps.getLast? = some none)
    (key : Option String) (n : Nat) : ∃ m, (w.pinned ps key n).1 = some (w.seed m).key := by
  obtain ⟨ps, rfl⟩ := List.getLast?_eq_some_iff.1 h
  rw [pinned_append]
  exact ⟨_, rfl⟩

end World

/-! ### Pins of effects -/

namespace Effect
variable {w : World}

def pin? : Effect → Option (Option String)
  | pin key => some key
  | _ => none

theorem runAll_key (es : List Effect) (s : Job × Trace) :
    ((runAll w es s).1.key, (runAll w es s).2.drawn) =
      w.pinned (es.filterMap pin?) s.1.key s.2.drawn := by
  induction es generalizing s with
  | nil => rfl
  | cons e es ih =>
    rw [runAll_cons, ih]
    cases e with
    | skip => rfl
    | write x => rfl
    | pin key => cases key <;> rfl

end Effect

namespace Kind
variable {k : Kind}

theorem pin?_of_accept {key : String} {v : Json} {e : Effect} (h : k.accept key v = .ok e) :
    e.pin? = k.pin? (key, v) := by
  unfold pin?
  cases accepts_of_accept h with
  | skipped hb | ignored hb | newKey hb | key hb | padding hb | slot hb => rw [hb]; rfl

theorem pins_acceptAll (l : List (String × Json)) :
    (k.acceptAll l).1.filterMap Effect.pin? =
      (l.takeWhile fun e => (k.accept e.1 e.2).isOk).filterMap k.pin? := by
  induction l with
  | nil => rfl
  | cons e l ih =>
    obtain ⟨key, v⟩ := e
    rw [acceptAll, List.takeWhile_cons]
    cases h : k.accept key v with
    | error err => rfl
    | ok e =>
      show (e :: (k.acceptAll l).1).filterMap Effect.pin? = List.filterMap k.pin? ((key, v) :: _)
      rw [List.filterMap_cons, List.filterMap_cons, ih, pin?_of_accept h]

end Kind

theorem Job.pins_bulkEffects {k : Kind} {bulk : Fields} {ignoreUnknown : Bool} :
    (bulkEffects k bulk ignoreUnknown).1.filterMap Effect.pin? =
      (k.applied bulk ignoreUnknown).filterMap k.pin? := by
  unfold bulkEffects Kind.applied
  cases if ignoreUnknown = true then none else unknownKey? k bulk with
  | some key => rfl
  | none => exact Kind.pins_acceptAll bulk.entries

theorem JobStep.pins_effects {k : Kind} (s : JobStep) :
    (s.effects k).1.filterMap Effect.pin? = s.pins k := by
  cases s with
  | set s =>
    simp only [effects]
    cases s.accept <;> rfl
  | key key => rfl
  | perform => rfl
  | merge bulk ignoreUnknown => exact Job.pins_bulkEffects
  | performWith bulk => exact Job.pins_bulkEffects

/-! ### Sending -/

/-- The key that a request carries. -/
def Request.key? (r : Request) : Option String :=
  r.header? "X-Idempotency-Key"

namespace Job
variable {w : World}

theorem key?_request (j : Job) (key : String) : (j.request key).key? = some key := by
  have h : Text.eqIgnoreAsciiCase "X-Secret" "X-Idempotency-Key" = false := by decide
  have h' : Text.eqIgnoreAsciiCase "X-Idempotency-Key" "X-Idempotency-Key" = true := by decide
  simp [Request.key?, Request.header?, request, Connection.postRequest, h, h']

theorem usableKey_eq_some_iff {j : Job} {key : String} :
    j.usableKey = some key ↔ j.key = some key ∧ Text.isBlankText key = false := by
  simp [usableKey, Option.filter_eq_some_iff]

theorem usableKey_eq_none_iff {j : Job} :
    j.usableKey = none ↔ ∀ key ∈ j.key, Text.isBlankText key = true := by
  simp [usableKey, Option.filter_eq_none_iff]

theorem step_perform_of_usable {j : Job} {key : String} (h : j.usableKey = some key) (t : Trace) :
    j.step w .perform t =
      ((j, { t with sent := t.sent ++ [j.request key] }),
        .ok (some (.ofOutcome (w.respond t.sent (j.request key))))) := by
  simp only [step, perform_eq, h]
  rfl

theorem step_perform_of_unusable {j : Job} (h : j.usableKey = none) (t : Trace) :
    j.step w .perform t = ((j, t), .error (.missingKey j.method)) := by
  simp only [step, perform_eq, h]
  rfl

theorem run_replicate_perform {j : Job} {key : String} (h : j.usableKey = some key) (n : Nat)
    (t : Trace) :
    (run w (List.replicate n .perform) j t).1 =
      (j, { t with sent := t.sent ++ List.replicate n (j.request key) }) := by
  induction n generalizing t with
  | zero => simp
  | succ n ih =>
    rw [List.replicate_succ, run_cons, step_perform_of_usable h, ih, List.replicate_succ,
      List.append_assoc]
    rfl

/-- What the next steps of a job may send. -/
structure SendsUnderKey (w : World) (j : Job) (t : Trace) : Prop where
  /-- A performing step sends one request, under the key that the job then has, or it fails. -/
  step : ∀ s,
    (s.sends = true ∧ ∃ e key r, (j.step w s t).2 = .ok (some e) ∧
      (j.step w s t).1.1.key = some key ∧ Text.isBlankText key = false ∧
      r = (j.step w s t).1.1.request key ∧ r.key? = some key ∧
      (j.step w s t).1.2.sent = t.sent ++ [r]) ∨
    ((∀ e, (j.step w s t).2 = .ok e → s.sends = false ∧ e = none) ∧
      (j.step w s t).1.2.sent = t.sent)
  /-- Without a key that is not blank the job is not sent. -/
  missing : (∀ key ∈ j.key, Text.isBlankText key = true) →
    j.step w .perform t = ((j, t), .error (.missingKey j.method))
  /-- Sending leaves the job as it is, whatever the answer. -/
  unchanged : (j.step w .perform t).1.1 = j
  /-- So the job is sent again in the same request. -/
  repeated : ∀ key ∈ j.key, Text.isBlankText key = false → ∀ n,
    (run w (List.replicate n .perform) j t).1 =
      (j, { t with sent := t.sent ++ List.replicate n (j.request key) })
  /-- A job is not sent with a bulk record that fails. -/
  refused : ∀ bulk e, (j.merge w bulk false t).2 = .error e →
    j.step w (.performWith bulk) t = ((j.merge w bulk false t).1, .error e) ∧
      (j.merge w bulk false t).1.2.sent = t.sent

theorem sendsUnderKey (j : Job) (t : Trace) : SendsUnderKey w j t where
  step s := by
    rcases step_sent (w := w) s j t with ⟨hs, e, key, he, hk, hsent⟩ | h
    · obtain ⟨hkey, hblank⟩ := usableKey_eq_some_iff.1 hk
      exact .inl ⟨hs, e, key, _, he, hkey, hblank, rfl, key?_request _ key, hsent⟩
    · exact .inr h
  missing h := step_perform_of_unusable (usableKey_eq_none_iff.2 h) t
  unchanged := rfl
  repeated key hkey hblank n := run_replicate_perform (usableKey_eq_some_iff.2 ⟨hkey, hblank⟩) n t
  refused bulk e h := by
    refine ⟨?_, by rw [merge_eq, Effect.runAll_sent]⟩
    rcases hm : j.merge w bulk false t with ⟨state, verdict⟩
    rw [hm] at h
    cases h
    simp only [Job.step, hm]

/-! ### Runs -/

theorem conclude_drawn (s : JobStep) (verdict : Result Unit) (state : Job × Trace) :
    (conclude w s verdict state).1.2.drawn = state.2.drawn := by
  unfold conclude
  cases verdict with
  | error e => rfl
  | ok =>
    simp only [perform_eq]
    split
    · cases state.1.usableKey <;> rfl
    · rfl

theorem step_key (s : JobStep) (j : Job) (t : Trace) :
    ((j.step w s t).1.1.key, (j.step w s t).1.2.drawn) = w.pinned (s.pins j.kind) j.key t.drawn := by
  rw [step_eq, conclude_job, conclude_drawn, Effect.runAll_key, JobStep.pins_effects]

/-- The key changes by pins only. -/
theorem run_key (steps : List JobStep) (j : Job) (t : Trace) :
    ((run w steps j t).1.1.key, (run w steps j t).1.2.drawn) =
      w.pinned (steps.flatMap (·.pins j.kind)) j.key t.drawn := by
  induction steps generalizing j t with
  | nil => rfl
  | cons s steps ih =>
    rw [run_cons, ih, step_kind, List.flatMap_cons, World.pinned_append, ← step_key]

/-- The requests for a run: one for each envelope, and each under a key that is not blank. -/
theorem run_sent (steps : List JobStep) (j : Job) (t : Trace) :
    ∃ rs : List Request, (run w steps j t).1.2.sent = t.sent ++ rs ∧
      rs.length = (run w steps j t).2.countP (fun a => a.toOption.join.isSome) ∧
      ∀ r ∈ rs, ∃ key, r.key? = some key ∧ Text.isBlankText key = false := by
  induction steps generalizing j t with
  | nil => exact ⟨[], by simp⟩
  | cons s steps ih =>
    obtain ⟨rs, hsent, hlen, hall⟩ := ih (j.step w s t).1.1 (j.step w s t).1.2
    simp only [run_cons, List.countP_cons]
    rcases (sendsUnderKey (w := w) j t).step s with
      ⟨-, e, key, r, he, -, hblank, -, hkey, hone⟩ | ⟨hno, hnone⟩
    · refine ⟨r :: rs, by rw [hsent, hone]; simp, by rw [List.length_cons, hlen, he]; rfl, ?_⟩
      intro r' hr'
      rcases List.mem_cons.1 hr' with rfl | hr'
      · exact ⟨key, hkey, hblank⟩
      · exact hall r' hr'
    · refine ⟨rs, by rw [hsent, hnone], ?_, hall⟩
      rw [hlen]
      cases ha : (j.step w s t).2 with
      | error err => rfl
      | ok e => rw [(hno e ha).2]; rfl

/-- After any steps: what was sent was sent under keys, one request for each envelope; the key is
what the pins left, and if the last of them asked for a new key, the job can be sent; and the next
steps send under that key. -/
theorem run_keyDiscipline (steps : List JobStep) (j : Job) (t : Trace) :
    let out := run w steps j t
    let pins := steps.flatMap (·.pins j.kind)
    SendsUnderKey w out.1.1 out.1.2 ∧
      (∃ rs : List Request, out.1.2.sent = t.sent ++ rs ∧
        rs.length = out.2.countP (fun a => a.toOption.join.isSome) ∧
        ∀ r ∈ rs, ∃ key, r.key? = some key ∧ Text.isBlankText key = false) ∧
      (out.1.1.key, out.1.2.drawn) = w.pinned pins j.key t.drawn ∧
      (pins.getLast? = some none → ∃ n e, out.1.1.key = some (w.seed n).key ∧
        (w.seed n).key.length = 64 ∧ (out.1.1.step w .perform out.1.2).2 = .ok (some e)) := by
  refine ⟨sendsUnderKey _ _, run_sent steps j t, run_key steps j t, fun hlast => ?_⟩
  obtain ⟨n, hn⟩ := World.pinned_of_getLast? (w := w) hlast j.key t.drawn
  have hkey : (run w steps j t).1.1.key = some (w.seed n).key := by
    rw [← hn, ← run_key]
  have husable := usableKey_eq_some_iff.2 ⟨hkey, (w.seed n).isBlankText_key⟩
  exact ⟨n, _, hkey, (w.seed n).length_key, by rw [step_perform_of_usable husable]⟩

end Job
end Till
