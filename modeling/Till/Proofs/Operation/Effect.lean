import Till.Operation.Job
import Till.Proofs.Checked
import Till.Proofs.Details.Write
import Till.Proofs.Operation.Steps

/-!
# Effects of steps

Whether an entry of a bulk record is accepted, and what it then does, depends on the kind and the
entry alone (`Job.applyEntry_eq`), and one that is not accepted does nothing
(`Job.applyEntry_of_refused`). So a merge is the run of the effects that stand in front of the
first entry that is not accepted (`Job.merge_eq`), and every step of a job is a list of effects, a
verdict and, for the performing ones, one request (`Job.step_eq`). Effects touch key and details;
connection, kind and what was sent stay (`Effect.runAll_sent`).
-/

namespace Till

/-- What an accepted entry or setter does to a job. -/
inductive Effect
  | skip
  | pin (key : Option String)
  | write (x : Write)

namespace Effect
variable {w : World}

def run (w : World) : Effect → Job × Trace → Job × Trace
  | skip, s => s
  | pin key, s => s.1.pinKey key w s.2
  | write x, s => ({ s.1 with details := x.run s.1.details }, s.2)

def runAll (w : World) (es : List Effect) (s : Job × Trace) : Job × Trace :=
  es.foldl (fun s e => e.run w s) s

/-- Runs an effect that is accepted; else there is the error, and the state as it was. -/
def attempt (w : World) (e : Result Effect) (s : Job × Trace) : (Job × Trace) × Result Unit :=
  match e with
  | .ok e => (e.run w s, .ok ())
  | .error e => (s, .error e)

@[simp] theorem attempt_ok (e : Effect) (s : Job × Trace) :
    attempt w (.ok e) s = (e.run w s, .ok ()) := rfl

@[simp] theorem runAll_nil (s : Job × Trace) : runAll w [] s = s := rfl

@[simp] theorem runAll_cons (e : Effect) (es : List Effect) (s : Job × Trace) :
    runAll w (e :: es) s = runAll w es (e.run w s) := rfl

/-! ### What effects leave alone -/

@[simp] theorem run_kind (e : Effect) (s : Job × Trace) : (e.run w s).1.kind = s.1.kind := by
  cases e <;> rfl

@[simp] theorem run_connection (e : Effect) (s : Job × Trace) :
    (e.run w s).1.connection = s.1.connection := by
  cases e <;> rfl

@[simp] theorem run_sent (e : Effect) (s : Job × Trace) : (e.run w s).2.sent = s.2.sent := by
  cases e with
  | skip => rfl
  | write x => rfl
  | pin key => cases key <;> rfl

@[simp] theorem runAll_kind (es : List Effect) (s : Job × Trace) :
    (runAll w es s).1.kind = s.1.kind := by
  induction es generalizing s with
  | nil => rfl
  | cons e es ih => rw [runAll_cons, ih, run_kind]

@[simp] theorem runAll_connection (es : List Effect) (s : Job × Trace) :
    (runAll w es s).1.connection = s.1.connection := by
  induction es generalizing s with
  | nil => rfl
  | cons e es ih => rw [runAll_cons, ih, run_connection]

@[simp] theorem runAll_sent (es : List Effect) (s : Job × Trace) :
    (runAll w es s).2.sent = s.2.sent := by
  induction es generalizing s with
  | nil => rfl
  | cons e es ih => rw [runAll_cons, ih, run_sent]

end Effect

/-! ### Bulk records -/

namespace Kind

/-- The effect of an entry of a bulk record, if its value is accepted. -/
def accept (k : Kind) (key : String) (v : Json) : Result Effect :=
  match k.bulkKey key with
  | .skipped => .ok .skip
  | .idempotencyKey =>
    match v with
    | .null => .ok (.pin none)
    | .string s => .ok (.pin (some s))
    | _ => .error (.field (.unexpected key .stringOrNull))
  | .padding => Checked.lift ((v.stringFor key).map fun s => .write (.padding s))
  | .slot s => Checked.lift ((s.accept v).map .write)
  | .unknown => .ok .skip

/-- What an accepted entry says and does, by what its key asks for. -/
inductive Accepts (k : Kind) (key : String) : Json → Effect → Prop
  | skipped {v : Json} (hb : k.bulkKey key = .skipped) : Accepts k key v .skip
  | ignored {v : Json} (hb : k.bulkKey key = .unknown) : Accepts k key v .skip
  | newKey (hb : k.bulkKey key = .idempotencyKey) : Accepts k key .null (.pin none)
  | key {s : String} (hb : k.bulkKey key = .idempotencyKey) :
      Accepts k key (.string s) (.pin (some s))
  | padding {s : String} (hb : k.bulkKey key = .padding) :
      Accepts k key (.string s) (.write (.padding s))
  | slot {s : Slot} {v : Json} {x : Write} (hb : k.bulkKey key = .slot s) (hx : s.accept v = .ok x) :
      Accepts k key v (.write x)

theorem accepts_of_accept {k : Kind} {key : String} {v : Json} {e : Effect}
    (h : k.accept key v = .ok e) : k.Accepts key v e := by
  unfold accept at h
  cases hb : k.bulkKey key with
  | skipped =>
    rw [hb] at h
    cases h
    exact .skipped hb
  | unknown =>
    rw [hb] at h
    cases h
    exact .ignored hb
  | idempotencyKey =>
    rw [hb] at h
    cases v with
    | null => cases h; exact .newKey hb
    | string s => cases h; exact .key hb
    | _ => cases h
  | padding =>
    rw [hb] at h
    cases v with
    | string s => cases h; exact .padding hb
    | _ => cases h
  | slot s =>
    rw [hb] at h
    obtain ⟨x, hx, rfl⟩ := Except.map_eq_ok_iff.1 (Checked.lift_eq_ok_iff.1 h)
    exact .slot hb hx

/-- The effects of entries up to the first that is not accepted, and its error. -/
def acceptAll (k : Kind) : List (String × Json) → List Effect × Result Unit
  | [] => ([], .ok ())
  | (key, v) :: rest =>
    match k.accept key v with
    | .ok e => (e :: (k.acceptAll rest).1, (k.acceptAll rest).2)
    | .error e => ([], .error e)

theorem verdict_acceptAll_iff {k : Kind} {l : List (String × Json)} :
    (k.acceptAll l).2 = .ok () ↔ ∀ e ∈ l, (k.accept e.1 e.2).isOk := by
  induction l with
  | nil => exact iff_of_true rfl nofun
  | cons e l ih =>
    obtain ⟨key, v⟩ := e
    rw [acceptAll, List.forall_mem_cons]
    cases k.accept key v with
    | error err => exact iff_of_false nofun fun h => nomatch h.1
    | ok e => exact ih.trans (and_iff_right rfl).symm

/-- Each effect stems from an entry. -/
theorem exists_entry_of_acceptAll {k : Kind} {l : List (String × Json)} {e : Effect}
    (h : e ∈ (k.acceptAll l).1) : ∃ entry ∈ l, k.accept entry.1 entry.2 = .ok e := by
  induction l with
  | nil => cases h
  | cons entry l ih =>
    obtain ⟨key, v⟩ := entry
    rw [acceptAll] at h
    cases ha : k.accept key v with
    | error err => rw [ha] at h; cases h
    | ok e' =>
      rw [ha] at h
      rcases List.mem_cons.1 h with rfl | h
      · exact ⟨(key, v), List.mem_cons_self .., ha⟩
      · obtain ⟨entry, hentry, haccept⟩ := ih h
        exact ⟨entry, List.mem_cons_of_mem _ hentry, haccept⟩

end Kind

namespace Job
variable {w : World}

/-- An update that is a check and then a write has the effect of the write, if it is accepted. -/
theorem update_commit (c : Checked Write) (j : Job) (t : Trace) :
    (((j.update (.commit c)).1, t), (j.update (.commit c)).2) =
      Effect.attempt w (Checked.lift (c.map .write)) (j, t) := by
  cases c <;> rfl

theorem applyEntry_eq (key : String) (v : Json) (j : Job) (t : Trace) :
    j.applyEntry w key v t = Effect.attempt w (j.kind.accept key v) (j, t) := by
  unfold applyEntry applyBy Kind.accept
  cases j.kind.bulkKey key with
  | skipped => rfl
  | unknown => rfl
  | idempotencyKey => cases v <;> rfl
  | padding => cases h : v.stringFor key <;> rfl
  | slot s =>
    simp only [Slot.write_eq]
    exact update_commit (s.accept v) j t

theorem applyEntry_of_refused {key : String} {v : Json} {j : Job} {t : Trace} {e : ClientError}
    (h : (j.applyEntry w key v t).2 = .error e) : j.applyEntry w key v t = ((j, t), .error e) := by
  rw [applyEntry_eq] at h ⊢
  cases ha : j.kind.accept key v with
  | ok x => rw [ha] at h; cases h
  | error e' => rw [ha] at h; cases h; rfl

theorem applyEntries_eq (l : List (String × Json)) (j : Job) (t : Trace) :
    applyEntries w l j t =
      (Effect.runAll w (j.kind.acceptAll l).1 (j, t), (j.kind.acceptAll l).2) := by
  induction l generalizing j t with
  | nil => rfl
  | cons e l ih =>
    obtain ⟨key, v⟩ := e
    rw [applyEntries, applyEntry_eq, Kind.acceptAll]
    cases j.kind.accept key v with
    | error err => rfl
    | ok e => simp only [Effect.attempt_ok, ih, Effect.run_kind, Effect.runAll_cons]

/-- What a merge of the record does to jobs of the kind: its effects, and its verdict. -/
def bulkEffects (k : Kind) (bulk : Fields) (ignoreUnknown : Bool) : List Effect × Result Unit :=
  match if ignoreUnknown then none else unknownKey? k bulk with
  | some key => ([], .error (.unknownKey k.method key))
  | none => k.acceptAll bulk.entries

theorem exists_entry_of_bulkEffects {k : Kind} {bulk : Fields} {ignoreUnknown : Bool} {e : Effect}
    (h : e ∈ (bulkEffects k bulk ignoreUnknown).1) :
    ∃ entry ∈ bulk.entries, k.accept entry.1 entry.2 = .ok e := by
  unfold bulkEffects at h
  split at h
  · cases h
  · exact Kind.exists_entry_of_acceptAll h

theorem merge_eq (bulk : Fields) (ignoreUnknown : Bool) (j : Job) (t : Trace) :
    j.merge w bulk ignoreUnknown t =
      (Effect.runAll w (bulkEffects j.kind bulk ignoreUnknown).1 (j, t),
        (bulkEffects j.kind bulk ignoreUnknown).2) := by
  unfold merge bulkEffects
  cases if ignoreUnknown = true then none else unknownKey? j.kind bulk with
  | some key => rfl
  | none => exact applyEntries_eq ..

end Job

/-! ### Steps and runs -/

namespace JobStep

/-- What the step does to jobs of the kind before anything is sent, and whether it is accepted. -/
def effects (kind : Kind) : JobStep → List Effect × Result Unit
  | set s =>
    match s.accept with
    | .ok x => ([.write x], .ok ())
    | .error e => ([], .error (.field e))
  | .key k => ([.pin k], .ok ())
  | merge bulk ignoreUnknown => Job.bulkEffects kind bulk ignoreUnknown
  | perform => ([], .ok ())
  | performWith bulk => Job.bulkEffects kind bulk false

/-- The step sends the job if it is accepted. -/
def sends : JobStep → Bool
  | perform | performWith _ => true
  | _ => false

end JobStep

/-- The steps that the operations of a kind have: single setters only for the slots of the kind. -/
def Kind.allows (k : Kind) : JobStep → Bool
  | .set s => k.offers s
  | _ => true

namespace Job
variable {w : World}

/-! ### Sending -/

/-- The key under which the job can be sent. -/
def usableKey (j : Job) : Option String :=
  j.key.filter fun k => !Text.isBlankText k

/-- The request for the job as it stands, under a key. -/
def request (j : Job) (key : String) : Request :=
  j.connection.postRequest j.path j.details key

theorem perform_eq (j : Job) (t : Trace) :
    j.perform w t =
      match j.usableKey with
      | some key =>
        (.ok (.ofOutcome (w.respond t.sent (j.request key))),
          { t with sent := t.sent ++ [j.request key] })
      | none => (.error (.missingKey j.method), t) := by
  unfold perform usableKey
  cases j.key.filter fun k => !Text.isBlankText k <;> rfl

/-! ### Steps -/

/-- The end of a step whose effects have been run: its error, or the request, or nothing. -/
def conclude (w : World) (s : JobStep) (verdict : Result Unit) (state : Job × Trace) :
    (Job × Trace) × Result (Option Envelope) :=
  match verdict with
  | .error e => (state, .error e)
  | .ok () =>
    if s.sends then
      let (r, t) := state.1.perform w state.2
      ((state.1, t), r.map some)
    else (state, .ok none)

theorem step_eq (s : JobStep) (j : Job) (t : Trace) :
    j.step w s t =
      conclude w s (s.effects j.kind).2 (Effect.runAll w (s.effects j.kind).1 (j, t)) := by
  cases s with
  | set s =>
    simp only [step, set, Setter.apply_eq, JobStep.effects]
    cases s.accept <;> rfl
  | key key => rfl
  | perform => rfl
  | merge bulk ignoreUnknown =>
    simp only [step, merge_eq, JobStep.effects]
    cases (bulkEffects j.kind bulk ignoreUnknown).2 <;> rfl
  | performWith bulk =>
    simp only [step, merge_eq, JobStep.effects]
    cases (bulkEffects j.kind bulk false).2 <;> rfl

/-- Takes steps one after another, whether they succeed or fail, and lists what they answer. -/
def run (w : World) (steps : List JobStep) (j : Job) (t : Trace) :
    (Job × Trace) × List (Result (Option Envelope)) :=
  Steps.run (fun s state => state.1.step w s state.2) steps (j, t)

@[simp] theorem run_nil (j : Job) (t : Trace) : run w [] j t = ((j, t), []) := rfl

@[simp] theorem run_cons (s : JobStep) (steps : List JobStep) (j : Job) (t : Trace) :
    run w (s :: steps) j t =
      ((run w steps (j.step w s t).1.1 (j.step w s t).1.2).1,
        (j.step w s t).2 :: (run w steps (j.step w s t).1.1 (j.step w s t).1.2).2) := rfl

theorem conclude_job (s : JobStep) (verdict : Result Unit) (state : Job × Trace) :
    (conclude w s verdict state).1.1 = state.1 := by
  unfold conclude
  cases verdict with
  | error e => rfl
  | ok => simp only; split <;> rfl

/-- A step leaves the job that its effects leave; sending does not change it. -/
theorem step_job (s : JobStep) (j : Job) (t : Trace) :
    (j.step w s t).1.1 = (Effect.runAll w (s.effects j.kind).1 (j, t)).1 := by
  rw [step_eq, conclude_job]

/-- A performing step sends the job that it leaves and answers with an envelope, or it fails; no
other step sends anything. -/
theorem step_sent (s : JobStep) (j : Job) (t : Trace) :
    (s.sends = true ∧ ∃ e key, (j.step w s t).2 = .ok (some e) ∧
      (j.step w s t).1.1.usableKey = some key ∧
      (j.step w s t).1.2.sent = t.sent ++ [(j.step w s t).1.1.request key]) ∨
    ((∀ e, (j.step w s t).2 = .ok e → s.sends = false ∧ e = none) ∧
      (j.step w s t).1.2.sent = t.sent) := by
  have hsent := Effect.runAll_sent (w := w) (s.effects j.kind).1 (j, t)
  rw [step_eq]
  generalize Effect.runAll w (s.effects j.kind).1 (j, t) = state at hsent
  unfold conclude
  cases (s.effects j.kind).2 with
  | error e => exact .inr ⟨by rintro _ ⟨⟩, hsent⟩
  | ok =>
    cases hs : s.sends with
    | false => exact .inr ⟨by rintro _ ⟨⟩; exact ⟨rfl, rfl⟩, hsent⟩
    | true =>
      simp only [if_true, perform_eq]
      cases hk : state.1.usableKey with
      | none => exact .inr ⟨by rintro _ ⟨⟩, hsent⟩
      | some key => exact .inl ⟨trivial, _, key, rfl, rfl, by rw [← hsent]⟩

@[simp] theorem step_kind (s : JobStep) (j : Job) (t : Trace) :
    (j.step w s t).1.1.kind = j.kind := by
  rw [step_job, Effect.runAll_kind]

@[simp] theorem step_connection (s : JobStep) (j : Job) (t : Trace) :
    (j.step w s t).1.1.connection = j.connection := by
  rw [step_job, Effect.runAll_connection]

/-- What every step of a job keeps, a run keeps. -/
theorem run_invariant {P : Job → Trace → Prop} {Q : JobStep → Prop}
    (hstep : ∀ s j t, Q s → P j t → P (j.step w s t).1.1 (j.step w s t).1.2)
    {steps : List JobStep} (hsteps : ∀ s ∈ steps, Q s) {j : Job} {t : Trace} (h : P j t) :
    P (run w steps j t).1.1 (run w steps j t).1.2 :=
  Steps.run_invariant (P := fun state : Job × Trace => P state.1 state.2)
    (fun s state => hstep s state.1 state.2) hsteps h

theorem run_kind (steps : List JobStep) (j : Job) (t : Trace) :
    (run w steps j t).1.1.kind = j.kind := by
  refine run_invariant (P := fun j' _ => j'.kind = j.kind) (Q := fun _ => True) ?_
    (fun _ _ => trivial) rfl
  intro s j' t _ h
  rw [step_kind, h]

/-- Nothing is sent by steps that are not there to send. -/
theorem run_sent_of_not_sends {steps : List JobStep} (h : ∀ s ∈ steps, s.sends = false) (j : Job)
    (t : Trace) : (run w steps j t).1.2.sent = t.sent := by
  refine run_invariant (P := fun _ t' => t'.sent = t.sent) (Q := fun s => s.sends = false) ?_ h rfl
  intro s j' t' hs ht
  rcases step_sent (w := w) s j' t' with ⟨hs', -⟩ | ⟨-, hsent⟩
  · rw [hs] at hs'
    cases hs'
  · rw [hsent, ht]

end Job
end Till
