import Till.Proofs.Bulk.Applied
import Till.Proofs.Operation.Verdict

/-!
# The calls of a run

A run amounts to the calls that it has accepted, one after another: setters and keys as they were
called, and for each bulk entry that is applied the calls that it denotes. `History` tells these calls
from the steps of the run and from what they answered. Main statement: every run has one history,
and its calls, made one after another, are all accepted and leave what the run leaves
(`History.runAll_eq`).
-/

namespace Till

/-- The calls that an entry of a bulk record makes: those it denotes, or none if the kind does not know
its key. -/
inductive Kind.Makes (k : Kind) : String × Json → List Call → Prop
  | known {key : String} {v : Json} {calls : List Call} (h : k.Denotes key v calls) :
      Makes k (key, v) calls
  | ignored {key : String} {v : Json} (h : ¬ k.Knows key) : Makes k (key, v) []

/-- The calls of a step that were accepted, by what it answers. -/
inductive JobStep.Makes (k : Kind) : JobStep → Result (Option Envelope) → List Call → Prop
  | accepted {s : Setter} {e : Option Envelope} : Makes k (.set s) (.ok e) [.set s]
  | refused {s : Setter} {e : ClientError} : Makes k (.set s) (.error e) []
  | key {pin : Option String} {answer : Result (Option Envelope)} :
      Makes k (.key pin) answer [.key pin]
  | perform {answer : Result (Option Envelope)} : Makes k .perform answer []
  | merge {bulk : Fields} {ignoreUnknown : Bool} {answer : Result (Option Envelope)}
      {calls : List (List Call)} (h : List.Forall₂ k.Makes (k.applied bulk ignoreUnknown) calls) :
      Makes k (.merge bulk ignoreUnknown) answer calls.flatten
  | performWith {bulk : Fields} {answer : Result (Option Envelope)} {calls : List (List Call)}
      (h : List.Forall₂ k.Makes (k.applied bulk false) calls) :
      Makes k (.performWith bulk) answer calls.flatten

/-- The accepted calls of steps one after another. -/
inductive History (k : Kind) :
    List JobStep → List (Result (Option Envelope)) → List Call → Prop
  | nil : History k [] [] []
  | cons {s : JobStep} {steps : List JobStep} {answer : Result (Option Envelope)}
      {answers : List (Result (Option Envelope))} {calls rest : List Call}
      (h : s.Makes k answer calls) (hrest : History k steps answers rest) :
      History k (s :: steps) (answer :: answers) (calls ++ rest)

/-! ### Calls and what was sent -/

namespace Call
variable {w : World}

/-- Calls neither send nor look at what was sent. -/
theorem runAll_withSent (calls : List Call) (state : Job × Trace) (rs : List Request) :
    runAll w calls (state.1, { state.2 with sent := rs }) =
      (runAll w calls state).map fun s => (s.1, { s.2 with sent := rs }) := by
  induction calls generalizing state with
  | nil => rfl
  | cons c calls ih =>
    have hrun : c.run w (state.1, { state.2 with sent := rs }) =
        (c.run w state).map fun s => (s.1, { s.2 with sent := rs }) := by
      cases c with
      | set s =>
        simp only [run]
        rcases state.1.set s with ⟨j, e | _⟩ <;> rfl
      | key k => cases k <;> rfl
      | clearTax => rfl
    rw [runAll, runAll, hrun]
    cases c.run w state with
    | error e => rfl
    | ok state => exact ih state

end Call

/-! ### Entries -/

namespace Kind
variable {k : Kind} {w : World} {key : String} {v : Json} {calls : List Call}

theorem Makes.runAll_eq (h : k.Makes (key, v) calls) (state : Job × Trace) :
    Call.runAll w calls state = (k.accept key v).map fun e => e.run w state := by
  cases h with
  | known h => exact h.runAll_eq state
  | ignored h => rw [accept_of_not_knows h]; rfl

theorem exists_makes {e : Effect} (h : k.accept key v = .ok e) : ∃ calls, k.Makes (key, v) calls := by
  by_cases hk : k.Knows key
  · obtain ⟨calls, hcalls⟩ := exists_denotes h fun hu => bulkKey_eq_unknown_iff.1 hu hk
    exact ⟨calls, .known hcalls⟩
  · exact ⟨[], .ignored hk⟩

theorem rightUnique_makes : Relator.RightUnique k.Makes := by
  intro entry calls calls' h h'
  cases h with
  | known h =>
    cases h' with
    | known h' => exact h.det h'
    | ignored h' => exact absurd (bulkKey_eq_unknown_iff.2 h') h.bulkKey_ne_unknown
  | ignored h =>
    cases h' with
    | known h' => exact absurd (bulkKey_eq_unknown_iff.2 h) h'.bulkKey_ne_unknown
    | ignored => rfl

section
variable {entries : List (String × Json)} {es : List Effect}
  (h : List.Forall₂ (fun entry e => k.accept entry.1 entry.2 = .ok e) entries es)
include h

theorem exists_forall₂_makes : ∃ calls, List.Forall₂ k.Makes entries calls := by
  induction h with
  | nil => exact ⟨[], .nil⟩
  | cons ha _ ih =>
    obtain ⟨calls, hcalls⟩ := exists_makes ha
    obtain ⟨rest, hrest⟩ := ih
    exact ⟨calls :: rest, .cons hcalls hrest⟩

/-- The calls of entries that are applied do what the effects of the entries do. -/
theorem runAll_flatten {calls : List (List Call)} (hcalls : List.Forall₂ k.Makes entries calls)
    (state : Job × Trace) :
    Call.runAll w calls.flatten state = .ok (Effect.runAll w es state) := by
  induction h generalizing calls state with
  | nil =>
    cases hcalls
    rfl
  | cons ha _ ih =>
    cases hcalls with
    | cons hcalls hrest =>
      rw [List.flatten_cons, Call.runAll_append, hcalls.runAll_eq, ha]
      exact ih hrest _

end
end Kind

/-! ### Steps -/

theorem JobStep.Makes.det {k : Kind} {s : JobStep} {answer : Result (Option Envelope)}
    {calls calls' : List Call} (h : s.Makes k answer calls) (h' : s.Makes k answer calls') :
    calls = calls' := by
  cases h with
  | accepted | refused | key | perform => cases h'; rfl
  | merge h =>
    cases h' with
    | merge h' => rw [Kind.rightUnique_makes.forall₂ h h']
  | performWith h =>
    cases h' with
    | performWith h' => rw [Kind.rightUnique_makes.forall₂ h h']

namespace Job
variable {w : World} {s : JobStep} {j : Job} {t : Trace}

theorem exists_makes (w : World) (s : JobStep) (j : Job) (t : Trace) :
    ∃ calls, s.Makes j.kind (j.step w s t).2 calls := by
  cases s with
  | set s =>
    cases (j.step w (.set s) t).2 with
    | error e => exact ⟨_, .refused⟩
    | ok e => exact ⟨_, .accepted⟩
  | key pin => exact ⟨_, .key⟩
  | perform => exact ⟨_, .perform⟩
  | merge bulk ignoreUnknown =>
    obtain ⟨calls, hcalls⟩ := Kind.exists_forall₂_makes (forall₂_bulkEffects j.kind bulk ignoreUnknown)
    exact ⟨_, .merge hcalls⟩
  | performWith bulk =>
    obtain ⟨calls, hcalls⟩ := Kind.exists_forall₂_makes (forall₂_bulkEffects j.kind bulk false)
    exact ⟨_, .performWith hcalls⟩

/-- The accepted calls of a step do what its effects do. -/
theorem runAll_of_makes {calls : List Call} (h : s.Makes j.kind (j.step w s t).2 calls) :
    Call.runAll w calls (j, t) = .ok (Effect.runAll w (s.effects j.kind).1 (j, t)) := by
  cases s with
  | set s =>
    rw [answer_of_not_sends rfl, JobStep.effects] at h
    rw [JobStep.effects]
    cases ha : s.accept with
    | error e =>
      rw [ha] at h
      cases h
      rfl
    | ok x =>
      rw [ha] at h
      cases h
      rw [Call.runAll_singleton, Call.run_eq, Call.accept, ha]
      rfl
  | key pin => cases h; rfl
  | perform => cases h; rfl
  | merge bulk ignoreUnknown =>
    cases h with
    | merge h => exact Kind.runAll_flatten (forall₂_bulkEffects ..) h (j, t)
  | performWith bulk =>
    cases h with
    | performWith h => exact Kind.runAll_flatten (forall₂_bulkEffects ..) h (j, t)

/-- Sending apart, a step leaves what its effects leave. -/
theorem runAll_effects_eq (s : JobStep) (j : Job) (t : Trace) :
    Effect.runAll w (s.effects j.kind).1 (j, t) =
      ((j.step w s t).1.1, { (j.step w s t).1.2 with sent := t.sent }) := by
  have hsent : (Effect.runAll w (s.effects j.kind).1 (j, t)).2.sent = t.sent :=
    Effect.runAll_sent ..
  rw [step_eq]
  generalize Effect.runAll w (s.effects j.kind).1 (j, t) = state at hsent
  rw [conclude_job]
  show state = (state.1, ⟨(conclude w s (s.effects j.kind).2 state).1.2.drawn, t.sent⟩)
  rw [conclude_drawn, ← hsent]

/-! ### Runs -/

theorem exists_history (w : World) (steps : List JobStep) (j : Job) (t : Trace) :
    ∃ calls, History j.kind steps (run w steps j t).2 calls := by
  induction steps generalizing j t with
  | nil => exact ⟨[], .nil⟩
  | cons s steps ih =>
    obtain ⟨calls, hcalls⟩ := exists_makes w s j t
    obtain ⟨rest, hrest⟩ := ih (j.step w s t).1.1 (j.step w s t).1.2
    rw [step_kind] at hrest
    exact ⟨_, .cons hcalls hrest⟩

end Job

namespace History
variable {k : Kind} {w : World} {steps : List JobStep} {calls calls' : List Call}

theorem det {answers : List (Result (Option Envelope))} (h : History k steps answers calls)
    (h' : History k steps answers calls') : calls = calls' := by
  induction h generalizing calls' with
  | nil => cases h'; rfl
  | cons h _ ih =>
    cases h' with
    | cons h' hrest' => rw [h.det h', ih hrest']

/-- The calls of a run, made one after another, leave the job that the run leaves, and have made up
as many keys. -/
theorem runAll_eq {j : Job} {t : Trace}
    (h : History j.kind steps (Job.run w steps j t).2 calls) :
    Call.runAll w calls (j, t) =
      .ok ((Job.run w steps j t).1.1, { (Job.run w steps j t).1.2 with sent := t.sent }) := by
  induction steps generalizing j t calls with
  | nil =>
    cases h
    rfl
  | cons s steps ih =>
    rw [Job.run_cons] at h ⊢
    cases h with
    | cons h hrest =>
      rw [← Job.step_kind (w := w) s j t] at hrest
      rw [Call.runAll_append, Job.runAll_of_makes h, Job.runAll_effects_eq]
      show Call.runAll w _ ((j.step w s t).1.1, { (j.step w s t).1.2 with sent := t.sent }) = _
      rw [Call.runAll_withSent _ (j.step w s t).1, ih hrest]
      rfl

end History

/-- A run has one history, and its calls leave the job that the run leaves. -/
theorem Job.exists_history_iff (w : World) (steps : List JobStep) (j : Job) (t : Trace) :
    ∃ calls, (∀ calls', History j.kind steps (run w steps j t).2 calls' ↔ calls' = calls) ∧
      ∃ t', Call.runAll w calls (j, t) = .ok ((run w steps j t).1.1, t') := by
  obtain ⟨calls, hcalls⟩ := exists_history w steps j t
  refine ⟨calls, fun calls' => ⟨fun h => h.det hcalls, ?_⟩, _, hcalls.runAll_eq⟩
  rintro rfl
  exact hcalls

end Till
