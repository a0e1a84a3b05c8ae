import Till.Proofs.CommandLine.Send
import Till.Proofs.Settings.Defaults

/-!
# The key of an invocation

Preparing a job for an invocation is a run of three steps (`Sending.prepare_job`): the defaults are
merged, the details are merged, a key is pinned. The last of them asks for a new key when none is
given as an argument, so it also replaces a key that the details have pinned just before. Main
statement: an invocation sends its job under the key of the argument, or else under a new one, every
time in the same request; the key that a caller puts into the details is sent only if it happens to
be the new one (`Invocation.run_keyUse`).
-/

namespace Till.CommandLine

/-! ### Preparing -/

namespace Sending
variable {a : Sending} {s : Settings} {w : World}

/-- The steps of a job by which it is prepared. -/
def steps (a : Sending) (s : Settings) (bulk : Fields) : List JobStep :=
  [.merge (a.defaults s) true, .merge bulk false, .key a.key]

theorem verdict_defaults (hs : s.validate = .ok ()) (k : Kind) :
    (Job.bulkEffects k (a.defaults s) true).2 = .ok () := by
  unfold defaults
  cases a.noDefaults with
  | true => rfl
  | false => exact Settings.verdict_defaults hs

theorem pins_defaults (hs : s.validate = .ok ()) (k : Kind) :
    (JobStep.merge (a.defaults s) true).pins k = [] := by
  unfold defaults
  cases a.noDefaults with
  | true => rfl
  | false => exact Settings.pins_defaults hs

theorem prepare_job {j : Job} {bulk : Fields} (hs : s.validate = .ok ()) (hbulk : a.bulk = .ok bulk)
    (hmerge : (Job.bulkEffects j.kind bulk false).2 = .ok ()) (t : Trace) :
    a.prepare s w (.job j) t =
      .ok (.job (Job.run w (a.steps s bulk) j t).1.1, (Job.run w (a.steps s bulk) j t).1.2) := by
  have hdefaults := verdict_defaults (a := a) hs j.kind
  unfold defaults at hdefaults
  simp only [prepare, Prepared.merge_job, Job.merge_eq, hdefaults, hbulk, Effect.runAll_kind, hmerge,
    bind, Except.bind, pins_job, if_true, Prepared.pinKey_job, steps, defaults, Job.run_cons, Job.step]
  rfl

/-- The key of the argument, or else a new one, whatever the details pin. -/
theorem key_steps {j : Job} (hs : s.validate = .ok ()) (bulk : Fields) (t : Trace) :
    let made := t.drawn + ((JobStep.merge bulk false).pins j.kind).count none
    let out := Job.run w (a.steps s bulk) j t
    out.1.1.key = some (a.key.getD (w.seed made).key) ∧
      out.1.2.drawn = made + if a.key.isSome then 0 else 1 := by
  -- the defaults pin nothing, and the pin of the argument comes after those of the details
  have hpins : (a.steps s bulk).flatMap (·.pins j.kind) =
      (JobStep.merge bulk false).pins j.kind ++ [a.key] := by
    show (JobStep.merge (a.defaults s) true).pins j.kind ++ (_ ++ ([a.key] ++ [])) = _
    rw [pins_defaults hs]
    rfl
  have hkey := Job.run_key (w := w) (a.steps s bulk) j t
  rw [hpins, World.pinned_append, World.drawn_pinned] at hkey
  cases ha : a.key with
  | some key =>
    rw [ha] at hkey
    exact Prod.mk.inj hkey
  | none =>
    rw [ha] at hkey
    exact Prod.mk.inj hkey

end Sending

/-! ### Runs -/

/-- The settings of an invocation will do, and it names the kind of the operation that it prepares. -/
inductive Invocation.Starts (i : Invocation) (file : SettingsFile) (e : Environment) :
    Settings → Sending → Prepared → Prop
  | device {s : Settings} {a : Sending} {k : DeviceKind} {d : Device}
      (hs : Settings.layered file e i.overrides = .ok s) (htask : i.task = .device a)
      (hk : DeviceKind.parse a.kind = .ok k) (hd : s.device = .ok d) :
      Starts i file e s a (d.prepare k)
  | server {s : Settings} {a : Sending} {k : ServerKind}
      (hs : Settings.layered file e i.overrides = .ok s) (htask : i.task = .server a)
      (hk : ServerKind.parse a.kind = .ok k) : Starts i file e s a (s.server.prepare k)

/-- A run sends one request `n` times, under the key. -/
structure SendsUnder (key : String) (n : Nat) (out : Result (List Envelope) × Trace) : Prop where
  answered : ∃ es, out.1 = .ok es ∧ es.length = n
  sent : ∃ r : Request, r.key? = some key ∧ out.2.sent = List.replicate n r

/-- The key that a caller gives: that of the argument, or else the one that the details pin last. -/
def callerKey? (argument : Option String) (pins : List (Option String)) : Option String :=
  argument.or pins.getLast?.join

/-- What becomes of the key of the argument and of those that the details pin one after another. -/
structure KeyUse (w : World) (method : String) (argument : Option String)
    (pins : List (Option String)) (n : Nat) (out : Result (List Envelope) × Trace) : Prop where
  /-- The argument wins over the details. -/
  given : ∀ key, argument = some key → Text.isBlankText key = false → SendsUnder key n out
  /-- Under a blank one nothing is sent. -/
  refused : ∀ key, argument = some key → Text.isBlankText key = true →
    out.1 = .error (.missingKey method) ∧ out.2.sent = []
  /-- Without an argument there is a new key, made up after those that the details ask for. -/
  madeUp : argument = none → SendsUnder (w.seed (pins.count none)).key n out
  drawn : out.2.drawn = pins.count none + if argument.isSome then 0 else 1
  /-- So a caller's key that does not come as the argument is sent by accident only. -/
  honoured_iff : ∀ key, callerKey? argument pins = some key → Text.isBlankText key = false →
    ((∀ r ∈ out.2.sent, r.key? = some key) ↔
      argument.isSome = true ∨ key = (w.seed (pins.count none)).key)

theorem SendsUnder.forall_iff {key key' : String} {n : Nat} {out : Result (List Envelope) × Trace}
    (h : SendsUnder key n out) (hn : 0 < n) :
    (∀ r ∈ out.2.sent, r.key? = some key') ↔ key' = key := by
  obtain ⟨r, hr, hsent⟩ := h.sent
  rw [hsent]
  constructor
  · intro hall
    have := hall r (List.mem_replicate.2 ⟨Nat.ne_of_gt hn, rfl⟩)
    rw [hr] at this
    exact (Option.some.inj this).symm
  · rintro rfl r' hr'
    rw [List.eq_of_mem_replicate hr', hr]

theorem sendsUnder_send {w : World} {j : Job} {key : String} {t : Trace} (hkey : j.key = some key)
    (hblank : Text.isBlankText key = false) (ht : t.sent = []) (n : Nat) :
    SendsUnder key n (send (.job j) w n t) := by
  obtain ⟨es, hes, hsend⟩ :=
    send_job_of_usable (w := w) (Job.usableKey_eq_some_iff.2 ⟨hkey, hblank⟩) n t
  rw [hsend]
  exact ⟨⟨es, rfl, hes⟩, _, j.key?_request key, by rw [ht]; rfl⟩

theorem drawn_send_job {w : World} (j : Job) (n : Nat) (t : Trace) :
    (send (.job j) w n t).2.drawn = t.drawn := by
  cases h : j.usableKey with
  | some key =>
    obtain ⟨es, -, hsend⟩ := send_job_of_usable (w := w) h n t
    rw [hsend]
  | none =>
    cases n with
    | zero => rfl
    | succ n => rw [send_job_of_unusable h]

/-- What is sent of a job that has been prepared. -/
theorem keyUse_send {w : World} {j : Job} {t : Trace} {argument : Option String}
    {pins : List (Option String)} {n : Nat} (hn : 0 < n) (hsent : t.sent = [])
    (hkey : j.key = some (argument.getD (w.seed (pins.count none)).key))
    (hdrawn : t.drawn = pins.count none + if argument.isSome then 0 else 1) :
    KeyUse w j.method argument pins n (send (.job j) w n t) where
  given key ha hblank := by
    rw [ha] at hkey
    exact sendsUnder_send hkey hblank hsent n
  refused key ha hblank := by
    rw [ha] at hkey
    have hunusable : j.usableKey = none := by
      refine Job.usableKey_eq_none_iff.2 fun key' hk => ?_
      rw [hkey] at hk
      cases hk
      exact hblank
    obtain ⟨m, rfl⟩ := Nat.exists_eq_succ_of_ne_zero (Nat.ne_of_gt hn)
    rw [send_job_of_unusable hunusable]
    exact ⟨rfl, hsent⟩
  madeUp ha := by
    rw [ha] at hkey
    exact sendsUnder_send hkey (KeySeed.isBlankText_key _) hsent n
  drawn := by rw [drawn_send_job, hdrawn]
  honoured_iff key hc hblank := by
    cases argument with
    | some key' =>
      cases hc
      have hsends := sendsUnder_send (w := w) hkey hblank hsent n
      exact iff_of_true ((hsends.forall_iff hn).2 rfl) (.inl rfl)
    | none =>
      have hsends := sendsUnder_send (w := w) hkey (KeySeed.isBlankText_key _) hsent n
      rw [hsends.forall_iff hn]
      exact (or_iff_right nofun).symm

namespace Invocation
variable {i : Invocation} {file : SettingsFile} {e : Environment} {s : Settings} {a : Sending}

namespace Starts

theorem validate {p : Prepared} (h : i.Starts file e s a p) : s.validate = .ok () := by
  cases h with
  | device hs => exact Settings.validate_of_layered hs
  | server hs => exact Settings.validate_of_layered hs

theorem run_eq {p : Prepared} (h : i.Starts file e s a p) (w : World) :
    i.run file e w =
      match a.prepare s w p .start with
      | .error err => (.error err, .start)
      | .ok (p, t) => send p w (max i.repetitions 1) t := by
  cases h with
  | @device k d hs htask hk hd =>
    cases hp : a.prepare s w (d.prepare k) .start <;>
      simp only [run, hs, htask, Task.prepare, hk, hd, hp, bind, Except.bind]
  | @server k hs htask hk =>
    cases hp : a.prepare s w (s.server.prepare k) .start <;>
      simp only [run, hs, htask, Task.prepare, hk, hp, bind, Except.bind]

end Starts

/-- A job whose details merge is sent under the key of the argument or else under a new one. -/
theorem run_keyUse {j : Job} {bulk : Fields} (w : World) (h : i.Starts file e s a (.job j))
    (hbulk : a.bulk = .ok bulk) (hmerge : (j.merge w bulk false .start).2 = .ok ()) :
    KeyUse w j.method a.key ((JobStep.merge bulk false).pins j.kind) (max i.repetitions 1)
      (i.run file e w) := by
  have hs := h.validate
  rw [Job.merge_eq] at hmerge
  rw [h.run_eq, Sending.prepare_job hs hbulk hmerge]
  have hmethod : (Job.run w (a.steps s bulk) j .start).1.1.method = j.method :=
    congrArg Kind.method (Job.run_kind ..)
  have hsent : (Job.run w (a.steps s bulk) j .start).1.2.sent = [] :=
    Job.run_sent_of_not_sends (by simp [Sending.steps, JobStep.sends]) j .start
  obtain ⟨hkey, hdrawn⟩ := Sending.key_steps (a := a) (w := w) (j := j) hs bulk .start
  rw [show Trace.start.drawn = 0 from rfl, Nat.zero_add] at hkey hdrawn
  rw [← hmethod]
  exact keyUse_send (Nat.lt_of_lt_of_le Nat.one_pos (Nat.le_max_right ..)) hsent hkey hdrawn

/-! ### A key in the details -/

/-- A demonstration print whose details pin a key. -/
def demo (key : Option String) : Sending :=
  ⟨"print-demo", some "\x7b\"IdempotencyKey\":\"k-1\"\x7d", key, false⟩

def demoJob : Job :=
  Device.printDemo ⟨⟨"till", "", "42"⟩, rfl⟩

/-- The print twice, with what it takes to reach a device. -/
def twice (key : Option String) : Invocation :=
  ⟨none, { host := some "till", serial := some "42" }, .device (demo key), 2, false⟩

theorem starts_demo (key : Option String) :
    (twice key).Starts .absent {} { connection := demoJob.connection } (demo key) (.job demoJob) := by
  have hs : Settings.layered .absent {} { host := some "till", serial := some "42" } =
      .ok { connection := demoJob.connection } := by rfl
  have hk : DeviceKind.parse "print-demo" = .ok .printDemo := by rfl
  have hserial : Text.isBlankText demoJob.connection.serial = false := by rfl
  have hd : Settings.device { connection := demoJob.connection } =
      .ok ⟨demoJob.connection, hserial⟩ := by rfl
  have hstarts := Starts.device (i := twice key) (a := demo key) hs rfl hk hd
  exact hstarts

theorem exists_bulk_demo (key : Option String) :
    ∃ bulk, (demo key).bulk = .ok bulk ∧
      (demoJob.merge (.unreachable .ofNat "down") bulk false .start).2 = .ok () ∧
      (JobStep.merge bulk false).pins demoJob.kind = [some "k-1"] := by
  have hcheck : ((bulkRecord "\x7b\"IdempotencyKey\":\"k-1\"\x7d").map fun bulk =>
      ((demoJob.merge (.unreachable .ofNat "down") bulk false .start).2.isOk,
        (JobStep.merge bulk false).pins demoJob.kind)).toOption = some (true, [some "k-1"]) := by
    decide +kernel
  cases hbulk : bulkRecord "\x7b\"IdempotencyKey\":\"k-1\"\x7d" with
  | error e =>
    rw [hbulk] at hcheck
    cases hcheck
  | ok bulk =>
    rw [hbulk] at hcheck
    obtain ⟨hok, hpins⟩ := Prod.mk.inj (Option.some.inj hcheck)
    exact ⟨bulk, hbulk, Except.eq_ok_of_isOk hok, hpins⟩

theorem run_keyUse_given :
    let w := World.unreachable .ofNat "down"
    let i := twice (some "k-2")
    i.Starts .absent {} { connection := demoJob.connection } (demo (some "k-2")) (.job demoJob) ∧
      (∃ bulk, (demo (some "k-2")).bulk = .ok bulk ∧
        (demoJob.merge w bulk false .start).2 = .ok ()) ∧
      KeyUse w "print-demo" (some "k-2") [some "k-1"] 2 (i.run .absent {} w) := by
  obtain ⟨bulk, hbulk, hmerge, hpins⟩ := exists_bulk_demo (some "k-2")
  have hstarts := starts_demo (some "k-2")
  have h := run_keyUse (.unreachable .ofNat "down") hstarts hbulk hmerge
  rw [hpins] at h
  exact ⟨hstarts, ⟨bulk, hbulk, hmerge⟩, h⟩

/-- The key that the details pin is lost: both requests carry the first key that is made up. -/
theorem details_key_replaced :
    let w := World.unreachable .ofNat "down"
    let i := twice none
    let out := i.run .absent {} w
    i.Starts .absent {} { connection := demoJob.connection } (demo none) (.job demoJob) ∧
      (∃ bulk, (demo none).bulk = .ok bulk ∧ (demoJob.merge w bulk false .start).2 = .ok () ∧
        callerKey? none ((JobStep.merge bulk false).pins demoJob.kind) = some "k-1") ∧
      Text.isBlankText "k-1" = false ∧ out.1.isOk = true ∧
      out.2.sent.map Request.key? = [some (KeySeed.ofNat 0).key, some (KeySeed.ofNat 0).key] ∧
      (KeySeed.ofNat 0).key ≠ "k-1" := by
  obtain ⟨bulk, hbulk, hmerge, hpins⟩ := exists_bulk_demo none
  refine ⟨starts_demo none, ⟨bulk, hbulk, hmerge, by rw [hpins]; rfl⟩, ?_, ?_, ?_, ?_⟩
  all_goals decide +kernel

end Invocation
end Till.CommandLine
