import Till.Proofs.Gateway.Address
import Till.Proofs.Operation.Dispatch

/-!
# Where requests go

A step on an operation sends a request just if it answers with an envelope, to the url of the
operation, and leaves that url as it is (`Query.step_sendsTo`, `Job.step_sendsTo`,
`Prepared.step_sendsTo`); so a session does the same in all of its steps
(`Session.SendsByStep.sendsTo`). Main statement: the operations of a device reach the address of
their kind on that device, those of the server reach theirs, and these addresses are never mixed up
(`requests_addressed`).
-/

namespace Till

/-- From the one trace to the other, so many requests went out, all of them to the url. -/
def Trace.SendsTo (url : String) (n : Nat) (t t' : Trace) : Prop :=
  ∃ rs : List Request, t'.sent = t.sent ++ rs ∧ rs.length = n ∧ ∀ r ∈ rs, r.url = url

namespace Trace
variable {url : String} {t t' t'' : Trace}

theorem sendsTo_zero (h : t'.sent = t.sent) : t.SendsTo url 0 t' :=
  ⟨[], by rw [h, List.append_nil], rfl, nofun⟩

theorem sendsTo_one {r : Request} (h : t'.sent = t.sent ++ [r]) (hr : r.url = url) :
    t.SendsTo url 1 t' := by
  refine ⟨[r], h, rfl, fun r' hr' => ?_⟩
  rw [List.mem_singleton.1 hr', hr]

theorem SendsTo.trans {m n : Nat} (h : t.SendsTo url m t') (h' : t'.SendsTo url n t'') :
    t.SendsTo url (m + n) t'' := by
  obtain ⟨rs, hsent, hlength, hrs⟩ := h
  obtain ⟨rs', hsent', hlength', hrs'⟩ := h'
  refine ⟨rs ++ rs', by rw [hsent', hsent, List.append_assoc], ?_, fun r hr => ?_⟩
  · rw [List.length_append, hlength, hlength']
  · rcases List.mem_append.1 hr with hr | hr
    · exact hrs r hr
    · exact hrs' r hr

end Trace

/-! ### Sessions -/

namespace Session
variable {σ α β : Type}

/-- In every session on the operation, one request goes out for each answer that is an envelope,
and all of them go to the url. -/
def SendsTo (one : σ → α → Trace → (α × Trace) × β) (isEnvelope : β → Bool) (a : α)
    (url : String) : Prop :=
  ∀ (steps : List (SessionStep σ)) (t : Trace),
    let out := run one steps (single a t)
    t.SendsTo url (out.2.countP (·.any isEnvelope)) out.1.trace

/-- Each step sends a request, to the url of its copy, just if it answers with an envelope; it
leaves the copy with the url that it had. -/
structure SendsByStep (one : σ → α → Trace → (α × Trace) × β) (isEnvelope : β → Bool)
    (url : α → String) : Prop where
  url_eq : ∀ s a t, url (one s a t).1.1 = url a
  sends : ∀ s a (t : Trace), t.SendsTo (url a) (isEnvelope (one s a t).2).toNat (one s a t).1.2

namespace SendsByStep
variable {one : σ → α → Trace → (α × Trace) × β} {isEnvelope : β → Bool} {url : α → String}
  {u : String} {x : Session α}

theorem step (h : SendsByStep one isEnvelope url) (s : SessionStep σ)
    (hx : ∀ a ∈ x.copies, url a = u) :
    (∀ a ∈ (Session.step one s x).1.copies, url a = u) ∧
      x.trace.SendsTo u ((Session.step one s x).2.any isEnvelope).toNat
        (Session.step one s x).1.trace := by
  cases s with
  | copy i =>
    refine ⟨fun a ha => ?_, Trace.sendsTo_zero rfl⟩
    rcases List.mem_append.1 ha with ha | ha
    · exact hx a ha
    · exact hx a (List.mem_of_getElem? (Option.mem_toList.1 ha))
  | on i s =>
    cases hi : x.copies[i]? with
    | none =>
      simp only [Session.step, hi]
      exact ⟨hx, Trace.sendsTo_zero rfl⟩
    | some a =>
      have ha := hx a (List.mem_of_getElem? hi)
      have hsends := h.sends s a x.trace
      rw [ha] at hsends
      simp only [Session.step, hi]
      refine ⟨fun b hb => ?_, hsends⟩
      rcases List.mem_or_eq_of_mem_set hb with hb | rfl
      · exact hx b hb
      · rw [h.url_eq, ha]

theorem run (h : SendsByStep one isEnvelope url) (steps : List (SessionStep σ))
    (hx : ∀ a ∈ x.copies, url a = u) :
    x.trace.SendsTo u ((Session.run one steps x).2.countP (·.any isEnvelope))
      (Session.run one steps x).1.trace := by
  induction steps generalizing x with
  | nil => exact Trace.sendsTo_zero rfl
  | cons s steps ih =>
    obtain ⟨hcopies, hstep⟩ := h.step s hx
    have hrun := hstep.trans (ih hcopies)
    rw [run_cons, List.countP_cons, Nat.add_comm]
    cases hs : (Session.step one s x).2.any isEnvelope <;> simpa [hs] using hrun

theorem sendsTo (h : SendsByStep one isEnvelope url) (a : α) :
    SendsTo one isEnvelope a (url a) := by
  intro steps t
  have hsingle : ∀ b ∈ (single a t).copies, url b = url a := by
    intro b hb
    rw [List.mem_singleton.1 hb]
  exact h.run steps hsingle

end SendsByStep
end Session

/-! ### Operations -/

/-- The answer is an envelope; else it is an error, or that of a step that performs nothing. -/
def hasEnvelope : Result (Option Envelope) → Bool
  | .ok e => e.isSome
  | .error _ => false

namespace Query
variable {w : World}

/-- The url to which the query goes. -/
def url (q : Query) : String :=
  q.connection.url q.path

theorem step_url (s : QueryStep) (q : Query) (t : Trace) : (q.step w s t).1.1.url = q.url := by
  cases s <;> rfl

theorem step_sendsTo (s : QueryStep) (q : Query) (t : Trace) :
    t.SendsTo q.url (q.step w s t).2.isSome.toNat (q.step w s t).1.2 := by
  cases s with
  | key key => cases key <;> exact Trace.sendsTo_zero rfl
  | perform =>
    simp only [step, perform_eq]
    exact Trace.sendsTo_one rfl rfl

theorem sendsTo (q : Query) : Session.SendsTo (Query.step w) Option.isSome q q.url :=
  Session.SendsByStep.sendsTo ⟨step_url, step_sendsTo⟩ q

end Query

namespace Job
variable {w : World}

/-- The url to which the job goes. -/
def url (j : Job) : String :=
  j.connection.url j.path

theorem step_url (s : JobStep) (j : Job) (t : Trace) : (j.step w s t).1.1.url = j.url := by
  rw [url, url, path, path, step_kind, step_connection]

theorem step_sendsTo (s : JobStep) (j : Job) (t : Trace) :
    t.SendsTo j.url (hasEnvelope (j.step w s t).2).toNat (j.step w s t).1.2 := by
  rcases step_sent (w := w) s j t with ⟨-, e, key, hanswer, -, hsent⟩ | ⟨hanswer, hsent⟩
  · rw [hanswer]
    exact Trace.sendsTo_one hsent (step_url s j t)
  · have hnone : hasEnvelope (j.step w s t).2 = false := by
      cases h : (j.step w s t).2 with
      | error e => rfl
      | ok e =>
        rw [(hanswer e h).2]
        rfl
    rw [hnone]
    exact Trace.sendsTo_zero hsent

theorem sendsTo (j : Job) : Session.SendsTo (Job.step w) hasEnvelope j j.url :=
  Session.SendsByStep.sendsTo ⟨step_url, step_sendsTo⟩ j

end Job

namespace Prepared
variable {w : World}

/-- The url to which the operation goes. -/
def url (p : Prepared) : String :=
  p.connection.url p.path

theorem url_query (q : Query) : (query q).url = q.url := by
  rw [url, path_query]
  rfl

theorem url_job (j : Job) : (job j).url = j.url := by
  rw [url, path_job]
  rfl

theorem step_url (s : PreparedStep) (p : Prepared) (t : Trace) :
    (p.step w s t).1.1.url = p.url := by
  rw [url, url, path_eq, path_eq, step_kind, step_connection]

theorem step_sendsTo (s : PreparedStep) (p : Prepared) (t : Trace) :
    t.SendsTo p.url (hasEnvelope (p.step w s t).2).toNat (p.step w s t).1.2 := by
  cases p with
  | query q =>
    rw [url_query]
    rcases s.common_or_merge with ⟨s', rfl⟩ | ⟨bulk, ignoreUnknown, rfl⟩
    · rw [step_query]
      exact Query.step_sendsTo s' q t
    · rw [step_query_merge]
      cases rejectBulk q.kind.method bulk ignoreUnknown <;> exact Trace.sendsTo_zero rfl
  | job j =>
    rw [url_job, step_job]
    exact Job.step_sendsTo s.onJob j t

theorem sendsTo (p : Prepared) : Session.SendsTo (Prepared.step w) hasEnvelope p p.url :=
  Session.SendsByStep.sendsTo ⟨step_url, step_sendsTo⟩ p

theorem prepare_url (k : Kind) (c : Connection) :
    (k.prepare c).url = c.url (k.path c.serial) := by
  rw [url, path_eq, k.prepare_kind, k.prepare_connection]

end Prepared

/-! ### Devices and the server -/

/-- Both forms of the operation, the prepared one and the one by name, reach the url alone. -/
def Reaches (w : World) (p : Prepared) (o : Query ⊕ Job) (url : String) : Prop :=
  Session.SendsTo (Prepared.step w) hasEnvelope p url ∧
    match o with
    | .inl q => Session.SendsTo (Query.step w) Option.isSome q url
    | .inr j => Session.SendsTo (Job.step w) hasEnvelope j url

theorem Device.reaches (w : World) (d : Device) (k : DeviceKind) :
    Reaches w (d.prepare k) (d.named k) (d.address k) := by
  rw [← d.url_path k]
  constructor
  · rw [← Prepared.prepare_url, d.prepare_eq]
    exact Prepared.sendsTo _
  · cases k with
    | status | fullStatus | baseStatus | cashStat => exact Query.sendsTo _
    | _ => exact Job.sendsTo _

theorem Server.reaches (w : World) (s : Server) (k : ServerKind) :
    Reaches w (s.prepare k) (s.named k) (s.address k) := by
  rw [← s.url_path k]
  constructor
  · rw [← Prepared.prepare_url, s.prepare_eq]
    exact Prepared.sendsTo _
  · cases k with
    | ping => exact Query.sendsTo _
    | _ => exact Job.sendsTo _

/-- There is a device on a connection just if its serial number is not blank. Operations of a device
and of the server, prepared or by name, send to the address of their kind and to no other, one
request for each envelope; no path changes when it is normalised once more. Over one host, devices
share an address just if their serial numbers are the same up to blanks at the ends and the methods
are the same, and a device shares none with a server. -/
theorem requests_addressed (w : World) :
    (∀ c, Text.trim c.serial = "" →
      Device.make c = .error (.invalidConfiguration .noSerial) ∧
        ∀ d : Device, d.connection ≠ c) ∧
    (∀ c, Text.trim c.serial ≠ "" → ∃ d, Device.make c = .ok d ∧ d.connection = c) ∧
    (∀ (d : Device) k, Reaches w (d.prepare k) (d.named k) (d.address k)) ∧
    (∀ (s : Server) k, Reaches w (s.prepare k) (s.named k) (s.address k)) ∧
    (∀ (k : Kind) serial, Path.normalize (k.path serial) = k.path serial) ∧
    (∀ (d d' : Device) k k', d'.connection.host = d.connection.host →
      (d'.address k' = d.address k ↔
        Text.trim d'.connection.serial = Text.trim d.connection.serial ∧ k'.method = k.method)) ∧
    ∀ (d : Device) k (s : Server) k', d.address k ≠ s.address k' := by
  refine ⟨fun c hblank => ⟨Device.make_eq_error_iff.2 ⟨hblank, rfl⟩, ?_⟩,
    fun c h => Device.exists_make h, Device.reaches w, Server.reaches w, Kind.normalize_path, ?_,
    Device.address_ne_server⟩
  · rintro d rfl
    exact d.serial_ne hblank
  · intro d d' k k' hhost
    exact Device.address_inj hhost k k'

/-- A serial number with a slash in it and blanks around it, and one of blanks only. -/
theorem requests_addressed_slash :
    let w := World.unreachable .ofNat "down"
    let c : Connection := ⟨"till", "secret", " 4/2 "⟩
    let c' : Connection := ⟨"till", "secret", " \t "⟩
    Text.trim c.serial ≠ "" ∧ Text.trim c'.serial = "" ∧
      Device.make c' = .error (.invalidConfiguration .noSerial) ∧
      ∃ d, Device.make c = .ok d ∧ d.connection.host = "till" ∧
        Session.SendsTo (Prepared.step w) hasEnvelope (d.prepare .sell) "https://till/kkm/4/2/sell" ∧
        ∀ d' : Device, d'.connection.host = d.connection.host →
          d'.address .sell = "https://till/kkm/4/2/sell" →
            Text.trim d'.connection.serial = "4/2" := by
  intro w c c'
  have hserial : Text.trim c.serial = "4/2" := by decide +kernel
  have hc : Text.trim c.serial ≠ "" := by
    rw [hserial]
    decide
  have hc' : Text.trim c'.serial = "" := by decide +kernel
  obtain ⟨hrefused, hmade, hdevice, -, -, hinj, -⟩ := requests_addressed w
  obtain ⟨d, hd, hconnection⟩ := hmade c hc
  have haddress : d.address .sell = "https://till/kkm/4/2/sell" := by
    rw [Device.address, hconnection, hserial]
    rfl
  refine ⟨hc, hc', (hrefused c' hc').1, d, hd, congrArg Connection.host hconnection, ?_, ?_⟩
  · rw [← haddress]
    exact (hdevice d .sell).1
  · intro d' hhost h
    have hsame := ((hinj d d' .sell .sell hhost).1 (h.trans haddress.symm)).1
    rw [hsame, hconnection, hserial]

end Till
