import Till.Proofs.Gateway.Address
import Till.Proofs.Operation.Dispatch
import Till.Settings.Basic

/-!
# The secret of a connection

Two connections that differ in their secret at most lead to requests, traces and operations that
differ in no more than that (`Request.SameButSecret`, `Trace.SameButSecret`, `Job.SameButSecret`,
`Query.SameButSecret`), as long as the gateway answers without regard to the secret. Each step keeps
this. Main statement: sessions on the same operation over the two connections cannot be told apart
but by the header that carries the secret, and nothing that describes them shows it
(`Connection.secret_noninterference`).
-/

namespace Till

/-! ### What differs in the secret at most -/

structure Connection.SameButSecret (c c' : Connection) : Prop where
  host : c'.host = c.host
  serial : c'.serial = c.serial

/-- The same header, unless it is the one of the secret. -/
def SameHeader (h h' : String × String) : Prop :=
  h'.1 = h.1 ∧ (h.1 ≠ "X-Secret" → h'.2 = h.2)

structure Request.SameButSecret (r r' : Request) : Prop where
  verb : r'.verb = r.verb
  url : r'.url = r.url
  headers : List.Forall₂ SameHeader r.headers r'.headers
  body : r'.body = r.body

structure Trace.SameButSecret (t t' : Trace) : Prop where
  drawn : t'.drawn = t.drawn
  sent : List.Forall₂ Request.SameButSecret t.sent t'.sent

/-- How an exchange ends hangs neither on its secret nor on the secrets of those before it. -/
def World.IgnoresSecret (w : World) : Prop :=
  ∀ sent sent' r r', List.Forall₂ Request.SameButSecret sent sent' → r.SameButSecret r' →
    w.respond sent' r' = w.respond sent r

structure Job.SameButSecret (j j' : Job) : Prop where
  connection : j.connection.SameButSecret j'.connection
  kind : j'.kind = j.kind
  details : j'.details = j.details
  key : j'.key = j.key

structure Query.SameButSecret (q q' : Query) : Prop where
  connection : q.connection.SameButSecret q'.connection
  kind : q'.kind = q.kind
  key : q'.key = q.key

inductive Prepared.SameButSecret : Prepared → Prepared → Prop
  | query {q q' : Query} (h : q.SameButSecret q') : SameButSecret (.query q) (.query q')
  | job {j j' : Job} (h : j.SameButSecret j') : SameButSecret (.job j) (.job j')

/-! ### Texts -/

namespace Connection
variable {c c' : Connection} (h : c.SameButSecret c')
include h

theorem SameButSecret.describedAs (name : String) : c'.describedAs name = c.describedAs name := by
  rw [Connection.describedAs, Connection.describedAs, h.host, h.serial]

theorem SameButSecret.description : c'.description = c.description :=
  h.describedAs "ConnParams"

theorem SameButSecret.performerDescription : c'.performerDescription = c.performerDescription := by
  unfold Connection.performerDescription
  rw [h.description]

theorem SameButSecret.settingsDescription (s : Settings) :
    Settings.description { s with connection := c' } =
      Settings.description { s with connection := c } := by
  unfold Settings.description
  dsimp only
  rw [h.describedAs]

theorem SameButSecret.url (path : String) : c'.url path = c.url path := by
  rw [Connection.url, Connection.url, h.host]

end Connection

theorem Request.SameButSecret.description {r r' : Request} (h : r.SameButSecret r') :
    r'.description = r.description := by
  have hnames : r'.headers.map (·.1) = r.headers.map (·.1) :=
    Session.map_eq_of_forall₂ h.headers fun _ _ hh => hh.1
  rw [Request.description, Request.description, h.verb, h.url, hnames, h.body]

theorem Trace.SameButSecret.descriptions {t t' : Trace} (h : t.SameButSecret t') :
    t'.sent.map Request.description = t.sent.map Request.description :=
  Session.map_eq_of_forall₂ h.sent fun _ _ hr => hr.description

/-! ### What a step takes from the world -/

namespace World
variable {w : World} {t t' : Trace}

theorem keyOrNew_sameButSecret (ht : t.SameButSecret t') (key : Option String) :
    (w.keyOrNew key t').1 = (w.keyOrNew key t).1 ∧
      (w.keyOrNew key t).2.SameButSecret (w.keyOrNew key t').2 := by
  cases key with
  | some key => exact ⟨rfl, ht⟩
  | none =>
    refine ⟨?_, congrArg (· + 1) ht.drawn, ht.sent⟩
    show (w.seed t'.drawn).key = (w.seed t.drawn).key
    rw [ht.drawn]

theorem respond_sameButSecret (hw : w.IgnoresSecret) (ht : t.SameButSecret t') {r r' : Request}
    (hr : r.SameButSecret r') : w.respond t'.sent r' = w.respond t.sent r :=
  hw t.sent t'.sent r r' ht.sent hr

end World

theorem Trace.SameButSecret.send {t t' : Trace} (ht : t.SameButSecret t') {r r' : Request}
    (hr : r.SameButSecret r') :
    Trace.SameButSecret { t with sent := t.sent ++ [r] } { t' with sent := t'.sent ++ [r'] } :=
  ⟨ht.drawn, List.rel_append ht.sent (.cons hr .nil)⟩

/-! ### Queries -/

theorem sameHeader_secret (s s' : String) : SameHeader ("X-Secret", s) ("X-Secret", s') :=
  ⟨rfl, fun h => absurd rfl h⟩

theorem sameHeader_refl (h : String × String) : SameHeader h h :=
  ⟨rfl, fun _ => rfl⟩

namespace Query
variable {w : World} {q q' : Query} {t t' : Trace}

theorem SameButSecret.request (h : q.SameButSecret q') (key : String) :
    (q.request key).SameButSecret (q'.request key) where
  verb := rfl
  url := by
    show q'.connection.url (q'.kind.path q'.connection.serial) =
      q.connection.url (q.kind.path q.connection.serial)
    rw [h.kind, h.connection.serial, h.connection.url]
  headers := .cons (sameHeader_secret ..) (.cons (sameHeader_refl _) .nil)
  body := rfl

theorem SameButSecret.step (hw : w.IgnoresSecret) (h : q.SameButSecret q')
    (ht : t.SameButSecret t') (s : QueryStep) :
    (q.step w s t).1.1.SameButSecret (q'.step w s t').1.1 ∧
      (q.step w s t).1.2.SameButSecret (q'.step w s t').1.2 ∧
      (q'.step w s t').2 = (q.step w s t).2 := by
  cases s with
  | key key =>
    obtain ⟨hkey, htrace⟩ := World.keyOrNew_sameButSecret (w := w) ht key
    exact ⟨⟨h.connection, h.kind, congrArg some hkey⟩, htrace, rfl⟩
  | perform =>
    obtain ⟨hkey, htrace⟩ := World.keyOrNew_sameButSecret (w := w) ht q.key
    have hrequest := h.request (w.keyOrNew q.key t).1
    simp only [Query.step, perform_eq, h.key, hkey]
    refine ⟨h, ⟨htrace.drawn, (ht.send hrequest).sent⟩, ?_⟩
    rw [World.respond_sameButSecret hw ht hrequest]

end Query

/-! ### Jobs -/

namespace Effect
variable {w : World}

theorem run_sameButSecret (e : Effect) {x x' : Job × Trace} (hj : x.1.SameButSecret x'.1)
    (ht : x.2.SameButSecret x'.2) :
    (e.run w x).1.SameButSecret (e.run w x').1 ∧ (e.run w x).2.SameButSecret (e.run w x').2 := by
  cases e with
  | skip => exact ⟨hj, ht⟩
  | pin key =>
    obtain ⟨hkey, htrace⟩ := World.keyOrNew_sameButSecret (w := w) ht key
    exact ⟨⟨hj.connection, hj.kind, hj.details, congrArg some hkey⟩, htrace⟩
  | write x => exact ⟨⟨hj.connection, hj.kind, congrArg x.run hj.details, hj.key⟩, ht⟩

theorem runAll_sameButSecret (es : List Effect) (x x' : Job × Trace)
    (hj : x.1.SameButSecret x'.1) (ht : x.2.SameButSecret x'.2) :
    (runAll w es x).1.SameButSecret (runAll w es x').1 ∧
      (runAll w es x).2.SameButSecret (runAll w es x').2 := by
  induction es generalizing x x' with
  | nil => exact ⟨hj, ht⟩
  | cons e es ih =>
    obtain ⟨hj, ht⟩ := e.run_sameButSecret (w := w) hj ht
    exact ih _ _ hj ht

end Effect

namespace Job
variable {w : World} {j j' : Job} {t t' : Trace}

theorem SameButSecret.request (h : j.SameButSecret j') (key : String) :
    (j.request key).SameButSecret (j'.request key) where
  verb := rfl
  url := by
    show j'.connection.url (j'.kind.path j'.connection.serial) =
      j.connection.url (j.kind.path j.connection.serial)
    rw [h.kind, h.connection.serial, h.connection.url]
  headers :=
    .cons (sameHeader_secret ..) (.cons (sameHeader_refl _) (.cons (sameHeader_refl _) .nil))
  body := congrArg (some ∘ Details.text) h.details

theorem SameButSecret.perform (hw : w.IgnoresSecret) (h : j.SameButSecret j')
    (ht : t.SameButSecret t') :
    (j'.perform w t').1 = (j.perform w t).1 ∧
      (j.perform w t).2.SameButSecret (j'.perform w t').2 := by
  have husable : j'.usableKey = j.usableKey := by rw [usableKey, usableKey, h.key]
  rw [perform_eq, perform_eq, husable]
  cases j.usableKey with
  | none => exact ⟨by rw [method, method, h.kind], ht⟩
  | some key =>
    have hrequest := h.request key
    have hrespond := World.respond_sameButSecret hw ht hrequest
    exact ⟨congrArg (fun o => Except.ok (Envelope.ofOutcome o)) hrespond, ht.send hrequest⟩

theorem SameButSecret.conclude (hw : w.IgnoresSecret) (s : JobStep) (verdict : Result Unit)
    {x x' : Job × Trace} (hj : x.1.SameButSecret x'.1) (ht : x.2.SameButSecret x'.2) :
    (conclude w s verdict x).1.1.SameButSecret (conclude w s verdict x').1.1 ∧
      (conclude w s verdict x).1.2.SameButSecret (conclude w s verdict x').1.2 ∧
      (conclude w s verdict x').2 = (conclude w s verdict x).2 := by
  unfold Job.conclude
  cases verdict with
  | error e => exact ⟨hj, ht, rfl⟩
  | ok =>
    cases s.sends with
    | false => exact ⟨hj, ht, rfl⟩
    | true =>
      obtain ⟨hanswer, htrace⟩ := hj.perform hw ht
      exact ⟨hj, htrace, congrArg (Except.map some) hanswer⟩

theorem SameButSecret.step (hw : w.IgnoresSecret) (h : j.SameButSecret j')
    (ht : t.SameButSecret t') (s : JobStep) :
    (j.step w s t).1.1.SameButSecret (j'.step w s t').1.1 ∧
      (j.step w s t).1.2.SameButSecret (j'.step w s t').1.2 ∧
      (j'.step w s t').2 = (j.step w s t).2 := by
  rw [step_eq, step_eq, h.kind]
  have hrun := Effect.runAll_sameButSecret (w := w) (s.effects j.kind).1 (j, t) (j', t') h ht
  exact SameButSecret.conclude hw s _ hrun.1 hrun.2

end Job

/-! ### Prepared operations -/

namespace Prepared
variable {w : World} {p p' : Prepared} {t t' : Trace}

/-- The details of a job; a query has none. -/
def details : Prepared → Details
  | query _ => .empty
  | job j => j.details

theorem SameButSecret.step (hw : w.IgnoresSecret) (h : p.SameButSecret p')
    (ht : t.SameButSecret t') (s : PreparedStep) :
    (p.step w s t).1.1.SameButSecret (p'.step w s t').1.1 ∧
      (p.step w s t).1.2.SameButSecret (p'.step w s t').1.2 ∧
      (p'.step w s t').2 = (p.step w s t).2 := by
  cases h with
  | job h =>
    obtain ⟨hj, htrace, hanswer⟩ := h.step hw ht s.onJob
    rw [step_job, step_job]
    exact ⟨.job hj, htrace, hanswer⟩
  | @query q q' h =>
    rcases s.common_or_merge with ⟨s', rfl⟩ | ⟨bulk, ignoreUnknown, rfl⟩
    · obtain ⟨hq, htrace, hanswer⟩ := h.step hw ht s'
      rw [step_query, step_query]
      exact ⟨.query hq, htrace, congrArg Except.ok hanswer⟩
    · rw [step_query_merge, step_query_merge, h.kind]
      exact ⟨.query h, ht, rfl⟩

theorem SameButSecret.view (h : p.SameButSecret p') : (p'.details, p'.key) = (p.details, p.key) := by
  cases h with
  | query h =>
    rw [key_query, key_query, h.key]
    rfl
  | job h => rw [key_job, key_job, h.key, details, details, h.details]

theorem prepare_sameButSecret {c c' : Connection} (h : c.SameButSecret c') (k : Kind) :
    (k.prepare c).SameButSecret (k.prepare c') := by
  unfold Kind.prepare
  split
  · exact .query ⟨h, rfl, rfl⟩
  · exact .job ⟨h, rfl, rfl, rfl⟩

end Prepared

/-! ### Sessions -/

/-- Whatever is done with the two operations and with copies of them, it gives the same results,
errors and envelopes, leaves them with the same details and keys, and sends requests that differ in
the secret at most and are described alike. -/
def Indistinguishable {σ α β : Type} (one : σ → α → Trace → (α × Trace) × β)
    (view : α → Details × Option String) (x x' : Session α) : Prop :=
  ∀ steps : List (SessionStep σ),
    let out := Session.run one steps x
    let out' := Session.run one steps x'
    out'.2 = out.2 ∧ out'.1.copies.map view = out.1.copies.map view ∧
      out.1.trace.SameButSecret out'.1.trace ∧
      out'.1.trace.sent.map Request.description = out.1.trace.sent.map Request.description

theorem indistinguishable_of_step {σ α β : Type} {one : σ → α → Trace → (α × Trace) × β}
    {view : α → Details × Option String} {R : α → α → Prop}
    (hview : ∀ a a', R a a' → view a' = view a)
    (hone : ∀ s a a' t t', R a a' → t.SameButSecret t' →
      R (one s a t).1.1 (one s a' t').1.1 ∧ (one s a t).1.2.SameButSecret (one s a' t').1.2 ∧
        (one s a' t').2 = (one s a t).2)
    {a a' : α} {t t' : Trace} (ha : R a a') (ht : t.SameButSecret t') :
    Indistinguishable one view (.single a t) (.single a' t') := by
  intro steps
  have hrun := Session.run_related (g := id) hone steps (Session.related_single ha ht)
  obtain ⟨⟨hcopies, htrace⟩, hanswers⟩ := hrun
  have hviews := Session.map_eq_of_forall₂ hcopies hview
  exact ⟨by simpa using hanswers, hviews, htrace, htrace.descriptions⟩

namespace Connection

theorem SameButSecret.device_error_iff {c c' : Connection} (h : c.SameButSecret c')
    (e : ClientError) : Device.make c = .error e ↔ Device.make c' = .error e := by
  rw [Device.make_eq_error_iff, Device.make_eq_error_iff, h.serial]

/-- Over connections that differ in the secret at most, with a gateway that does not mind it, the
same operations go the same way, and only the header of the secret tells their requests apart; a
device is refused over both or over none, and no description shows the secret. -/
theorem secret_noninterference {c c' : Connection} (hc : c.SameButSecret c') {w : World}
    (hw : w.IgnoresSecret) {t t' : Trace} (ht : t.SameButSecret t') :
    (∀ (k : Kind) (hk : k.isQuery = false),
      Indistinguishable (Job.step w) (fun j => (j.details, j.key)) (.single (.fresh c k hk) t)
        (.single (.fresh c' k hk) t')) ∧
    (∀ (k : Kind) (hk : k.isQuery = true),
      Indistinguishable (Query.step w) (fun q => (.empty, q.key)) (.single (.fresh c k hk) t)
        (.single (.fresh c' k hk) t')) ∧
    (∀ k : Kind, Indistinguishable (Prepared.step w) (fun p => (p.details, p.key))
      (.single (k.prepare c) t) (.single (k.prepare c') t')) ∧
    (∀ (d d' : Device) (k : DeviceKind), d.connection = c → d'.connection = c' →
      Indistinguishable (Prepared.step w) (fun p => (p.details, p.key)) (.single (d.prepare k) t)
        (.single (d'.prepare k) t')) ∧
    (∀ (s s' : Server) (k : ServerKind), s.connection = c → s'.connection = c' →
      Indistinguishable (Prepared.step w) (fun p => (p.details, p.key)) (.single (s.prepare k) t)
        (.single (s'.prepare k) t')) ∧
    (∀ e, Device.make c = .error e ↔ Device.make c' = .error e) ∧
    c'.description = c.description ∧ c'.performerDescription = c.performerDescription ∧
    ∀ s : Settings, Settings.description { s with connection := c' } =
      Settings.description { s with connection := c } := by
  have hprepared (k : Kind) : Indistinguishable (Prepared.step w) (fun p => (p.details, p.key))
      (.single (k.prepare c) t) (.single (k.prepare c') t') :=
    indistinguishable_of_step (R := Prepared.SameButSecret) (fun p p' h => h.view)
      (fun s p p' t t' h ht => h.step hw ht s) (Prepared.prepare_sameButSecret hc k) ht
  refine ⟨fun k hk => ?_, fun k hk => ?_, hprepared, ?_, ?_, hc.device_error_iff, hc.description,
    hc.performerDescription, hc.settingsDescription⟩
  · have hfresh : (Job.fresh c k hk).SameButSecret (Job.fresh c' k hk) := ⟨hc, rfl, rfl, rfl⟩
    refine indistinguishable_of_step (R := Job.SameButSecret) (fun j j' h => ?_) ?_ hfresh ht
    · rw [h.details, h.key]
    · exact fun s j j' t t' h ht => h.step hw ht s
  · have hfresh : (Query.fresh c k hk).SameButSecret (Query.fresh c' k hk) := ⟨hc, rfl, rfl⟩
    refine indistinguishable_of_step (R := Query.SameButSecret) (fun q q' h => ?_) ?_ hfresh ht
    · rw [h.key]
    · exact fun s q q' t t' h ht => h.step hw ht s
  · rintro d d' k rfl rfl
    rw [d.prepare_eq, d'.prepare_eq]
    exact hprepared (.device k)
  · rintro s s' k rfl rfl
    rw [s.prepare_eq, s'.prepare_eq]
    exact hprepared (.server k)

/-! ### A gateway that sends a body back -/

/-- Every request is answered with its own body. -/
def echo : World where
  seed := .ofNat
  respond _ r := .replied ⟨200, some "kkm", (r.body.getD "").toUTF8, 0⟩

theorem echo_ignoresSecret : echo.IgnoresSecret := by
  rintro sent sent' r r' - hr
  simp only [echo, hr.body]

theorem secret_noninterference_sale :
    let c : Connection := ⟨"till", "first", "42"⟩
    let c' : Connection := ⟨"till", "second", "42"⟩
    c.SameButSecret c' ∧ echo.IgnoresSecret ∧ Trace.SameButSecret .start .start ∧
      Indistinguishable (Job.step echo) (fun j => (j.details, j.key))
        (.single (.fresh c (.device .sell) rfl) .start)
        (.single (.fresh c' (.device .sell) rfl) .start) ∧
      Settings.description { connection := c' } = Settings.description { connection := c } := by
  intro c c'
  have hc : c.SameButSecret c' := ⟨rfl, rfl⟩
  have ht : Trace.SameButSecret .start .start := ⟨rfl, .nil⟩
  have h := secret_noninterference hc echo_ignoresSecret ht
  obtain ⟨hjob, -, -, -, -, -, -, -, hsettings⟩ := h
  exact ⟨hc, echo_ignoresSecret, ht, hjob (.device .sell) rfl, hsettings {}⟩

end Connection
end Till
