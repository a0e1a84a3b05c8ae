import Till.Operation.Prepared
import Till.Proofs.Operation.Key
import Till.Proofs.Operation.Session

/-!
# Prepared operations

An operation that is prepared from a kind has the steps that queries and jobs have in common
(`PreparedStep.onJob`, `QueryStep.common`), and takes each of them as the query or the job would
(`Prepared.step_query`, `Prepared.step_job`). The lists over the kinds are compared one by one: what
is prepared for a kind with what stands under its name and with the kind itself
(`Device.prepare_eq_named`, `Device.prepare_eq`), what the operation says of itself with its kind
(`Prepared.method_eq`, `Prepared.isQuery_eq`), and the kind with the list it is in
(`Kind.method_device`, `Kind.isQuery_device`). Main statement: what a device or the server prepares
for a kind cannot be told from what it offers under the name of that kind, whatever a caller does
with it and with copies of it, and all that it sends is for that kind (`Prepared.prepare_dispatches`).
-/

namespace Till

/-! ### Requests -/

/-- The request is one for the kind over the connection, under any key and with any body. -/
structure Request.IsFor (r : Request) (k : Kind) (c : Connection) : Prop where
  verb : r.verb = .get ↔ k.isQuery = true
  url : r.url = c.url (k.path c.serial)
  secret : r.header? "X-Secret" = some c.secret

theorem Request.header?_secret {r : Request} {secret : String} {rest : List (String × String)}
    (h : r.headers = ("X-Secret", secret) :: rest) : r.header? "X-Secret" = some secret := by
  have hname : Text.eqIgnoreAsciiCase "X-Secret" "X-Secret" = true := by decide
  simp [header?, h, hname]

/-- Only requests of a class are sent from the one trace to the other. -/
def Trace.SendsOnly (P : Request → Prop) (t t' : Trace) : Prop :=
  ∃ rs : List Request, t'.sent = t.sent ++ rs ∧ ∀ r ∈ rs, P r

namespace Trace
variable {P Q : Request → Prop} {t t' t'' : Trace}

theorem sendsOnly_of_sent_eq (h : t'.sent = t.sent) : t.SendsOnly P t' :=
  ⟨[], by rw [h, List.append_nil], nofun⟩

theorem sendsOnly_of_sent_concat {r : Request} (h : t'.sent = t.sent ++ [r]) (hr : P r) :
    t.SendsOnly P t' := by
  refine ⟨[r], h, fun r' hr' => ?_⟩
  rw [List.mem_singleton.1 hr']
  exact hr

theorem SendsOnly.imp (h : t.SendsOnly P t') (hPQ : ∀ r, P r → Q r) : t.SendsOnly Q t' := by
  obtain ⟨rs, hsent, hrs⟩ := h
  exact ⟨rs, hsent, fun r hr => hPQ r (hrs r hr)⟩

theorem SendsOnly.trans (h : t.SendsOnly P t') (h' : t'.SendsOnly P t'') : t.SendsOnly P t'' := by
  obtain ⟨rs, hsent, hrs⟩ := h
  obtain ⟨rs', hsent', hrs'⟩ := h'
  refine ⟨rs ++ rs', by rw [hsent', hsent, List.append_assoc], fun r hr => ?_⟩
  rcases List.mem_append.1 hr with hr | hr
  · exact hrs r hr
  · exact hrs' r hr

end Trace

namespace Query
variable {w : World}

/-- The request for the query under a key. -/
def request (q : Query) (key : String) : Request :=
  q.connection.getRequest q.path key

theorem request_isFor (q : Query) (key : String) : (q.request key).IsFor q.kind q.connection where
  verb := iff_of_true rfl q.isQuery
  url := rfl
  secret := Request.header?_secret rfl

theorem key?_request (q : Query) (key : String) : (q.request key).key? = some key := by
  have h : Text.eqIgnoreAsciiCase "X-Secret" "X-Idempotency-Key" = false := by decide
  have h' : Text.eqIgnoreAsciiCase "X-Idempotency-Key" "X-Idempotency-Key" = true := by decide
  simp [Request.key?, Request.header?, request, Connection.getRequest, h, h']

theorem perform_eq (q : Query) (t : Trace) :
    q.perform w t =
      (.ofOutcome (w.respond t.sent (q.request (w.keyOrNew q.key t).1)),
        { (w.keyOrNew q.key t).2 with
          sent := t.sent ++ [q.request (w.keyOrNew q.key t).1] }) := by
  unfold perform Connection.get
  cases q.key <;> rfl

end Query

theorem Job.request_isFor (j : Job) (key : String) : (j.request key).IsFor j.kind j.connection where
  verb := iff_of_false nofun (by simp [j.isJob])
  url := rfl
  secret := Request.header?_secret rfl

namespace Prepared
variable {w : World}

def connection : Prepared → Connection
  | query q => q.connection
  | job j => j.connection

theorem path_eq (p : Prepared) : p.path = p.kind.path p.connection.serial := by
  cases p with
  | query q => exact path_query q
  | job j => exact path_job j

/-- The request for the operation under a key. -/
def request : Prepared → String → Request
  | query q => q.request
  | job j => j.request

theorem request_isFor (p : Prepared) (key : String) :
    (p.request key).IsFor p.kind p.connection := by
  cases p with
  | query q => exact q.request_isFor key
  | job j => exact j.request_isFor key

/-- The key under which the operation is sent, if it can be, and what the world has given by then. -/
def sendingKey (p : Prepared) (w : World) (t : Trace) : Option (String × Trace) :=
  match p with
  | query q => some (w.keyOrNew q.key t)
  | job j => j.usableKey.map fun key => (key, t)

theorem perform_eq (p : Prepared) (t : Trace) :
    p.perform w t =
      match p.sendingKey w t with
      | some (key, t') =>
        (.ok (.ofOutcome (w.respond t.sent (p.request key))),
          { t' with sent := t.sent ++ [p.request key] })
      | none => (.error (.missingKey p.method), t) := by
  cases p with
  | query q =>
    rw [perform_query, Query.perform_eq]
    rfl
  | job j =>
    rw [perform_job, Job.perform_eq, method_eq]
    simp only [sendingKey]
    cases j.usableKey <;> rfl

/-- An operation that answers has sent one request, and the answer is what it came to. -/
theorem exists_request_of_perform {p : Prepared} {t : Trace} {e : Envelope}
    (h : (p.perform w t).1 = .ok e) :
    ∃ r : Request, (p.perform w t).2.sent = t.sent ++ [r] ∧ r.IsFor p.kind p.connection ∧
      e = .ofOutcome (w.respond t.sent r) := by
  rw [perform_eq] at h ⊢
  cases hk : p.sendingKey w t with
  | none =>
    rw [hk] at h
    cases h
  | some found =>
    rw [hk] at h
    cases h
    exact ⟨_, rfl, p.request_isFor found.1, rfl⟩

end Prepared

/-! ### Steps in common -/

/-- How a job takes a step that all operations have. -/
def PreparedStep.onJob : PreparedStep → JobStep
  | .key k => .key k
  | merge bulk ignoreUnknown => .merge bulk ignoreUnknown
  | perform => .perform

/-- All operations have the steps of a query. -/
def QueryStep.common : QueryStep → PreparedStep
  | .key k => .key k
  | perform => .perform

/-- All but merging is one of them. -/
theorem PreparedStep.common_or_merge (s : PreparedStep) :
    (∃ s' : QueryStep, s = s'.common) ∨ ∃ bulk ignoreUnknown, s = .merge bulk ignoreUnknown := by
  cases s with
  | key k => exact .inl ⟨.key k, rfl⟩
  | perform => exact .inl ⟨.perform, rfl⟩
  | merge bulk ignoreUnknown => exact .inr ⟨bulk, ignoreUnknown, rfl⟩

namespace Prepared
variable {w : World}

theorem step_query (s : QueryStep) (q : Query) (t : Trace) :
    (query q).step w s.common t =
      ((.query (q.step w s t).1.1, (q.step w s t).1.2), .ok (q.step w s t).2) := by
  cases s with
  | key key =>
    rw [QueryStep.common, step, pinKey_query]
    rfl
  | perform =>
    rw [QueryStep.common, step, perform_query]
    rfl

theorem step_query_merge (bulk : Fields) (ignoreUnknown : Bool) (q : Query) (t : Trace) :
    (query q).step w (.merge bulk ignoreUnknown) t =
      ((.query q, t), (rejectBulk q.kind.method bulk ignoreUnknown).map fun _ => none) := by
  rw [step, merge_query]
  rfl

theorem step_job (s : PreparedStep) (j : Job) (t : Trace) :
    (job j).step w s t =
      ((.job (j.step w s.onJob t).1.1, (j.step w s.onJob t).1.2), (j.step w s.onJob t).2) := by
  cases s with
  | key key =>
    rw [PreparedStep.onJob, step, pinKey_job]
    rfl
  | merge bulk ignoreUnknown =>
    rw [PreparedStep.onJob, step, merge_job]
    rfl
  | perform =>
    rw [PreparedStep.onJob, step, perform_job]
    rfl

/-! ### What steps leave alone -/

theorem exists_step_query (s : PreparedStep) (q : Query) (t : Trace) :
    ∃ q' : Query, ((query q).step w s t).1.1 = .query q' ∧ q'.kind = q.kind ∧
      q'.connection = q.connection := by
  rcases s.common_or_merge with ⟨s', rfl⟩ | ⟨bulk, ignoreUnknown, rfl⟩
  · rw [step_query]
    cases s' <;> exact ⟨_, rfl, rfl, rfl⟩
  · rw [step_query_merge]
    exact ⟨q, rfl, rfl, rfl⟩

@[simp] theorem step_kind (s : PreparedStep) (p : Prepared) (t : Trace) :
    (p.step w s t).1.1.kind = p.kind := by
  cases p with
  | query q =>
    obtain ⟨q', h, hkind, -⟩ := exists_step_query (w := w) s q t
    rw [h]
    exact hkind
  | job j =>
    rw [step_job]
    exact Job.step_kind s.onJob j t

@[simp] theorem step_connection (s : PreparedStep) (p : Prepared) (t : Trace) :
    (p.step w s t).1.1.connection = p.connection := by
  cases p with
  | query q =>
    obtain ⟨q', h, -, hconnection⟩ := exists_step_query (w := w) s q t
    rw [h]
    exact hconnection
  | job j =>
    rw [step_job]
    exact Job.step_connection s.onJob j t

theorem perform_sent (p : Prepared) (t : Trace) :
    (p.perform w t).2.sent = t.sent ∨ ∃ key, (p.perform w t).2.sent = t.sent ++ [p.request key] := by
  rw [perform_eq]
  cases p.sendingKey w t with
  | none => exact .inl rfl
  | some found => exact .inr ⟨found.1, rfl⟩

@[simp] theorem pinKey_sent (p : Prepared) (key : Option String) (t : Trace) :
    (p.pinKey key w t).2.sent = t.sent := by
  cases p with
  | query q =>
    rw [pinKey_query]
    cases key <;> rfl
  | job j =>
    rw [pinKey_job]
    cases key <;> rfl

/-- What a bulk record leaves alone; to a query it does nothing at all. -/
structure Kept (p : Prepared) (t : Trace) (p' : Prepared) (t' : Trace) : Prop where
  kind : p'.kind = p.kind
  connection : p'.connection = p.connection
  sent : t'.sent = t.sent
  query : p.isQuery = true → p' = p ∧ t' = t

theorem Kept.trans {p₁ p₂ p₃ : Prepared} {t₁ t₂ t₃ : Trace} (h : Kept p₁ t₁ p₂ t₂)
    (h' : Kept p₂ t₂ p₃ t₃) : Kept p₁ t₁ p₃ t₃ where
  kind := h'.kind.trans h.kind
  connection := h'.connection.trans h.connection
  sent := h'.sent.trans h.sent
  query hq := by
    obtain ⟨rfl, rfl⟩ := h.query hq
    exact h'.query hq

theorem kept_merge (p : Prepared) (bulk : Fields) (ignoreUnknown : Bool) (t : Trace) :
    Kept p t (p.merge w bulk ignoreUnknown t).1.1 (p.merge w bulk ignoreUnknown t).1.2 := by
  cases p with
  | query q =>
    rw [merge_query]
    exact ⟨rfl, rfl, rfl, fun _ => ⟨rfl, rfl⟩⟩
  | job j =>
    have hjob : ¬ (job j).isQuery = true := by simp [isQuery_eq, kind, j.isJob]
    rw [merge_job, Job.merge_eq]
    exact ⟨Effect.runAll_kind _ (j, t), Effect.runAll_connection _ (j, t),
      Effect.runAll_sent _ (j, t), fun hq => absurd hq hjob⟩

theorem step_sendsOnly (s : PreparedStep) (p : Prepared) (t : Trace) :
    t.SendsOnly (·.IsFor p.kind p.connection) (p.step w s t).1.2 := by
  cases s with
  | key key => exact Trace.sendsOnly_of_sent_eq (p.pinKey_sent key t)
  | merge bulk ignoreUnknown => exact Trace.sendsOnly_of_sent_eq (p.kept_merge bulk ignoreUnknown t).sent
  | perform =>
    rcases p.perform_sent (w := w) t with h | ⟨key, h⟩
    · exact Trace.sendsOnly_of_sent_eq h
    · exact Trace.sendsOnly_of_sent_concat h (p.request_isFor key)

/-- All that is sent in a session on the operation is for its kind, over its connection. -/
theorem session_sendsOnly (p : Prepared) (steps : List (SessionStep PreparedStep)) (t : Trace) :
    t.SendsOnly (·.IsFor p.kind p.connection)
      (Session.run (Prepared.step w) steps (.single p t)).1.trace := by
  have hone : ∀ s (q : Prepared) u, q.kind = p.kind ∧ q.connection = p.connection →
      t.SendsOnly (·.IsFor p.kind p.connection) u →
      ((q.step w s u).1.1.kind = p.kind ∧ (q.step w s u).1.1.connection = p.connection) ∧
        t.SendsOnly (·.IsFor p.kind p.connection) (q.step w s u).1.2 := by
    rintro s q u ⟨hkind, hconnection⟩ hu
    have hstep := q.step_sendsOnly (w := w) s u
    rw [hkind, hconnection] at hstep
    exact ⟨⟨(step_kind s q u).trans hkind, (step_connection s q u).trans hconnection⟩,
      hu.trans hstep⟩
  have hcopies : ∀ q ∈ (Session.single p t).copies, q.kind = p.kind ∧ q.connection = p.connection := by
    intro q hq
    rw [List.mem_singleton.1 hq]
    exact ⟨rfl, rfl⟩
  exact (Session.run_invariant hone steps hcopies (Trace.sendsOnly_of_sent_eq rfl)).2

end Prepared

/-! ### Operations by name -/

/-- The operation that a device offers under the name of a kind. -/
def Device.named (d : Device) : DeviceKind → Query ⊕ Job
  | .status => .inl d.status
  | .fullStatus => .inl d.fullStatus
  | .baseStatus => .inl d.baseStatus
  | .cashStat => .inl d.cashStat
  | .printDemo => .inr d.printDemo
  | .printNonFiscalDoc => .inr d.printNonFiscalDoc
  | .printInfo => .inr d.printInfo
  | .printFnRegistrations => .inr d.printFnRegistrations
  | .printOfdExchangeStatus => .inr d.printOfdExchangeStatus
  | .printOfdTest => .inr d.printOfdTest
  | .printCloseShiftReports => .inr d.printCloseShiftReports
  | .printLastDocument => .inr d.printLastDocument
  | .cashIn => .inr d.cashIn
  | .cashOut => .inr d.cashOut
  | .closeShift => .inr d.closeShift
  | .sell => .inr d.sell
  | .sellReturn => .inr d.sellReturn
  | .reportX => .inr d.reportX
  | .resetState => .inr d.resetState

/-- The operation that the server offers under the name of a kind. -/
def Server.named (s : Server) : ServerKind → Query ⊕ Job
  | .ping => .inl s.ping
  | .learn => .inr s.learn
  | .resetRegistry => .inr s.resetRegistry

/-- The operation of a kind over a connection, with nothing set. -/
def Kind.prepare (k : Kind) (c : Connection) : Prepared :=
  if h : k.isQuery = true then .query (.fresh c k h)
  else .job (.fresh c k (Bool.eq_false_iff.2 h))

namespace Kind
variable (k : Kind) (c : Connection)

theorem prepare_kind : (k.prepare c).kind = k := by
  unfold prepare
  split <;> rfl

theorem prepare_connection : (k.prepare c).connection = c := by
  unfold prepare
  split <;> rfl

theorem prepare_key : (k.prepare c).key = none := by
  unfold prepare
  split
  · exact Prepared.key_query _
  · exact Prepared.key_job _

end Kind

/-! ### The lists of what is prepared -/

/-- What is prepared for a kind is what stands under its name. -/
theorem Device.prepare_eq_named (d : Device) (k : DeviceKind) :
    d.prepare k = (d.named k).elim .query .job := by
  cases k <;> rfl

theorem Server.prepare_eq_named (s : Server) (k : ServerKind) :
    s.prepare k = (s.named k).elim .query .job := by
  cases k <;> rfl

/-- What is prepared for a kind is of that kind. -/
theorem Device.prepare_eq (d : Device) (k : DeviceKind) :
    d.prepare k = (Kind.device k).prepare d.connection := by
  cases k <;> rfl

theorem Server.prepare_eq (s : Server) (k : ServerKind) :
    s.prepare k = (Kind.server k).prepare s.connection := by
  cases k <;> rfl

namespace Prepared
variable {w : World}

/-- The prepared operation behaves as another one in every session: it answers the same to each
step, its copies have the same keys, and the same is sent and made up on the way. -/
def Simulates (w : World) (p : Prepared) : Query ⊕ Job → Prop
  | .inl q => ∀ (steps : List (SessionStep QueryStep)) (t : Trace),
      let own := Session.run (Query.step w) steps (.single q t)
      let prepared := Session.run (fun s => Prepared.step w s.common) steps (.single p t)
      prepared.2 = own.2.map (Option.map .ok) ∧
        prepared.1.copies.map key = own.1.copies.map Query.key ∧ prepared.1.trace = own.1.trace
  | .inr j => ∀ (steps : List (SessionStep PreparedStep)) (t : Trace),
      let own := Session.run (fun s => Job.step w s.onJob) steps (.single j t)
      let prepared := Session.run (Prepared.step w) steps (.single p t)
      prepared.2 = own.2 ∧
        prepared.1.copies.map key = own.1.copies.map Job.key ∧ prepared.1.trace = own.1.trace

theorem simulates_query (q : Query) : (query q).Simulates w (.inl q) := by
  intro steps t
  have hrun := Session.run_map (fun s q t => step_query (w := w) s q t) steps (.single q t)
  rw [show (Session.single q t).map query = .single (query q) t from rfl] at hrun
  have hkeys : key ∘ query = Query.key := funext key_query
  dsimp only
  rw [hrun]
  exact ⟨rfl, by rw [Session.map, List.map_map, hkeys], rfl⟩

theorem simulates_job (j : Job) : (job j).Simulates w (.inr j) := by
  intro steps t
  have hrun := Session.run_map (g := id) (fun s j t => step_job (w := w) s j t) steps (.single j t)
  rw [show (Session.single j t).map job = .single (job j) t from rfl] at hrun
  have hkeys : key ∘ job = Job.key := funext key_job
  dsimp only
  rw [hrun]
  exact ⟨by simp, by rw [Session.map, List.map_map, hkeys], rfl⟩

theorem simulates_elim (o : Query ⊕ Job) : (o.elim query job).Simulates w o := by
  cases o with
  | inl q => exact simulates_query q
  | inr j => exact simulates_job j

/-- What is prepared for a kind, of which its list says a method and whether it only reads, is the
operation of that name. -/
structure Dispatches (w : World) (p : Prepared) (k : Kind) (m : String) (reads : Bool)
    (c : Connection) (o : Query ⊕ Job) : Prop where
  method : p.method = m
  isQuery : p.isQuery = reads
  simulates : p.Simulates w o
  /-- What is sent in a session goes to the method of the kind, by the verb that its list gives it. -/
  sends : ∀ (steps : List (SessionStep PreparedStep)) (t : Trace),
    t.SendsOnly (fun r => (r.verb = .get ↔ reads = true) ∧ r.IsFor k c)
      (Session.run (Prepared.step w) steps (.single p t)).1.trace

theorem dispatches_of_simulates {k : Kind} {m : String} {reads : Bool} {c : Connection}
    {o : Query ⊕ Job} (hmethod : k.method = m) (hquery : k.isQuery = reads)
    (h : (k.prepare c).Simulates w o) : (k.prepare c).Dispatches w k m reads c o where
  method := by rw [method_eq, k.prepare_kind, hmethod]
  isQuery := by rw [isQuery_eq, k.prepare_kind, hquery]
  simulates := h
  sends steps t := by
    have hsends := (k.prepare c).session_sendsOnly (w := w) steps t
    rw [k.prepare_kind, k.prepare_connection] at hsends
    refine hsends.imp fun r hr => ⟨?_, hr⟩
    rw [← hquery]
    exact hr.verb

/-- A device and the server prepare for each kind the operation that they offer under its name, and
it says of itself what they list for the kind. -/
theorem prepare_dispatches (w : World) :
    (∀ (d : Device) (k : DeviceKind),
      (d.prepare k).Dispatches w (.device k) k.method k.isQuery d.connection (d.named k)) ∧
    ∀ (s : Server) (k : ServerKind),
      (s.prepare k).Dispatches w (.server k) k.method k.isQuery s.connection (s.named k) := by
  constructor
  · intro d k
    have hnamed : (d.prepare k).Simulates w (d.named k) := by
      rw [d.prepare_eq_named]
      exact simulates_elim _
    rw [d.prepare_eq] at hnamed ⊢
    exact dispatches_of_simulates (Kind.method_device k) (Kind.isQuery_device k) hnamed
  · intro s k
    have hnamed : (s.prepare k).Simulates w (s.named k) := by
      rw [s.prepare_eq_named]
      exact simulates_elim _
    rw [s.prepare_eq] at hnamed ⊢
    exact dispatches_of_simulates (Kind.method_server k) (Kind.isQuery_server k) hnamed

end Prepared
end Till
