import Till.CommandLine.Run
import Till.Proofs.Gateway.Address
import Till.Proofs.Operation.Dispatch

/-!
# What an invocation sends

All that can go wrong with an invocation goes wrong before the first request: an operation that has
been prepared (`Ready`) is refused at once or can be sent any number of times, since sending changes
nothing about it. Main statement: an invocation fails and has sent nothing, or it has sent the
number of requests that was asked for, one like the other (`Invocation.run_allOrNothing`).
-/

namespace Till

namespace Prepared
variable {w : World}

theorem key?_request (p : Prepared) (key : String) : (p.request key).key? = some key := by
  cases p with
  | query q => exact q.key?_request key
  | job j => exact j.key?_request key

theorem pinKey_kind (p : Prepared) (key : Option String) (t : Trace) :
    (p.pinKey key w t).1.kind = p.kind :=
  step_kind (.key key) p t

theorem pinKey_connection (p : Prepared) (key : Option String) (t : Trace) :
    (p.pinKey key w t).1.connection = p.connection :=
  step_connection (.key key) p t

theorem pinKey_key (p : Prepared) (key : Option String) (t : Trace) :
    (p.pinKey key w t).1.key = some (key.getD (w.seed t.drawn).key) := by
  cases p with
  | query q =>
    rw [pinKey_query, key_query]
    cases key <;> rfl
  | job j =>
    rw [pinKey_job, key_job]
    cases key <;> rfl

end Prepared

namespace CommandLine

/-! ### Sending again and again -/

section
variable {w : World}

theorem send_of_sendingKey {p : Prepared} {key : String}
    (h : ∀ t, p.sendingKey w t = some (key, t)) (n : Nat) (t : Trace) :
    ∃ es, es.length = n ∧
      send p w n t = (.ok es, { t with sent := t.sent ++ List.replicate n (p.request key) }) := by
  induction n generalizing t with
  | zero => exact ⟨[], rfl, by simp [send]⟩
  | succ n ih =>
    obtain ⟨es, hes, hsend⟩ := ih { t with sent := t.sent ++ [p.request key] }
    refine ⟨.ofOutcome (w.respond t.sent (p.request key)) :: es, congrArg (· + 1) hes, ?_⟩
    simp only [send, Prepared.perform_eq, h, hsend, Except.map, List.append_assoc]
    rfl

theorem send_of_sendingKey_eq_none {p : Prepared} {t : Trace} (h : p.sendingKey w t = none)
    (n : Nat) : send p w (n + 1) t = (.error (.missingKey p.method), t) := by
  simp only [send, Prepared.perform_eq, h]

theorem send_job_of_usable {j : Job} {key : String} (h : j.usableKey = some key) (n : Nat)
    (t : Trace) :
    ∃ es, es.length = n ∧
      send (.job j) w n t = (.ok es, { t with sent := t.sent ++ List.replicate n (j.request key) }) := by
  have hkey (t : Trace) : (Prepared.job j).sendingKey w t = some (key, t) := by
    rw [Prepared.sendingKey, h]
    rfl
  exact send_of_sendingKey hkey n t

theorem send_job_of_unusable {j : Job} (h : j.usableKey = none) (n : Nat) (t : Trace) :
    send (.job j) w (n + 1) t = (.error (.missingKey j.method), t) := by
  have hkey : (Prepared.job j).sendingKey w t = none := by
    rw [Prepared.sendingKey, h]
    rfl
  rw [send_of_sendingKey_eq_none hkey, Prepared.method_eq]
  rfl

/-- A query without a key is sent under a new one each time. -/
theorem send_query_of_noKey {q : Query} (h : q.key = none) (n : Nat) (t : Trace) :
    ∃ es, es.length = n ∧
      send (.query q) w n t = (.ok es, ⟨t.drawn + n,
        t.sent ++ (List.range n).map fun m => q.request (w.seed (t.drawn + m)).key⟩) := by
  induction n generalizing t with
  | zero => exact ⟨[], rfl, by simp [send]⟩
  | succ n ih =>
    have hkey : (Prepared.query q).sendingKey w t =
        some ((w.seed t.drawn).key, { t with drawn := t.drawn + 1 }) := by
      rw [Prepared.sendingKey, h]
      rfl
    let r := q.request (w.seed t.drawn).key
    obtain ⟨es, hes, hsend⟩ := ih ⟨t.drawn + 1, t.sent ++ [r]⟩
    refine ⟨.ofOutcome (w.respond t.sent r) :: es, congrArg (· + 1) hes, ?_⟩
    have hdrawn : t.drawn + 1 + n = t.drawn + (n + 1) := by omega
    have hseeds : (List.range (n + 1)).map (fun m => q.request (w.seed (t.drawn + m)).key) =
        r :: (List.range n).map fun m => q.request (w.seed (t.drawn + 1 + m)).key := by
      rw [List.range_succ_eq_map, List.map_cons, List.map_map]
      refine congrArg (r :: ·) (List.map_congr_left fun m _ => ?_)
      show q.request (w.seed (t.drawn + (m + 1))).key = q.request (w.seed (t.drawn + 1 + m)).key
      rw [Nat.add_comm m 1, Nat.add_assoc]
    have hperform : (Prepared.query q).perform w t =
        (.ok (.ofOutcome (w.respond t.sent r)), ⟨t.drawn + 1, t.sent ++ [r]⟩) := by
      rw [Prepared.perform_eq, hkey]
      rfl
    simp only [send, hperform, hsend, Except.map]
    rw [hdrawn, hseeds, List.append_assoc]
    rfl

end

/-! ### What is ready to be sent -/

/-- The kind that a task names. -/
def Task.kind? : Task → Result Kind
  | .device a => (DeviceKind.parse a.kind).map .device
  | .server a => (ServerKind.parse a.kind).map .server
  | .learn _ => .ok (.server .learn)

/-- The key that a task gives. -/
def Task.key? : Task → Option String
  | .device a => a.key
  | .server a => a.key
  | .learn _ => none

/-- The operation has the kind and the connection, nothing has been sent, and it has a key if it
needs one or one is given. -/
structure Ready (w : World) (k : Kind) (c : Connection) (argument : Option String) (p : Prepared)
    (t : Trace) : Prop where
  kind : p.kind = k
  connection : p.connection = c
  sent : t.sent = []
  pinned : k.isQuery = false ∨ argument.isSome = true →
    ∃ m, p.key = some (argument.getD (w.seed m).key)
  unpinned : k.isQuery = true → argument = none → p.key = none ∧ t.drawn = 0

theorem not_pinned_iff {k : Kind} {argument : Option String} :
    ¬ (k.isQuery = false ∨ argument.isSome = true) ↔ k.isQuery = true ∧ argument = none := by
  cases argument <;> simp

theorem ready_pinKey {w : World} {p : Prepared} {t : Trace} {argument : Option String}
    (ht : t.sent = []) (h : p.kind.isQuery = false ∨ argument.isSome = true) :
    Ready w p.kind p.connection argument (p.pinKey argument w t).1 (p.pinKey argument w t).2 where
  kind := p.pinKey_kind argument t
  connection := p.pinKey_connection argument t
  sent := (p.pinKey_sent argument t).trans ht
  pinned _ := ⟨t.drawn, p.pinKey_key argument t⟩
  unpinned hq ha := absurd h (not_pinned_iff.2 ⟨hq, ha⟩)

namespace Sending
variable {a : Sending} {s : Settings} {w : World}

/-- The record of defaults that is merged. -/
def defaults (a : Sending) (s : Settings) : Fields :=
  if a.noDefaults then .empty else s.defaults

/-- A job gets a key, whether one is given or not. -/
theorem pins_job (a : Sending) (j : Job) :
    (a.key.isSome || !(Prepared.job j).isQuery) = true := by
  rw [Bool.or_eq_true, Bool.not_eq_true', Prepared.isQuery_eq]
  exact .inr j.isJob

/-- Preparing merges two records and then pins a key, or none. -/
theorem exists_merges_of_prepare {p p' : Prepared} {t t' : Trace}
    (h : a.prepare s w p t = .ok (p', t')) :
    ∃ p₁ t₁ bulk p₂ t₂, p.merge w (a.defaults s) true t = ((p₁, t₁), .ok ()) ∧ a.bulk = .ok bulk ∧
      p₁.merge w bulk false t₁ = ((p₂, t₂), .ok ()) ∧
      (p', t') = if a.key.isSome || !p₂.isQuery then p₂.pinKey a.key w t₂ else (p₂, t₂) := by
  unfold prepare at h
  dsimp only at h
  rw [← defaults] at h
  rcases hm : p.merge w (a.defaults s) true t with ⟨⟨p₁, t₁⟩, verdict⟩
  rw [hm] at h
  obtain ⟨⟨⟩, hv, h⟩ := Except.bind_eq_ok_iff.1 h
  obtain ⟨bulk, hbulk, h⟩ := Except.bind_eq_ok_iff.1 h
  rcases hm' : p₁.merge w bulk false t₁ with ⟨⟨p₂, t₂⟩, verdict'⟩
  rw [hm'] at h
  obtain ⟨⟨⟩, hv', h⟩ := Except.bind_eq_ok_iff.1 h
  cases hv
  cases hv'
  exact ⟨p₁, t₁, bulk, p₂, t₂, rfl, hbulk, hm', (Except.pure_eq_ok_iff.1 h).symm⟩

theorem ready_of_prepare {p p' : Prepared} {t' : Trace} (hkey : p.key = none)
    (h : a.prepare s w p .start = .ok (p', t')) : Ready w p.kind p.connection a.key p' t' := by
  obtain ⟨p₁, t₁, bulk, p₂, t₂, hm, -, hm', hfound⟩ := exists_merges_of_prepare h
  have hdefaults := p.kept_merge (w := w) (a.defaults s) true .start
  have hbulk := p₁.kept_merge (w := w) bulk false t₁
  rw [hm] at hdefaults
  rw [hm'] at hbulk
  have hkept := hdefaults.trans hbulk
  have hquery : p₂.isQuery = p.isQuery := by
    rw [p₂.isQuery_eq, p.isQuery_eq]
    exact congrArg Kind.isQuery hkept.kind
  rw [← hkept.kind, ← hkept.connection]
  split at hfound
  · rename_i hpin
    obtain ⟨rfl, rfl⟩ := Prod.mk.inj hfound
    refine ready_pinKey hkept.sent ?_
    rw [Bool.or_eq_true, Bool.not_eq_true', p₂.isQuery_eq] at hpin
    exact hpin.symm
  · rename_i hpin
    obtain ⟨rfl, rfl⟩ := Prod.mk.inj hfound
    rw [Bool.or_eq_true, Bool.not_eq_true', not_or, Bool.not_eq_false] at hpin
    obtain ⟨hnone, hq⟩ := hpin
    have hunpinned := not_pinned_iff.2 ⟨p'.isQuery_eq ▸ hq, Option.not_isSome_iff_eq_none.1 hnone⟩
    -- a query is what it was, and so is the trace
    obtain ⟨rfl, rfl⟩ := hkept.query (hquery ▸ hq)
    exact ⟨rfl, rfl, rfl, fun h => absurd h hunpinned, fun _ _ => ⟨hkey, rfl⟩⟩

end Sending

theorem Task.ready_of_prepare {task : Task} {s : Settings} {w : World} {p : Prepared} {t : Trace}
    (h : task.prepare s w .start = .ok (p, t)) :
    ∃ k, task.kind? = .ok k ∧ Ready w k s.connection task.key? p t := by
  cases task with
  | device a =>
    obtain ⟨k, hk, h⟩ := Except.bind_eq_ok_iff.1 h
    obtain ⟨d, hd, h⟩ := Except.bind_eq_ok_iff.1 h
    rw [d.prepare_eq] at h
    have hready := Sending.ready_of_prepare (Kind.prepare_key (.device k) d.connection) h
    rw [Kind.prepare_kind, Kind.prepare_connection, Device.connection_of_make hd] at hready
    exact ⟨.device k, by rw [Task.kind?, hk]; rfl, hready⟩
  | server a =>
    obtain ⟨k, hk, h⟩ := Except.bind_eq_ok_iff.1 h
    rw [s.server.prepare_eq] at h
    have hready := Sending.ready_of_prepare (Kind.prepare_key (.server k) s.connection) h
    rw [Kind.prepare_kind, Kind.prepare_connection] at hready
    exact ⟨.server k, by rw [Task.kind?, hk]; rfl, hready⟩
  | learn connParams =>
    obtain ⟨-, -, h⟩ := Except.bind_eq_ok_iff.1 h
    cases Except.pure_eq_ok_iff.1 h
    exact ⟨.server .learn, rfl, rfl, rfl, rfl, fun _ => ⟨0, Prepared.key_job _⟩, nofun⟩

/-! ### Runs -/

/-- What is sent for the envelopes: `n` requests for the kind, one like the other. -/
structure SendsAlike (w : World) (k : Kind) (c : Connection) (argument : Option String) (n : Nat)
    (es : List Envelope) (t : Trace) : Prop where
  answered : es.length = n
  sent : t.sent.length = n
  isFor : ∀ r ∈ t.sent, r.IsFor k c
  body : ∃ body, ∀ r ∈ t.sent, r.body = body
  /-- A job, and whatever a key is given for, goes out under one key. -/
  oneKey : k.isQuery = false ∨ argument.isSome = true →
    ∃ m, ∀ r ∈ t.sent, r.key? = some (argument.getD (w.seed m).key)
  /-- Otherwise each request has a key that is made up for it. -/
  ownKeys : k.isQuery = true → argument = none →
    t.sent.map Request.key? = (List.range n).map fun m => some (w.seed m).key

section
variable {w : World} {k : Kind} {c : Connection} {argument : Option String} {p : Prepared} {t : Trace}

theorem Ready.send_pinned (h : Ready w k c argument p t)
    (hpin : k.isQuery = false ∨ argument.isSome = true) {m : Nat}
    (hkey : ∀ t, p.sendingKey w t = some (argument.getD (w.seed m).key, t)) (n : Nat) :
    ∃ es, (send p w n t).1 = .ok es ∧ SendsAlike w k c argument n es (send p w n t).2 := by
  obtain ⟨es, hes, hsend⟩ := send_of_sendingKey hkey n t
  refine ⟨es, by rw [hsend], ?_⟩
  have hmem : ∀ r ∈ (send p w n t).2.sent, r = p.request (argument.getD (w.seed m).key) := by
    intro r hr
    rw [hsend, h.sent] at hr
    exact List.eq_of_mem_replicate hr
  refine ⟨hes, by simp [hsend, h.sent], fun r hr => ?_, ⟨_, fun r hr => by rw [hmem r hr]⟩,
    fun _ => ⟨m, fun r hr => ?_⟩, fun hq ha => absurd hpin (not_pinned_iff.2 ⟨hq, ha⟩)⟩
  · rw [hmem r hr, ← h.kind, ← h.connection]
    exact p.request_isFor _
  · rw [hmem r hr]
    exact p.key?_request _

theorem Ready.send_unpinned {q : Query} (h : Ready w k c none (.query q) t)
    (hq : k.isQuery = true) (n : Nat) :
    ∃ es, (send (.query q) w n t).1 = .ok es ∧
      SendsAlike w k c none n es (send (.query q) w n t).2 := by
  obtain ⟨hkey, hdrawn⟩ := h.unpinned hq rfl
  rw [Prepared.key_query] at hkey
  obtain ⟨es, hes, hsend⟩ := send_query_of_noKey (w := w) hkey n t
  have hsent : (send (.query q) w n t).2.sent =
      (List.range n).map fun m => q.request (w.seed m).key := by
    simp [hsend, h.sent, hdrawn]
  refine ⟨es, by rw [hsend], ?_⟩
  have hmem : ∀ r ∈ (send (.query q) w n t).2.sent, ∃ key, r = q.request key := by
    intro r hr
    rw [hsent] at hr
    obtain ⟨m, -, rfl⟩ := List.mem_map.1 hr
    exact ⟨_, rfl⟩
  refine ⟨hes, by rw [hsent, List.length_map, List.length_range], fun r hr => ?_, ⟨none, ?_⟩,
    fun hpin => absurd hpin (not_pinned_iff.2 ⟨hq, rfl⟩), fun _ _ => ?_⟩
  · obtain ⟨key, rfl⟩ := hmem r hr
    rw [← h.kind, ← h.connection]
    exact q.request_isFor key
  · intro r hr
    obtain ⟨key, rfl⟩ := hmem r hr
    rfl
  · rw [hsent, List.map_map]
    exact List.map_congr_left fun m _ => q.key?_request _

/-- What is ready is refused before anything is sent, or all of it is sent. -/
theorem Ready.send (h : Ready w k c argument p t) {n : Nat} (hn : 0 < n) :
    (∃ err, (send p w n t).1 = .error err ∧ (send p w n t).2.sent = []) ∨
      ∃ es, (send p w n t).1 = .ok es ∧ SendsAlike w k c argument n es (send p w n t).2 := by
  obtain ⟨n, rfl⟩ := Nat.exists_eq_succ_of_ne_zero (Nat.ne_of_gt hn)
  cases p with
  | query q =>
    have hq : k.isQuery = true := by rw [← h.kind]; exact q.isQuery
    cases argument with
    | none => exact .inr (h.send_unpinned hq _)
    | some key =>
      obtain ⟨m, hkey⟩ := h.pinned (.inr rfl)
      refine .inr (h.send_pinned (.inr rfl) (m := m) (fun t => ?_) _)
      rw [Prepared.key_query] at hkey
      rw [Prepared.sendingKey, hkey]
      rfl
  | job j =>
    have hj : k.isQuery = false := by rw [← h.kind]; exact j.isJob
    obtain ⟨m, hkey⟩ := h.pinned (.inl hj)
    rw [Prepared.key_job] at hkey
    cases husable : j.usableKey with
    | none =>
      -- the key is blank: the first round is refused, and there is no other
      rw [send_job_of_unusable husable]
      exact .inl ⟨_, rfl, h.sent⟩
    | some key =>
      have hkey' := (Job.usableKey_eq_some_iff.1 husable).1
      rw [hkey] at hkey'
      refine .inr (h.send_pinned (.inl hj) (m := m) (fun t => ?_) _)
      rw [Prepared.sendingKey, husable, ← Option.some.inj hkey']
      rfl

end

namespace Invocation

/-- An invocation that fails has sent nothing. One that succeeds has sent as many requests as were
asked for, but at least one, however each of them was answered. -/
theorem run_allOrNothing (i : Invocation) (file : SettingsFile) (e : Environment) (w : World) :
    let out := i.run file e w
    (∃ err, out.1 = .error err ∧ out.2.sent = []) ∨
      ∃ es s k, out.1 = .ok es ∧ Settings.layered file e i.overrides = .ok s ∧
        i.task.kind? = .ok k ∧
        SendsAlike w k s.connection i.task.key? (max i.repetitions 1) es out.2 := by
  intro out
  have hn : 0 < max i.repetitions 1 := Nat.lt_of_lt_of_le Nat.one_pos (Nat.le_max_right ..)
  cases hs : Settings.layered file e i.overrides with
  | error err =>
    have hout : out = (.error err, .start) := by simp only [out, run, hs, bind, Except.bind]
    exact .inl ⟨err, by rw [hout], by rw [hout]; rfl⟩
  | ok s =>
    cases hp : i.task.prepare s w .start with
    | error err =>
      have hout : out = (.error err, .start) := by simp only [out, run, hs, hp, bind, Except.bind]
      exact .inl ⟨err, by rw [hout], by rw [hout]; rfl⟩
    | ok found =>
      obtain ⟨p, t⟩ := found
      have hout : out = send p w (max i.repetitions 1) t := by
        simp only [out, run, hs, hp, bind, Except.bind]
      obtain ⟨k, hk, hready⟩ := Task.ready_of_prepare hp
      rw [hout]
      refine (hready.send hn).imp_right ?_
      rintro ⟨es, hes, halike⟩
      exact ⟨es, s, k, hes, rfl, hk, halike⟩

end Invocation
end Till.CommandLine
