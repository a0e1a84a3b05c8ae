import Till.Proofs.Bulk.Unknown
import Till.Proofs.Operation.Dispatch

/-!
# Queries only read

A query has a key and nothing else that could change. Steps pin the key; sending takes it as it is,
or makes up one for that request alone (`Query.Sends`), and a bulk record is refused or has no effect.
Main statement: after any steps a query is what its pins have made of it, each performing step
has sent one request that reads, and without the bulk records all would be the same
(`Prepared.run_readsOnly`).
-/

namespace Till

namespace PreparedStep

/-- The key that a step pins, if it pins one; `none` asks for a new key. -/
def pin? : PreparedStep → Option (Option String)
  | .key pin => some pin
  | _ => none

def performs : PreparedStep → Bool
  | perform => true
  | _ => false

def merges : PreparedStep → Bool
  | merge _ _ => true
  | _ => false

end PreparedStep

/-! ### What a query may do -/

/-- The request reads what the kind says over the connection: it has no body, and no header that would
tell the type of one. -/
structure Request.Reads (r : Request) (k : Kind) (c : Connection) (key : String) : Prop where
  verb : r.verb = .get
  url : r.url = c.url (k.path c.serial)
  body : r.body = none
  contentType : r.header? "Content-Type" = none
  secret : r.header? "X-Secret" = some c.secret
  key : r.key? = some key

/-- The first key in the order of bytes that is not `details` in any case of its ASCII letters. -/
structure Fields.FirstForeign (bulk : Fields) (key : String) : Prop where
  mem : key ∈ bulk.keys
  foreign : Text.eqIgnoreAsciiCase key "details" = false
  least : ∀ key' ∈ bulk.keys, Text.eqIgnoreAsciiCase key' "details" = false →
    Text.bytes key ≤ Text.bytes key'

theorem Fields.firstForeign_iff {bulk : Fields} {key : String} : bulk.FirstForeign key ↔
    (bulk.keys.find? fun key => !Text.eqIgnoreAsciiCase key "details") = some key := by
  simp only [find?_keys_eq_some_iff, Bool.not_eq_true']
  exact ⟨fun h => ⟨h.mem, h.foreign, h.least⟩, fun ⟨hmem, hforeign, hleast⟩ =>
    ⟨hmem, hforeign, hleast⟩⟩

namespace Prepared
variable {method : String} {bulk : Fields}

theorem rejectBulk_eq_ok_iff : rejectBulk method bulk false = .ok () ↔
    ∀ key ∈ bulk.keys, Text.eqIgnoreAsciiCase key "details" = true := by
  simp only [rejectBulk, Bool.false_eq_true, if_false]
  cases hfind : bulk.keys.find? fun key => !Text.eqIgnoreAsciiCase key "details" with
  | none => exact iff_of_true rfl (by simpa using List.find?_eq_none.1 hfind)
  | some key =>
    have hfirst := Fields.firstForeign_iff.2 hfind
    exact iff_of_false nofun fun h => Bool.eq_false_iff.1 hfirst.foreign (h key hfirst.mem)

theorem rejectBulk_eq_error_iff {e : ClientError} : rejectBulk method bulk false = .error e ↔
    ∃ key, bulk.FirstForeign key ∧ e = .unknownKey method key := by
  simp only [rejectBulk, Bool.false_eq_true, if_false, Fields.firstForeign_iff]
  cases bulk.keys.find? fun key => !Text.eqIgnoreAsciiCase key "details" with
  | none => simp
  | some key => simp [eq_comm]

end Prepared

/-- The key after pins, by the last of them. Keys are made up in turn, and the one that a pin has
asked for is among those from the one number to the other. -/
inductive KeyAfter (w : World) (key : Option String) (low high : Nat) :
    List (Option String) → Option String → Prop
  | kept : KeyAfter w key low high [] key
  | given (pins : List (Option String)) (key' : String) :
      KeyAfter w key low high (pins ++ [some key']) (some key')
  | made (pins : List (Option String)) {n : Nat} (hlow : low ≤ n) (hhigh : n < high) :
      KeyAfter w key low high (pins ++ [none]) (some (w.seed n).key)

theorem KeyAfter.trans {w : World} {key key' key'' : Option String} {low mid high : Nat}
    {pins pins' : List (Option String)} (h : KeyAfter w key low mid pins key')
    (h' : KeyAfter w key' mid high pins' key'') (hlow : low ≤ mid) (hhigh : mid ≤ high) :
    KeyAfter w key low high (pins ++ pins') key'' := by
  cases h' with
  | kept =>
    rw [List.append_nil]
    cases h with
    | kept => exact .kept
    | given pins key' => exact .given pins key'
    | made pins hl hm => exact .made pins hl (Nat.lt_of_lt_of_le hm hhigh)
  | given pins' key' =>
    rw [← List.append_assoc]
    exact .given _ key'
  | made pins' hm hh =>
    rw [← List.append_assoc]
    exact .made _ (Nat.le_trans hlow hm) hh

namespace Query
variable {w : World} {q q' q'' : Query} {t t' t'' : Trace}

/-- What a step on a query of the kind answers. -/
inductive Answers (k : Kind) : PreparedStep → Result (Option Envelope) → Prop
  | key (pin : Option String) : Answers k (.key pin) (.ok none)
  | perform (e : Envelope) : Answers k .perform (.ok (some e))
  | ignored (bulk : Fields) : Answers k (.merge bulk true) (.ok none)
  | heeded {bulk : Fields} (h : ∀ key ∈ bulk.keys, Text.eqIgnoreAsciiCase key "details" = true) :
      Answers k (.merge bulk false) (.ok none)
  | refused {bulk : Fields} {key : String} (h : bulk.FirstForeign key) :
      Answers k (.merge bulk false) (.error (.unknownKey k.method key))

/-- Sending a query: one request under the key of the query, or under one made up for it, and the
query is what it was. -/
inductive Sends (w : World) (q : Query) (t : Trace) :
    (Prepared × Trace) × Result (Option Envelope) → Prop
  | pinned {r : Request} {key : String} (hkey : q.key = some key)
      (hr : r.Reads q.kind q.connection key) :
      Sends w q t ((.query q, { t with sent := t.sent ++ [r] }),
        .ok (some (.ofOutcome (w.respond t.sent r))))
  | unpinned {r : Request} (hkey : q.key = none)
      (hr : r.Reads q.kind q.connection (w.seed t.drawn).key) :
      Sends w q t ((.query q, ⟨t.drawn + 1, t.sent ++ [r]⟩),
        .ok (some (.ofOutcome (w.respond t.sent r))))

/-- What steps on a query leave of it, and what they have answered and sent. -/
structure ReadsOnly (w : World) (q : Query) (t : Trace) (steps : List PreparedStep) (q' : Query)
    (t' : Trace) (answers : List (Result (Option Envelope))) : Prop where
  kind : q'.kind = q.kind
  connection : q'.connection = q.connection
  drawn : t.drawn ≤ t'.drawn
  key : KeyAfter w q.key t.drawn t'.drawn (steps.filterMap PreparedStep.pin?) q'.key
  answers : List.Forall₂ (Answers q.kind) steps answers
  /-- One request for each performing step. -/
  sent : ∃ rs : List Request, t'.sent = t.sent ++ rs ∧
    rs.length = steps.countP PreparedStep.performs ∧
    ∀ r ∈ rs, ∃ key, r.Reads q.kind q.connection key

theorem reads_request (q : Query) (key : String) :
    (q.request key).Reads q.kind q.connection key where
  verb := rfl
  url := rfl
  body := rfl
  contentType := by
    have h : Text.eqIgnoreAsciiCase "X-Secret" "Content-Type" = false := by decide
    have h' : Text.eqIgnoreAsciiCase "X-Idempotency-Key" "Content-Type" = false := by decide
    simp [Request.header?, request, Connection.getRequest, h, h']
  secret := (q.request_isFor key).secret
  key := q.key?_request key

theorem sends_perform (q : Query) (t : Trace) :
    q.Sends w t ((Prepared.query q).step w .perform t) := by
  rw [Prepared.step, Prepared.perform_query, perform_eq]
  cases hkey : q.key with
  | some key => exact .pinned hkey (q.reads_request key)
  | none => exact .unpinned hkey (q.reads_request _)

theorem answers_merge (q : Query) (bulk : Fields) (ignoreUnknown : Bool) :
    Answers q.kind (.merge bulk ignoreUnknown)
      ((Prepared.rejectBulk q.kind.method bulk ignoreUnknown).map fun _ => none) := by
  cases ignoreUnknown with
  | true => exact .ignored bulk
  | false =>
    cases hr : Prepared.rejectBulk q.kind.method bulk false with
    | ok => exact .heeded (Prepared.rejectBulk_eq_ok_iff.1 hr)
    | error e =>
      obtain ⟨key, hfirst, rfl⟩ := Prepared.rejectBulk_eq_error_iff.1 hr
      exact .refused hfirst

/-! ### Runs -/

/-- Takes steps one after another and lists what they answer. -/
def run (w : World) (steps : List QueryStep) (q : Query) (t : Trace) :
    (Query × Trace) × List (Option Envelope) :=
  Steps.run (fun s state => state.1.step w s state.2) steps (q, t)

theorem ReadsOnly.refl (q : Query) (t : Trace) : q.ReadsOnly w t [] q t [] where
  kind := rfl
  connection := rfl
  drawn := Nat.le_refl _
  key := .kept
  answers := .nil
  sent := ⟨[], by simp⟩

theorem ReadsOnly.trans {steps steps' : List PreparedStep}
    {answers answers' : List (Result (Option Envelope))} (h : q.ReadsOnly w t steps q' t' answers)
    (h' : q'.ReadsOnly w t' steps' q'' t'' answers') :
    q.ReadsOnly w t (steps ++ steps') q'' t'' (answers ++ answers') where
  kind := h'.kind.trans h.kind
  connection := h'.connection.trans h.connection
  drawn := Nat.le_trans h.drawn h'.drawn
  key := by
    rw [List.filterMap_append]
    exact h.key.trans h'.key h.drawn h'.drawn
  answers := List.rel_append h.answers (h.kind ▸ h'.answers)
  sent := by
    obtain ⟨rs, hsent, hlength, hrs⟩ := h.sent
    obtain ⟨rs', hsent', hlength', hrs'⟩ := h'.sent
    rw [h.kind, h.connection] at hrs'
    refine ⟨rs ++ rs', by rw [hsent', hsent, List.append_assoc], ?_, ?_⟩
    · rw [List.length_append, List.countP_append, hlength, hlength']
    · intro r hr
      rcases List.mem_append.1 hr with hr | hr
      · exact hrs r hr
      · exact hrs' r hr

/-- A step that sends nothing. -/
theorem readsOnly_of_silent {s : PreparedStep} {answer : Result (Option Envelope)}
    (hs : s.performs = false) (hkind : q'.kind = q.kind) (hconnection : q'.connection = q.connection)
    (hdrawn : t.drawn ≤ t'.drawn)
    (hkey : KeyAfter w q.key t.drawn t'.drawn s.pin?.toList q'.key)
    (hanswer : Answers q.kind s answer) (hsent : t'.sent = t.sent) :
    q.ReadsOnly w t [s] q' t' [answer] where
  kind := hkind
  connection := hconnection
  drawn := hdrawn
  key := by
    rw [List.filterMap_cons]
    cases hpin : s.pin? with
    | none => rwa [hpin] at hkey
    | some pin => rwa [hpin] at hkey
  answers := .cons hanswer .nil
  sent := ⟨[], by simp [hsent, hs]⟩

theorem readsOnly_step (s : PreparedStep) (q : Query) (t : Trace) :
    ∃ q' t' answer, (Prepared.query q).step w s t = ((.query q', t'), answer) ∧
      q.ReadsOnly w t [s] q' t' [answer] := by
  cases s with
  | key pin =>
    refine ⟨_, _, _, Prepared.step_query (.key pin) q t, ?_⟩
    cases pin with
    | some key => exact readsOnly_of_silent rfl rfl rfl (Nat.le_refl _) (.given [] key) (.key _) rfl
    | none =>
      exact readsOnly_of_silent rfl rfl rfl (Nat.le_succ _)
        (.made [] (Nat.le_refl _) (Nat.lt_succ_self _)) (.key _) rfl
  | merge bulk ignoreUnknown =>
    refine ⟨q, t, _, Prepared.step_query_merge bulk ignoreUnknown q t, ?_⟩
    exact readsOnly_of_silent rfl rfl rfl (Nat.le_refl _) .kept (q.answers_merge bulk ignoreUnknown)
      rfl
  | perform =>
    have hsends := q.sends_perform (w := w) t
    generalize (Prepared.query q).step w .perform t = out at hsends
    cases hsends with
    | @pinned r key hkey hr =>
      refine ⟨_, _, _, rfl, rfl, rfl, Nat.le_refl _, .kept, .cons (.perform _) .nil, [r], rfl, rfl, ?_⟩
      intro r' hr'
      exact ⟨key, List.mem_singleton.1 hr' ▸ hr⟩
    | @unpinned r hkey hr =>
      refine ⟨_, _, _, rfl, rfl, rfl, Nat.le_succ _, .kept, .cons (.perform _) .nil, [r], rfl, rfl, ?_⟩
      intro r' hr'
      exact ⟨_, List.mem_singleton.1 hr' ▸ hr⟩

end Query

/-- Takes steps one after another, whether they succeed or fail, and lists what they answer. -/
def Prepared.run (w : World) (steps : List PreparedStep) (p : Prepared) (t : Trace) :
    (Prepared × Trace) × List (Result (Option Envelope)) :=
  Steps.run (fun s state => state.1.step w s state.2) steps (p, t)

theorem Prepared.run_cons (w : World) (s : PreparedStep) (steps : List PreparedStep) (p : Prepared)
    (t : Trace) :
    run w (s :: steps) p t =
      ((run w steps (p.step w s t).1.1 (p.step w s t).1.2).1,
        (p.step w s t).2 :: (run w steps (p.step w s t).1.1 (p.step w s t).1.2).2) :=
  rfl

theorem Query.readsOnly_run (steps : List PreparedStep) (q : Query) (t : Trace) :
    ∃ q', (Prepared.run w steps (.query q) t).1.1 = .query q' ∧
      q.ReadsOnly w t steps q' (Prepared.run w steps (.query q) t).1.2
        (Prepared.run w steps (.query q) t).2 := by
  induction steps generalizing q t with
  | nil => exact ⟨q, rfl, .refl q t⟩
  | cons s steps ih =>
    obtain ⟨q₁, t₁, answer, hstep, hone⟩ := readsOnly_step (w := w) s q t
    obtain ⟨q', hq', hrest⟩ := ih q₁ t₁
    rw [Prepared.run_cons, hstep]
    exact ⟨q', hq', hone.trans hrest⟩

namespace Prepared
variable {w : World}

/-- Bulk records make no difference to a query. -/
theorem run_filter_merges (steps : List PreparedStep) (q : Query) (t : Trace) :
    (run w (steps.filter fun s => !s.merges) (.query q) t).1 = (run w steps (.query q) t).1 := by
  induction steps generalizing q t with
  | nil => rfl
  | cons s steps ih =>
    cases hs : s.merges with
    | true =>
      cases s with
      | merge bulk ignoreUnknown =>
        rw [List.filter_cons_of_neg (by simp [hs]), ih, run_cons, step_query_merge]
      | _ => cases hs
    | false =>
      obtain ⟨q₁, t₁, answer, hstep, -⟩ := Query.readsOnly_step (w := w) s q t
      rw [List.filter_cons_of_pos (by simp [hs]), run_cons, run_cons, hstep]
      exact ih q₁ t₁

/-- The query that is prepared for a reading kind, which is the one that bears its name. -/
structure IsQueryOf (p : Prepared) (named : Query ⊕ Job) (k : Kind) (c : Connection) (q : Query) :
    Prop where
  prepared : p = .query q
  named : named = .inl q
  kind : q.kind = k
  connection : q.connection = c
  key : q.key = none

/-- A query only reads, whatever steps are taken on it. Its key is the last one that was pinned, and
nothing else of it changes; sending it always answers, with one request that reads, under its key or
else under one that is made up for that request; and a bulk record changes neither the query nor
anything that is sent later, and is refused just for a key that is not `details`. This goes for each
reading kind of a device and of the server, be it prepared or called by its name. -/
theorem run_readsOnly (w : World) :
    (∀ (q : Query) (steps : List PreparedStep) (t : Trace),
      let out := run w steps (.query q) t
      ∃ q', out.1.1 = .query q' ∧ q.ReadsOnly w t steps q' out.1.2 out.2 ∧
        q'.Sends w out.1.2 ((query q').step w .perform out.1.2) ∧
        (∀ bulk ignoreUnknown,
          ((query q').step w (.merge bulk ignoreUnknown) out.1.2).1 = (.query q', out.1.2)) ∧
        (run w (steps.filter fun s => !s.merges) (.query q) t).1 = out.1) ∧
    (∀ (q : Query) (steps : List QueryStep) (t : Trace),
      let own := q.run w steps t
      run w (steps.map QueryStep.common) (.query q) t =
        ((.query own.1.1, own.1.2), own.2.map .ok)) ∧
    (∀ (d : Device) (k : DeviceKind), k.isQuery = true →
      ∃ q, (d.prepare k).IsQueryOf (d.named k) (.device k) d.connection q) ∧
    ∀ (s : Server) (k : ServerKind), k.isQuery = true →
      ∃ q, (s.prepare k).IsQueryOf (s.named k) (.server k) s.connection q := by
  refine ⟨fun q steps t => ?_, fun q steps t => ?_, fun d k hk => ?_, fun s k hk => ?_⟩
  · obtain ⟨q', hq', hreads⟩ := Query.readsOnly_run (w := w) steps q t
    exact ⟨q', hq', hreads, q'.sends_perform _, fun _ _ => by rw [step_query_merge],
      run_filter_merges steps q t⟩
  · exact Steps.run_map (h := fun state : Query × Trace => (query state.1, state.2))
      (fun s state => step_query s state.1 state.2) steps (q, t)
  · cases k with
    | status | fullStatus | baseStatus | cashStat => exact ⟨_, rfl, rfl, rfl, rfl, rfl⟩
    | _ => cases hk
  · cases k with
    | ping => exact ⟨_, rfl, rfl, rfl, rfl, rfl⟩
    | _ => cases hk

end Prepared
end Till
