import Till.Proofs.Gateway.Envelope
import Till.Proofs.Operation.Dispatch

/-!
# Failure marks

An exchange that comes to nothing on this side is marked as failed and says why. The object of an
answer is passed on with all of its fields but three, and a mark that the gateway sets itself is not
among the three. Main statement: the mark of what an operation returns means that the exchange came
to nothing or that the gateway's own object has the mark, and so it is the client's alone exactly
when that object does not have it (`Prepared.perform_failureMark`).
-/

namespace Till

namespace Outcome
variable {o : Outcome}

/-- The exchange came to nothing: it broke off, or what came back is no object. -/
inductive Fails : Outcome → String → Prop
  | broken (message : String) : Fails (.failed message) message
  | unread {r : Reply} (h : ∀ fs, ¬ Json.Spells r.body (.object fs)) :
      Fails (.replied r) "Bad response"

/-- The gateway answered with the object. -/
inductive Answers : Outcome → List (String × Json) → Prop
  | read {r : Reply} {body : List (String × Json)} (h : Json.Spells r.body (.object body)) :
      Answers (.replied r) body

theorem Answers.not_fails {body : List (String × Json)} (h : o.Answers body) :
    ¬ ∃ message, o.Fails message := by
  rintro ⟨message, hf⟩
  cases h with
  | read hbody =>
    cases hf with
    | unread hnone => exact hnone body hbody

end Outcome

theorem Json.Spells.unique {bytes : ByteArray} {v v' : Json} (h : Spells bytes v)
    (h' : Spells bytes v') : v = v' := by
  obtain ⟨text, htext, hv⟩ := h
  obtain ⟨text', htext', hv'⟩ := h'
  rw [htext] at htext'
  cases htext'
  rw [hv] at hv'
  exact Option.some.inj hv'

namespace Envelope
variable {e : Envelope} {o : Outcome}

/-- What the mark and the message of an envelope say about the exchange that it stands for. -/
structure FailureMark (e : Envelope) (o : Outcome) : Prop where
  /-- An exchange that came to nothing has the mark, and a message. -/
  fault : ∀ message, o.Fails message → e.isFailure = true ∧ e.message = some message
  /-- Of an answer they are what the gateway's object says there. -/
  answer : ∀ body, o.Answers body →
    e.get? "!success" = body.lookup "!success" ∧ e.get? "!message" = body.lookup "!message"
  isFailure_iff : e.isFailure = true ↔
    (∃ message, o.Fails message) ∨ ∃ body, o.Answers body ∧ body.lookup "!success" = some (.bool false)
  /-- So the mark tells the two apart unless the gateway sets it. -/
  clientsAlone_iff : (e.isFailure = true ↔ ∃ message, o.Fails message) ↔
    ∀ body, o.Answers body → body.lookup "!success" ≠ some (.bool false)

theorem isFailure_eq_true_iff : e.isFailure = true ↔ e.get? "!success" = some (.bool false) := by
  rw [isFailure, beq_iff_eq, Json.bind_asBool?_eq_some_iff]

theorem fails_or_answers (o : Outcome) : (∃ message, o.Fails message) ∨ ∃ body, o.Answers body := by
  cases o with
  | failed message => exact .inl ⟨message, .broken message⟩
  | replied r =>
    cases ho : object? r.body with
    | none => exact .inl ⟨_, .unread (object?_eq_none_iff.1 ho)⟩
    | some body => exact .inr ⟨_, .read (spells_of_object? ho)⟩

theorem mark_of_isFault {message origin : String} (h : e.IsFault message origin) :
    e.isFailure = true ∧ e.message = some message := by
  have hsuccess : e.get? "!success" = some (.bool false) := (h _ _).2 (by simp)
  have hmessage : e.get? "!message" = some (.string message) := (h _ _).2 (by simp)
  exact ⟨isFailure_eq_true_iff.2 hsuccess, message_eq_some_iff.2 hmessage⟩

theorem mark_of_fails {message : String} (h : o.Fails message) :
    (ofOutcome o).isFailure = true ∧ (ofOutcome o).message = some message := by
  have hof : Of o (ofOutcome o) := of_iff.2 rfl
  cases h with
  | broken =>
    cases hof with
    | failed h => exact mark_of_isFault h
  | unread hnone =>
    cases hof with
    | unread _ _ h => exact mark_of_isFault h
    | read _ hbody _ => exact absurd hbody (hnone _)

theorem get?_of_answers {body : List (String × Json)} (h : o.Answers body) {key : String}
    (hkey : key ∉ ["!httpStatus", "!origin", "!elapsedTime"]) :
    (ofOutcome o).get? key = body.lookup key := by
  have hof : Of o (ofOutcome o) := of_iff.2 rfl
  cases h with
  | read hbody =>
    cases hof with
    | unread _ hnone _ => exact absurd hbody (hnone _)
    | read _ hbody' h =>
      cases Json.object.inj (hbody'.unique hbody)
      exact h.get_other key hkey

theorem failureMark_ofOutcome (o : Outcome) : (ofOutcome o).FailureMark o := by
  have hanswer {body : List (String × Json)} (h : o.Answers body) :
      (ofOutcome o).get? "!success" = body.lookup "!success" := get?_of_answers h (by decide)
  have hmark : (ofOutcome o).isFailure = true ↔ (∃ message, o.Fails message) ∨
      ∃ body, o.Answers body ∧ body.lookup "!success" = some (.bool false) := by
    constructor
    · intro h
      refine (fails_or_answers o).imp_right fun ⟨body, hbody⟩ => ⟨body, hbody, ?_⟩
      rw [← hanswer hbody]
      exact isFailure_eq_true_iff.1 h
    · rintro (⟨message, h⟩ | ⟨body, hbody, h⟩)
      · exact (mark_of_fails h).1
      · exact isFailure_eq_true_iff.2 ((hanswer hbody).trans h)
  refine ⟨fun message h => mark_of_fails h,
    fun body h => ⟨hanswer h, get?_of_answers h (by decide)⟩, hmark, ?_⟩
  constructor
  · intro hiff body hbody h
    exact hbody.not_fails (hiff.1 (hmark.2 (.inr ⟨body, hbody, h⟩)))
  · intro hnone
    refine hmark.trans (or_iff_left ?_)
    rintro ⟨body, hbody, h⟩
    exact hnone body hbody h

end Envelope

namespace Prepared
variable {w : World}

/-- What an operation returns stands for the one exchange that it had, and its mark says whether that
came to nothing, or that the gateway says so. -/
theorem perform_failureMark {p : Prepared} {t : Trace} {e : Envelope}
    (h : (p.perform w t).1 = .ok e) :
    ∃ r : Request, (p.perform w t).2.sent = t.sent ++ [r] ∧
      e.FailureMark (w.respond t.sent r) := by
  obtain ⟨r, hsent, -, rfl⟩ := exists_request_of_perform h
  exact ⟨r, hsent, Envelope.failureMark_ofOutcome _⟩

/-- The server is asked whether it is there. -/
def ping : Prepared :=
  .query (Server.ping ⟨⟨"till", "", ""⟩⟩)

/-- An answer with a mark of the gateway's own. -/
def markedAnswer : Outcome :=
  .replied ⟨200, some "kkm", "\x7b\"!success\":false\x7d".toUTF8, 0⟩

theorem perform_failureMark_ping :
    let w := World.scripted .ofNat [markedAnswer]
    let e := Envelope.ofOutcome markedAnswer
    (ping.perform w .start).1 = .ok e ∧
      ∃ r : Request, (ping.perform w .start).2.sent = [r] ∧ e.FailureMark (w.respond [] r) :=
  ⟨rfl, perform_failureMark rfl⟩

/-- An answer that is an object has the mark of a failed exchange, since the gateway set it. -/
theorem isFailure_of_markedAnswer :
    let w := World.scripted .ofNat [markedAnswer]
    ∃ (e : Envelope) (r : Request) (body : List (String × Json)),
      (ping.perform w .start).1 = .ok e ∧ (ping.perform w .start).2.sent = [r] ∧
        (w.respond [] r).Answers body ∧ e.get? "!success" = some (.bool false) ∧
        ¬ (e.isFailure = true ↔ ∃ message, (w.respond [] r).Fails message) := by
  have hcheck : ((Envelope.object? "\x7b\"!success\":false\x7d".toUTF8).bind fun body =>
      (body.get? "!success").bind Json.asBool?) = some false := by
    decide +kernel
  obtain ⟨body, hbody, hsuccess⟩ := Option.bind_eq_some_iff.1 hcheck
  rw [Json.bind_asBool?_eq_some_iff] at hsuccess
  have hanswers : markedAnswer.Answers body.entries := .read (Envelope.spells_of_object? hbody)
  have hmark := Envelope.failureMark_ofOutcome markedAnswer
  refine ⟨.ofOutcome markedAnswer, _, body.entries, rfl, rfl, hanswers,
    (hmark.answer _ hanswers).1.trans hsuccess, ?_⟩
  intro hiff
  exact hmark.clientsAlone_iff.1 hiff _ hanswers hsuccess

end Prepared
end Till
