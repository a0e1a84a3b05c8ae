import Till.Proofs.Gateway.Envelope
import Till.Proofs.Text.Quoted

/-!
# The summary of an envelope

Three of the fields that a summary shows come from outside: the word of an origin header, which is
a run of word characters, the time, a number with one place, and the message, which is quoted. So a
summary is on one line, whatever the gateway or the network says, and its parts can be told
(`Envelope.summarizes_of`). Main statement: this holds of what a request of either verb returns
(`Connection.requests_summary`).
-/

namespace Till

/-- A decimal number with one place, a sign in front of it if it is negative. -/
def Double.IsTenths (s : String) : Prop :=
  ∃ sign whole place, s.toList = sign ++ whole ++ ['.', place] ∧ (sign = [] ∨ sign = ['-']) ∧
    whole ≠ [] ∧ (∀ c ∈ whole, c.isDigit = true) ∧ place.isDigit = true

/-- The status of the answer, zero for an exchange that came to nothing. -/
inductive Outcome.HasStatus : Outcome → UInt16 → Prop
  | failed {message : String} : HasStatus (.failed message) 0
  | unread {r : Reply} (h : ∀ fs, ¬ Json.Spells r.body (.object fs)) : HasStatus (.replied r) 0
  | read {r : Reply} {fs : List (String × Json)} (h : Json.Spells r.body (.object fs)) :
      HasStatus (.replied r) r.status

namespace Envelope

/-- What a summary shows as the origin. -/
inductive OriginPart : String → Prop
  | unknown : OriginPart "-"
  | word {s : String} (hne : s ≠ "") (h : ∀ c ∈ s.toList, Text.IsWordChar c) : OriginPart s

/-- What a summary shows of the message: nothing, unless it is a text. -/
inductive MessagePart (e : Envelope) : String → Prop
  | absent (h : ∀ m, e.get? "!message" ≠ some (.string m)) : MessagePart e ""
  | quoted {m : String} (h : e.get? "!message" = some (.string m)) :
      MessagePart e (" message=" ++ Text.quoted m)

/-- The envelope of an outcome is summarized on one line of four parts. -/
structure Summarizes (e : Envelope) (o : Outcome) : Prop where
  oneLine : Text.OneLine e.summary
  parts : ∃ status origin time message,
    e.summary = "status=" ++ toString status ++ " origin=" ++ origin ++ " elapsed=" ++ time ++
        "ms" ++ message ∧
      o.HasStatus status ∧ OriginPart origin ∧ Double.IsTenths time ∧ e.MessagePart message

end Envelope

/-! ### The parts -/

theorem Double.isTenths_tenths (x : Float) : IsTenths (tenths x) := by
  let d := Dyadic.ofFloat x
  let n := roundDiv (d.mantissa * 10 * Nat.pow 2 d.exponent.toNat)
    (Nat.pow 2 (-d.exponent).toNat)
  have hplace : Nat.toDigits 10 (n % 10) = [Nat.digitChar (n % 10)] :=
    Nat.toDigits_of_lt_base (Nat.mod_lt n (by decide))
  have hdigit : (Nat.digitChar (n % 10)).isDigit = true :=
    Nat.isDigit_of_mem_toDigits (by decide) (Nat.le_refl 10) (hplace ▸ List.mem_singleton_self _)
  refine ⟨if d.negative then ['-'] else [], Nat.toDigits 10 (n / 10), Nat.digitChar (n % 10), ?_,
    ?_, Nat.toDigits_ne_nil, fun c hc => ?_, hdigit⟩
  · rw [← hplace]
    exact String.toList_ofList
  · split
    · exact .inr rfl
    · exact .inl rfl
  · exact Nat.isDigit_of_mem_toDigits (by decide) (Nat.le_refl 10) hc

namespace Text

theorem toNat_of_isWordChar {c : Char} (h : IsWordChar c) : 48 ≤ c.toNat ∧ c.toNat ≤ 122 := by
  have hrange {a b : Char} (ha : a ≤ c) (hb : c ≤ b) : a.toNat ≤ c.toNat ∧ c.toNat ≤ b.toNat :=
    ⟨UInt32.le_iff_toNat_le.1 ha, UInt32.le_iff_toNat_le.1 hb⟩
  rcases h with ⟨ha, hb⟩ | ⟨ha, hb⟩ | ⟨ha, hb⟩ | rfl
  · have hupper : 65 ≤ c.toNat ∧ c.toNat ≤ 90 := hrange ha hb
    omega
  · have hlower : 97 ≤ c.toNat ∧ c.toNat ≤ 122 := hrange ha hb
    omega
  · have hdigit : 48 ≤ c.toNat ∧ c.toNat ≤ 57 := hrange ha hb
    omega
  · decide

theorem not_endsLine_of_isWordChar {c : Char} (h : IsWordChar c) : ¬ EndsLine c := by
  have hrange := toNat_of_isWordChar h
  unfold EndsLine
  omega

theorem isWordChar_of_isDigit {c : Char} (h : c.isDigit = true) : IsWordChar c := by
  refine isWordChar_iff.1 ?_
  show (c.isUpper || c.isLower || c.isDigit || c == '_') = true
  simp [h]

theorem oneLine_of_isTenths {s : String} (h : Double.IsTenths s) : OneLine s := by
  obtain ⟨sign, whole, place, hs, hsign, -, hwhole, hplace⟩ := h
  intro c hc
  rw [hs] at hc
  simp only [List.mem_append, List.mem_cons, List.not_mem_nil, or_false] at hc
  rcases hc with (hc | hc) | rfl | rfl
  · rcases hsign with rfl | rfl
    · cases hc
    · rw [List.mem_singleton.1 hc]
      decide
  · exact not_endsLine_of_isWordChar (isWordChar_of_isDigit (hwhole c hc))
  · decide
  · exact not_endsLine_of_isWordChar (isWordChar_of_isDigit hplace)

theorem oneLine_toString (n : UInt16) : OneLine (toString n) := by
  intro c hc
  have hdigits : (toString n).toList = Nat.toDigits 10 n.toNat := Nat.toList_repr
  rw [hdigits] at hc
  exact not_endsLine_of_mem_toDigits (by decide) (by decide) hc

end Text

namespace Envelope
variable {e : Envelope} {o : Outcome}

theorem OriginPart.oneLine {s : String} (h : OriginPart s) : Text.OneLine s := by
  cases h with
  | unknown => decide
  | word _ hword => exact fun c hc => Text.not_endsLine_of_isWordChar (hword c hc)

theorem MessagePart.oneLine {s : String} (h : e.MessagePart s) : Text.OneLine s := by
  cases h with
  | absent => decide
  | quoted => exact Text.oneLine_append.2 ⟨by decide, Text.oneLine_quoted _⟩

/-- A summary in its parts, with the words between them. -/
theorem exists_summary_eq (e : Envelope) : ∃ shown, e.MessagePart shown ∧
    e.summary = "status=" ++ toString e.status ++ " origin=" ++
      (if e.origin.isEmpty then "-" else e.origin) ++ " elapsed=" ++ Double.tenths e.elapsed ++
        "ms" ++ shown := by
  cases hmessage : e.message with
  | none =>
    refine ⟨"", .absent fun m hm => ?_, by simp only [summary, hmessage]⟩
    rw [message_eq_some_iff.2 hm] at hmessage
    cases hmessage
  | some m => exact ⟨_, .quoted (message_eq_some_iff.1 hmessage), by simp only [summary, hmessage]⟩

theorem originPart_of_words {s : String} (h : ∀ c ∈ s.toList, Text.IsWordChar c) :
    OriginPart (if s.isEmpty then "-" else s) := by
  split
  · exact .unknown
  · rename_i hne
    exact .word (fun h => hne (String.isEmpty_iff.2 h)) h

theorem isWordChar_of_hasOrigin {r : Reply} {origin : String} (h : r.HasOrigin origin) :
    ∀ c ∈ origin.toList, Text.IsWordChar c := by
  unfold Reply.HasOrigin at h
  split at h
  · obtain ⟨_, _, _, hword, _⟩ := h
    exact hword
  · rw [h]
    intro c hc
    cases hc

theorem shown_of_isFault {message origin : String} (h : e.IsFault message origin) :
    e.status = 0 ∧ e.origin = origin := by
  have hstatus : e.get? "!httpStatus" = some (.number (.int (0 : UInt16).toNat)) :=
    (h _ _).2 (by simp)
  have horigin : e.get? "!origin" = some (.string origin) := (h _ _).2 (by simp)
  exact ⟨status_of_get? hstatus, origin_of_get? horigin⟩

/-- What the parts are made from: the status of the outcome, and a run of word characters. -/
theorem shown_of (h : Of o e) :
    o.HasStatus e.status ∧ ∀ c ∈ e.origin.toList, Text.IsWordChar c := by
  cases h with
  | failed h =>
    obtain ⟨hstatus, horigin⟩ := shown_of_isFault h
    rw [hstatus, horigin]
    exact ⟨.failed, fun c hc => by cases hc⟩
  | unread ho hbody h =>
    obtain ⟨hstatus, horigin⟩ := shown_of_isFault h
    rw [hstatus, horigin]
    exact ⟨.unread hbody, isWordChar_of_hasOrigin ho⟩
  | read ho hbody h =>
    rw [h.status_eq, h.origin_eq]
    exact ⟨.read hbody, isWordChar_of_hasOrigin ho⟩

theorem summarizes_of (h : Of o e) : e.Summarizes o := by
  obtain ⟨hstatus, hwords⟩ := shown_of h
  obtain ⟨message, hmessage, hsummary⟩ := e.exists_summary_eq
  have horigin := originPart_of_words hwords
  have htime := Double.isTenths_tenths e.elapsed
  refine ⟨?_, e.status, _, _, message, hsummary, hstatus, horigin, htime, hmessage⟩
  rw [hsummary]
  simp only [Text.oneLine_append]
  have hbetween : Text.OneLine "status=" ∧ Text.OneLine " origin=" ∧ Text.OneLine " elapsed=" ∧
      Text.OneLine "ms" := by decide
  obtain ⟨h₁, h₂, h₃, h₄⟩ := hbetween
  exact ⟨⟨⟨⟨⟨⟨⟨h₁, Text.oneLine_toString _⟩, h₂⟩, horigin.oneLine⟩, h₃⟩,
    Text.oneLine_of_isTenths htime⟩, h₄⟩, hmessage.oneLine⟩

-- a gateway cannot end the line, nor the quotes around its message
example :
    (ofOutcome (.replied ⟨200, some "kkm\u2028x", "\x7b\"!message\": \"a\\nb\\\" c\"\x7d".toUTF8, 0⟩)).summary =
      "status=200 origin=kkm elapsed=0.0ms message=\"a\\nb\\\" c\"" := by
  decide +kernel

end Envelope

namespace Connection

/-- A request of either verb is sent once, and the envelope that it returns is summarized on one
line: the status of the answer, or zero, a word or a dash for the origin, the time, and the message
if the envelope has a text for one. -/
theorem requests_summary (c : Connection) (path : String) (w : World) (t : Trace) :
    (∀ key, ∃ r : Request, (c.get path key w t).2.sent = t.sent ++ [r] ∧
      (c.get path key w t).1.Summarizes (w.respond t.sent r)) ∧
    ∀ details key, ∃ r : Request, (c.post path details key w t).2.sent = t.sent ++ [r] ∧
      (c.post path details key w t).1.Summarizes (w.respond t.sent r) := by
  have hsummary (r : Request) :
      (Envelope.ofOutcome (w.respond t.sent r)).Summarizes (w.respond t.sent r) :=
    Envelope.summarizes_of (Envelope.of_iff.2 rfl)
  constructor
  · intro key
    -- the key may be a new one, which leaves the requests as they are
    rcases key with _ | key
    · exact ⟨c.getRequest path (w.newKey t).1, rfl, hsummary _⟩
    · exact ⟨c.getRequest path key, rfl, hsummary _⟩
  · intro details key
    exact ⟨c.postRequest path details key, rfl, hsummary _⟩

end Connection
end Till
