import Mathlib.Data.List.TakeWhile
import Till.Gateway.Performer
import Till.Proofs.Json.Record
import Till.Proofs.Text.Trim

/-!
# What a request comes to

`Envelope.Of` says which envelope an outcome amounts to, key by key: the five fields of a fault, or
the object that the gateway answers with, three of its fields noted by the sender. There is exactly
one (`Envelope.of_iff`). Main statement: a request of either verb is sent once, and what it returns
is the envelope of its outcome (`Connection.requests_envelope`).
-/

namespace Till

/-! ### The word in front of a header -/

namespace Text

/-- A letter or digit of ASCII, or the underscore. -/
def IsWordChar (c : Char) : Prop :=
  'A' ≤ c ∧ c ≤ 'Z' ∨ 'a' ≤ c ∧ c ≤ 'z' ∨ '0' ≤ c ∧ c ≤ '9' ∨ c = '_'

/-- `rest` is the list without the blanks at its front. -/
def TrimsTo (cs rest : List Char) : Prop :=
  ∃ blanks, cs = blanks ++ rest ∧ (∀ c ∈ blanks, isBlank c = true) ∧
    ∀ c ∈ rest.head?, isBlank c = false

/-- The longest run of word characters at the front of a text, its first blanks left out. -/
def LeadingWord (s word : String) : Prop :=
  ∃ rest, TrimsTo s.toList rest ∧ word.toList <+: rest ∧ (∀ c ∈ word.toList, IsWordChar c) ∧
    ∀ run, run <+: rest → (∀ c ∈ run, IsWordChar c) → run <+: word.toList

theorem isWordChar_iff {c : Char} : (c.isAlphanum || c == '_') = true ↔ IsWordChar c := by
  have hrange (a b : Char) : (decide (a.val ≤ c.val) && decide (c.val ≤ b.val)) = true ↔
      a ≤ c ∧ c ≤ b := by
    rw [Bool.and_eq_true, decide_eq_true_iff, decide_eq_true_iff]
    exact Iff.rfl
  have hupper : c.isUpper = true ↔ 'A' ≤ c ∧ c ≤ 'Z' := decide_eq_true_iff
  have hlower : c.isLower = true ↔ 'a' ≤ c ∧ c ≤ 'z' := hrange 'a' 'z'
  have hdigit : c.isDigit = true ↔ '0' ≤ c ∧ c ≤ '9' := hrange '0' '9'
  show (c.isUpper || c.isLower || c.isDigit || c == '_') = true ↔ _
  rw [Bool.or_eq_true, Bool.or_eq_true, Bool.or_eq_true, hupper, hlower, hdigit, beq_iff_eq,
    or_assoc, or_assoc, IsWordChar]

theorem trimsTo_iff {cs rest : List Char} : TrimsTo cs rest ↔ rest = cs.dropWhile isBlank := by
  constructor
  · rintro ⟨blanks, rfl, hblanks, hhead⟩
    rw [List.dropWhile_append_of_pos hblanks]
    cases rest with
    | nil => rfl
    | cons c rest => rw [List.dropWhile_cons_of_neg (by simp [hhead c rfl])]
  · rintro rfl
    exact ⟨cs.takeWhile isBlank, List.takeWhile_append_dropWhile.symm,
      fun c hc => List.mem_takeWhile_imp hc, head?_dropWhile⟩

/-- A prefix all of whose elements are in a class is part of the run of the class. -/
theorem prefix_takeWhile {p : Char → Bool} {run cs : List Char} (h : run <+: cs)
    (hp : ∀ c ∈ run, p c = true) : run <+: cs.takeWhile p := by
  obtain ⟨rest, rfl⟩ := h
  rw [List.takeWhile_append_of_pos hp]
  exact List.prefix_append ..

end Text

theorem Envelope.leadingWord_iff {header word : String} :
    Text.LeadingWord header word ↔ word = originWord header := by
  let p (c : Char) : Bool := c.isAlphanum || c == '_'
  let rest := header.toList.dropWhile Text.isBlank
  have hword : ∀ c ∈ rest.takeWhile p, Text.IsWordChar c := by
    intro c hc
    have hp : p c = true := List.mem_takeWhile_imp hc
    exact Text.isWordChar_iff.1 hp
  have hlongest : ∀ run, run <+: rest → (∀ c ∈ run, Text.IsWordChar c) → run <+: rest.takeWhile p :=
    fun run hrun hall => Text.prefix_takeWhile hrun fun c hc => Text.isWordChar_iff.2 (hall c hc)
  constructor
  · rintro ⟨rest', htrims, hprefix, hall, hmax⟩
    obtain rfl : rest' = rest := Text.trimsTo_iff.1 htrims
    have hle := hlongest _ hprefix hall
    have hge := hmax _ (List.takeWhile_prefix p) hword
    refine String.toList_inj.1 ?_
    rw [originWord, String.toList_ofList]
    exact hle.eq_of_length_le hge.length_le
  · rintro rfl
    refine ⟨rest, Text.trimsTo_iff.2 rfl, ?_⟩
    rw [originWord, String.toList_ofList]
    exact ⟨List.takeWhile_prefix p, hword, hlongest⟩

/-- The origin of an answer: the word in front of its header, empty if it has no header. -/
def Reply.HasOrigin (r : Reply) (origin : String) : Prop :=
  match r.origin with
  | some header => Text.LeadingWord header origin
  | none => origin = ""

theorem Reply.hasOrigin_iff {r : Reply} {origin : String} :
    r.HasOrigin origin ↔ origin = (r.origin.map Envelope.originWord).getD "" := by
  unfold HasOrigin
  cases r.origin with
  | none => rfl
  | some header => exact Envelope.leadingWord_iff

/-! ### Objects that bytes spell -/

namespace Json

/-- The bytes are a text that stands for the value. -/
def Spells (bytes : ByteArray) (v : Json) : Prop :=
  ∃ text, String.fromUTF8? bytes = some text ∧ parse? text = some v

/-- An object is read with its keys in order. -/
theorem Reader.sorted_of_value? {room fuel : Nat} {cs rest : List Char}
    {fs : List (String × Json)} (h : value? room fuel cs = some (.object fs, rest)) :
    Entries.Sorted fs := by
  cases fuel with
  | zero => cases h
  | succ fuel =>
    rw [value?] at h
    split at h
    case h_2 =>
      split at h
      · cases h
      · cases h
      · obtain ⟨_, -, hx⟩ := Option.map_eq_some_iff.1 h
        cases hx
    case h_3 =>
      split at h
      · cases h
      · cases h
        exact .nil
      · obtain ⟨_, -, hx⟩ := Option.map_eq_some_iff.1 h
        cases hx
        exact Entries.sorted_insertAll .nil _
    all_goals
      -- no other character opens an object
      obtain ⟨_, -, hx⟩ := Option.map_eq_some_iff.1 h
      cases hx

theorem sorted_of_parse? {text : String} {fs : List (String × Json)}
    (h : parse? text = some (.object fs)) : Entries.Sorted fs := by
  rw [parse?] at h
  split at h
  · rename_i hv
    split at h
    · cases h
      exact Reader.sorted_of_value? hv
    · cases h
  · cases h

end Json

namespace Envelope

theorem exists_object?_of_spells {bytes : ByteArray} {fs : List (String × Json)}
    (h : Json.Spells bytes (.object fs)) :
    ∃ body : Fields, body.entries = fs ∧ object? bytes = some body := by
  obtain ⟨text, htext, hparse⟩ := h
  refine ⟨.ofList fs, Entries.ofList_of_sorted (Json.sorted_of_parse? hparse), ?_⟩
  simp [object?, htext, hparse]

theorem spells_of_object? {bytes : ByteArray} {body : Fields}
    (h : object? bytes = some body) : Json.Spells bytes body.toJson := by
  obtain ⟨text, htext, h⟩ := Option.bind_eq_some_iff.1 h
  obtain ⟨v, hparse, h⟩ := Option.bind_eq_some_iff.1 h
  cases v with
  | object fs =>
    cases h
    have hfs : (Fields.ofList fs).entries = fs :=
      Entries.ofList_of_sorted (Json.sorted_of_parse? hparse)
    exact ⟨text, htext, by rw [hparse, Fields.toJson, hfs]⟩
  | _ => cases h

theorem object?_eq_none_iff {bytes : ByteArray} :
    object? bytes = none ↔ ∀ fs, ¬ Json.Spells bytes (.object fs) := by
  constructor
  · intro h fs hfs
    obtain ⟨body, -, hbody⟩ := exists_object?_of_spells hfs
    rw [h] at hbody
    cases hbody
  · intro h
    cases ho : object? bytes with
    | none => rfl
    | some body => exact absurd (spells_of_object? ho) (h _)

/-! ### Envelopes key by key -/

variable {e : Envelope}

theorem ext_get? {e' : Envelope} (h : ∀ key, e.get? key = e'.get? key) : e = e' := by
  cases e
  cases e'
  exact congrArg mk (Fields.ext_get? h)

/-- The five fields of an exchange that came to nothing, and no other one. -/
def IsFault (e : Envelope) (message origin : String) : Prop :=
  ∀ key v, e.get? key = some v ↔ (key, v) ∈ [("!message", .string message),
    ("!success", .bool false), ("!httpStatus", .number (.int 0)), ("!origin", .string origin),
    ("!elapsedTime", .number (.int 0))]

/-- The fields of an answer, with three that are noted whatever stood under their keys. -/
structure IsAnswer (e : Envelope) (body : List (String × Json)) (r : Reply) (origin : String) :
    Prop where
  get_status : e.get? "!httpStatus" = some (.number (.int r.status.toNat))
  get_origin : e.get? "!origin" = some (.string origin)
  get_elapsed : e.get? "!elapsedTime" = some (.ofFloat r.elapsed)
  get_other : ∀ key, key ∉ ["!httpStatus", "!origin", "!elapsedTime"] → e.get? key = body.lookup key
  status_eq : e.status = r.status
  origin_eq : e.origin = origin

/-- The envelope that an outcome amounts to. -/
inductive Of : Outcome → Envelope → Prop
  | failed {message : String} {e : Envelope} (h : e.IsFault message "") : Of (.failed message) e
  | unread {r : Reply} {origin : String} {e : Envelope} (ho : r.HasOrigin origin)
      (hbody : ∀ fs, ¬ Json.Spells r.body (.object fs)) (h : e.IsFault "Bad response" origin) :
      Of (.replied r) e
  | read {r : Reply} {origin : String} {body : List (String × Json)} {e : Envelope}
      (ho : r.HasOrigin origin) (hbody : Json.Spells r.body (.object body))
      (h : e.IsAnswer body r origin) : Of (.replied r) e

theorem isFault_iff {message origin : String} :
    e.IsFault message origin ↔ e = failure message origin := by
  have hfailure : (failure message origin).IsFault message origin := fun key v =>
    Entries.lookup_ofList_eq_some_iff (by simp)
  refine ⟨fun h => ext_get? fun key => Option.ext fun v => ?_, fun h => h ▸ hfailure⟩
  rw [h, hfailure]

theorem status_of_get? {n : UInt16} (h : e.get? "!httpStatus" = some (.number (.int n.toNat))) :
    e.status = n := by
  have hn : (n.toNat : Int) < UInt16.size := Int.ofNat_lt.2 n.toNat_lt_size
  rw [status, h]
  simp only [if_pos (And.intro (Int.natCast_nonneg n.toNat) hn), Int.toNat_natCast]
  exact UInt16.ofNat_toNat

theorem message_eq_some_iff {message : String} :
    e.message = some message ↔ e.get? "!message" = some (.string message) := by
  rw [Envelope.message, Json.bind_asString?_eq_some_iff]

theorem origin_of_get? {origin : String} (h : e.get? "!origin" = some (.string origin)) :
    e.origin = origin := by
  rw [Envelope.origin, h]
  rfl

theorem isAnswer_iff {body : Fields} {r : Reply} {origin : String} :
    e.IsAnswer body.entries r origin ↔ e = ofFields body r.status origin r.elapsed := by
  have hget (key : String) : (ofFields body r.status origin r.elapsed).get? key =
      if key = "!elapsedTime" then some (.ofFloat r.elapsed)
      else if key = "!origin" then some (.string origin)
      else if key = "!httpStatus" then some (.number (.int r.status.toNat))
      else body.get? key := by
    rw [get?, ofFields, Fields.get?_insert, Fields.get?_insert, Fields.get?_insert]
  constructor
  · intro h
    refine ext_get? fun key => ?_
    rw [hget]
    split_ifs with htime horigin hstatus
    · rw [htime, h.get_elapsed]
    · rw [horigin, h.get_origin]
    · rw [hstatus, h.get_status]
    · exact h.get_other key (by simp [htime, horigin, hstatus])
  · rintro rfl
    refine ⟨hget _, hget _, hget _, fun key hkey => ?_, status_of_get? (hget _),
      origin_of_get? (hget _)⟩
    simp only [List.mem_cons, List.not_mem_nil, or_false, not_or] at hkey
    rw [hget, if_neg hkey.2.2, if_neg hkey.2.1, if_neg hkey.1]
    rfl

/-- An outcome amounts to one envelope. -/
theorem of_iff {o : Outcome} : Of o e ↔ e = ofOutcome o := by
  constructor
  · intro h
    cases h with
    | failed h => exact isFault_iff.1 h
    | unread ho hbody h =>
      rw [ofOutcome, object?_eq_none_iff.2 hbody, ← Reply.hasOrigin_iff.1 ho]
      exact isFault_iff.1 h
    | read ho hbody h =>
      obtain ⟨body, rfl, hobject⟩ := exists_object?_of_spells hbody
      rw [ofOutcome, hobject, ← Reply.hasOrigin_iff.1 ho]
      exact isAnswer_iff.1 h
  · rintro rfl
    cases o with
    | failed message => exact .failed (isFault_iff.2 rfl)
    | replied r =>
      rw [ofOutcome]
      cases ho : object? r.body with
      | none =>
        exact .unread (Reply.hasOrigin_iff.2 rfl) (object?_eq_none_iff.1 ho) (isFault_iff.2 rfl)
      | some body =>
        exact .read (Reply.hasOrigin_iff.2 rfl) (spells_of_object? ho) (isAnswer_iff.2 rfl)

-- a status of the gateway's own gives way to the real one
example :
    let e := ofOutcome (.replied
      ⟨502, some " kkm-1", "\x7b\"!httpStatus\": \"fine\", \"ok\": true\x7d".toUTF8, 0⟩)
    e.status = 502 ∧ e.origin = "kkm" ∧ (e.get? "ok").isSome := by
  decide +kernel

end Envelope

namespace Connection

/-- A request of either verb is sent once, and what it returns is the one envelope that the outcome
of the exchange amounts to. -/
theorem requests_envelope (c : Connection) (path : String) (w : World) (t : Trace) :
    (∀ key, ∃ r : Request, r.verb = .get ∧ (c.get path key w t).2.sent = t.sent ++ [r] ∧
      ∀ e, Envelope.Of (w.respond t.sent r) e ↔ (c.get path key w t).1 = e) ∧
    ∀ details key, ∃ r : Request, r.verb = .post ∧
      (c.post path details key w t).2.sent = t.sent ++ [r] ∧
      ∀ e, Envelope.Of (w.respond t.sent r) e ↔ (c.post path details key w t).1 = e := by
  constructor
  · intro key
    -- the key may be a new one, which leaves the requests as they are
    rcases key with _ | key
    · exact ⟨c.getRequest path (w.newKey t).1, rfl, rfl, fun e => Envelope.of_iff.trans eq_comm⟩
    · exact ⟨c.getRequest path key, rfl, rfl, fun e => Envelope.of_iff.trans eq_comm⟩
  · intro details key
    exact ⟨c.postRequest path details key, rfl, rfl, fun e => Envelope.of_iff.trans eq_comm⟩

end Connection
end Till
