import Till.Proofs.Operation.Body
import Till.Proofs.Operation.Key

/-!
# What effects write

Each key of the details goes its own way: what stands under it after effects hangs on what stood
there and on the writes to it, in their order (`Effect.get?_runAll`). So it is all one to a job in
what order effects write to different keys (`Effect.runAll_congr`). An entry of a bulk record that
writes to a key has the name of that key, in some case of its letters (`Kind.lower_of_write`).
-/

namespace Till

namespace Effect
variable {w : World} {es : List Effect} {key : String}

/-- The write of the effect, if it is one to the key. -/
def writeTo? (key : String) : Effect → Option Write
  | write x => if x.key = key then some x else none
  | _ => none

def writesTo (key : String) (es : List Effect) : List Write :=
  es.filterMap (writeTo? key)

theorem writeTo?_eq_some_iff {e : Effect} {x : Write} :
    e.writeTo? key = some x ↔ e = .write x ∧ x.key = key := by
  cases e with
  | skip | pin => simp [writeTo?]
  | write y =>
    simp only [writeTo?, Option.ite_none_right_eq_some, Option.some.injEq, write.injEq]
    constructor
    · rintro ⟨hkey, rfl⟩
      exact ⟨rfl, hkey⟩
    · rintro ⟨rfl, hkey⟩
      exact ⟨hkey, rfl⟩

theorem mem_writesTo {x : Write} : x ∈ writesTo key es ↔ .write x ∈ es ∧ x.key = key := by
  simp only [writesTo, List.mem_filterMap, writeTo?_eq_some_iff]
  constructor
  · rintro ⟨e, he, rfl, hkey⟩
    exact ⟨he, hkey⟩
  · rintro ⟨he, hkey⟩
    exact ⟨_, he, rfl, hkey⟩

theorem runAll_append (es es' : List Effect) (s : Job × Trace) :
    runAll w (es ++ es') s = runAll w es' (runAll w es s) :=
  List.foldl_append

theorem get?_runAll (es : List Effect) (s : Job × Trace) (key : String) :
    (runAll w es s).1.details.get? key =
      Write.afterAll (writesTo key es) (s.1.details.get? key) := by
  induction es generalizing s with
  | nil => rfl
  | cons e es ih =>
    rw [runAll_cons, ih]
    cases e with
    | skip => rfl
    | pin k => rfl
    | write x =>
      show Write.afterAll (writesTo key es) ((x.run s.1.details).get? key) = _
      rw [Write.get?_run, writesTo, writesTo, List.filterMap_cons]
      by_cases hkey : x.key = key
      · simp [writeTo?, hkey, Write.afterAll]
      · simp [writeTo?, hkey, Ne.symm hkey]

end Effect

/-- What a job and a trace consist of, details key by key. -/
theorem Job.state_ext {s s' : Job × Trace} (hconnection : s.1.connection = s'.1.connection)
    (hkind : s.1.kind = s'.1.kind) (hdetails : ∀ key, s.1.details.get? key = s'.1.details.get? key)
    (hkey : (s.1.key, s.2.drawn) = (s'.1.key, s'.2.drawn)) (hsent : s.2.sent = s'.2.sent) :
    s = s' := by
  obtain ⟨⟨c, k, d, key, _⟩, ⟨drawn, sent⟩⟩ := s
  obtain ⟨⟨c', k', d', key', _⟩, ⟨drawn', sent'⟩⟩ := s'
  obtain rfl : d = d' := Details.ext_get? hdetails
  cases hconnection
  cases hkind
  cases hkey
  cases hsent
  rfl

/-- Effects that pin the same, and write the same to each key, do the same. -/
theorem Effect.runAll_congr {w : World} {es es' : List Effect}
    (hwrites : ∀ key, writesTo key es = writesTo key es')
    (hpins : es.filterMap pin? = es'.filterMap pin?) (s : Job × Trace) :
    runAll w es s = runAll w es' s := by
  refine Job.state_ext ?_ ?_ (fun key => ?_) ?_ ?_
  · rw [runAll_connection, runAll_connection]
  · rw [runAll_kind, runAll_kind]
  · rw [get?_runAll, get?_runAll, hwrites]
  · rw [runAll_key, runAll_key, hpins]
  · rw [runAll_sent, runAll_sent]

/-! ### The names of keys -/

/-- The name in lower case by which a bulk record knows a key of the details. -/
def Details.bulkName (key : String) : String :=
  if key = "*padding*" then "padding" else Text.lower key

theorem Slot.bulkName_key (s : Slot) : Details.bulkName s.key = s.foldedKey := by
  rw [Details.bulkName, if_neg (key_ne (by decide) s), s.lower_key]

namespace Kind
variable {k : Kind} {key : String} {v : Json}

theorem lower_of_write {x : Write} (h : k.accept key v = .ok (.write x)) :
    Text.lower key = Details.bulkName x.key := by
  cases accepts_of_accept h with
  | padding hb => exact bulkKey_eq_padding_iff.1 hb
  | @slot s _ _ hb hx =>
    rw [Slot.key_of_accept hx, s.bulkName_key]
    exact (bulkKey_eq_slot_iff.1 hb).2

theorem idempotencyKey_of_pin {pin : Option String} (h : k.accept key v = .ok (.pin pin)) :
    Text.lower key = "idempotencykey" ∧ (pin = none → v = .null) := by
  cases accepts_of_accept h with
  | newKey hb => exact ⟨bulkKey_eq_idempotencyKey_iff.1 hb, fun _ => rfl⟩
  | key hb => exact ⟨bulkKey_eq_idempotencyKey_iff.1 hb, nofun⟩

end Kind
end Till
