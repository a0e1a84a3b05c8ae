import Till.Operation.Prepared
import Till.Proofs.Bulk.Merge
import Till.Proofs.Text.Bytes

/-!
# Unknown keys

A merge is preceded by a check of all keys, which finds the first that the kind does not know
(`Job.firstUnknown_of_unknownKey?`). Main statement: a record with an unknown key is refused for the
first of these, whatever else it says, and leaves everything as it was; without one no entry but a
wrapper goes unheeded (`Job.merge_unknownKey`).
-/

namespace Till

namespace Kind
variable {k : Kind} {key : String}

theorem accept_of_not_knows (h : ¬ k.Knows key) (v : Json) : k.accept key v = .ok .skip := by
  unfold accept
  rw [bulkKey_eq_unknown_iff.2 h]

/-- The first key in the order of bytes that the kind does not know, as it is spelt. -/
structure FirstUnknown (k : Kind) (bulk : Fields) (key : String) : Prop where
  mem : key ∈ bulk.keys
  unknown : ¬ k.Knows key
  least : ∀ key' ∈ bulk.keys, ¬ k.Knows key' → Text.bytes key ≤ Text.bytes key'

end Kind

namespace Fields

theorem pairwise_keys (f : Fields) : f.keys.Pairwise (· < ·) :=
  List.pairwise_map.2 f.sorted

/-- The first key with a property stands in front of the others in the order of bytes too. -/
theorem bytes_le_of_find?_keys {f : Fields} {p : String → Bool} {key key' : String}
    (h : f.keys.find? p = some key) (hmem : key' ∈ f.keys) (hp : p key' = true) :
    Text.bytes key ≤ Text.bytes key' := by
  obtain ⟨-, before, after, hkeys, hbefore⟩ := List.find?_eq_some_iff_append.1 h
  refine Text.bytes_le_iff.2 ?_
  rw [hkeys] at hmem
  rcases List.mem_append.1 hmem with hb | ha
  · -- what stands in front does not have it
    have := hbefore key' hb
    rw [hp] at this
    cases this
  · have hsorted := (List.pairwise_append.1 (hkeys ▸ f.pairwise_keys)).2.1
    rcases List.mem_cons.1 ha with rfl | ha
    · exact String.le_refl _
    · exact String.not_lt.1 (String.lt_asymm ((List.pairwise_cons.1 hsorted).1 key' ha))

/-- A search among the keys finds the first in the order of bytes. -/
theorem find?_keys_eq_some_iff {f : Fields} {p : String → Bool} {key : String} :
    f.keys.find? p = some key ↔ key ∈ f.keys ∧ p key = true ∧
      ∀ key' ∈ f.keys, p key' = true → Text.bytes key ≤ Text.bytes key' := by
  constructor
  · intro h
    exact ⟨List.mem_of_find?_eq_some h, List.find?_some h, fun _ => bytes_le_of_find?_keys h⟩
  · rintro ⟨hmem, hp, hleast⟩
    cases h : f.keys.find? p with
    | none => exact absurd hp (List.find?_eq_none.1 h key hmem)
    | some key' =>
      have hle := hleast key' (List.mem_of_find?_eq_some h) (List.find?_some h)
      have hle' := bytes_le_of_find?_keys h hmem hp
      rw [String.le_antisymm (Text.bytes_le_iff.1 hle') (Text.bytes_le_iff.1 hle)]

end Fields

namespace Job
variable {w : World} {k : Kind} {bulk : Fields}

/-! ### The check -/

theorem firstUnknown_of_unknownKey? {key : String} (h : unknownKey? k bulk = some key) :
    k.FirstUnknown bulk key := by
  obtain ⟨hmem, hp, hleast⟩ := Fields.find?_keys_eq_some_iff.1 h
  exact ⟨hmem, of_decide_eq_true hp, fun key' hmem' hunknown =>
    hleast key' hmem' (decide_eq_true hunknown)⟩

theorem unknownKey?_eq_none_iff_knows :
    unknownKey? k bulk = none ↔ ∀ key ∈ bulk.keys, k.Knows key := by
  simp [unknownKey?, List.find?_eq_none]

theorem exists_firstUnknown (h : ∃ key ∈ bulk.keys, ¬ k.Knows key) :
    ∃ key, unknownKey? k bulk = some key ∧ k.FirstUnknown bulk key := by
  cases hu : unknownKey? k bulk with
  | none =>
    obtain ⟨key, hmem, hunknown⟩ := h
    exact absurd (unknownKey?_eq_none_iff_knows.1 hu key hmem) hunknown
  | some key => exact ⟨key, rfl, firstUnknown_of_unknownKey? hu⟩

/-! ### Refusals -/

/-- The record is refused in all ways to merge it, and nothing has happened to the job. -/
structure Refuses (w : World) (bulk : Fields) (j : Job) (t : Trace) (e : ClientError) : Prop where
  merge : j.merge w bulk false t = ((j, t), .error e)
  performWith : j.step w (.performWith bulk) t = ((j, t), .error e)
  prepared : (Prepared.job j).merge w bulk false t = ((.job j, t), .error e)

theorem refuses_of_merge {j : Job} {t : Trace} {e : ClientError}
    (h : j.merge w bulk false t = ((j, t), .error e)) : Refuses w bulk j t e where
  merge := h
  performWith := by simp only [step, h]
  prepared := by rw [Prepared.merge_job, h]

theorem merge_of_unknownKey? {j : Job} {key : String} (h : unknownKey? j.kind bulk = some key)
    (t : Trace) : j.merge w bulk false t = ((j, t), .error (.unknownKey j.kind.method key)) := by
  simp only [merge, h, Bool.false_eq_true, if_false]
  rfl

end Job

namespace Kind
variable {k : Kind}

/-- An entry is refused for its value only. -/
theorem exists_field_of_accept {key : String} {v : Json} {e : ClientError}
    (h : k.accept key v = .error e) : ∃ f, e = .field f := by
  have hlift {c : Checked Effect} (h : c.lift = .error e) : ∃ f, e = .field f := by
    cases c with
    | error f => cases h; exact ⟨f, rfl⟩
    | ok => cases h
  unfold accept at h
  cases hb : k.bulkKey key with
  | skipped | unknown => rw [hb] at h; cases h
  | idempotencyKey =>
    rw [hb] at h
    cases v with
    | null | string => cases h
    | _ => cases h; exact ⟨_, rfl⟩
  | padding | slot => rw [hb] at h; exact hlift h

theorem exists_field_of_acceptAll {l : List (String × Json)} {e : ClientError}
    (h : (k.acceptAll l).2 = .error e) : ∃ f, e = .field f := by
  induction l with
  | nil => cases h
  | cons entry l ih =>
    obtain ⟨key, v⟩ := entry
    rw [acceptAll] at h
    cases ha : k.accept key v with
    | error e' =>
      rw [ha] at h
      cases h
      exact exists_field_of_accept ha
    | ok => rw [ha] at h; exact ih h

end Kind

namespace Job
variable {w : World} {bulk : Fields}

theorem merge_eq_of_knows {j : Job} (h : ∀ key ∈ bulk.keys, j.kind.Knows key)
    (ignoreUnknown : Bool) (t : Trace) :
    j.merge w bulk ignoreUnknown t = applyEntries w bulk.entries j t := by
  rw [merge, unknownKey?_eq_none_iff_knows.2 h, ite_self]

theorem verdict_merge_ne_unknownKey {j : Job} (h : ∀ key ∈ bulk.keys, j.kind.Knows key) (t : Trace)
    (method key : String) : (j.merge w bulk false t).2 ≠ .error (.unknownKey method key) := by
  rw [merge_eq_of_knows h, applyEntries_eq]
  intro he
  obtain ⟨f, hf⟩ := Kind.exists_field_of_acceptAll he
  cases hf

/-- What stops the sending of a job is its own key. -/
theorem verdict_perform_ne_unknownKey (j : Job) (t : Trace) (method key : String) :
    (j.perform w t).1 ≠ .error (.unknownKey method key) := by
  rw [perform_eq]
  cases j.usableKey with
  | some key => exact nofun
  | none => exact nofun

theorem verdict_performWith_ne_unknownKey {j : Job} (h : ∀ key ∈ bulk.keys, j.kind.Knows key)
    (t : Trace) (method key : String) :
    (j.step w (.performWith bulk) t).2 ≠ .error (.unknownKey method key) := by
  have hm := verdict_merge_ne_unknownKey (w := w) h t method key
  have hverdict : (JobStep.effects j.kind (.performWith bulk)).2 = (j.merge w bulk false t).2 := by
    rw [merge_eq]
    rfl
  rw [step_eq, hverdict]
  generalize Effect.runAll w (JobStep.effects j.kind (.performWith bulk)).1 (j, t) = state
  cases hmerge : (j.merge w bulk false t).2 with
  | error e =>
    intro he
    cases he
    exact hm hmerge
  | ok =>
    have hp := verdict_perform_ne_unknownKey (w := w) state.1 state.2 method key
    show (state.1.perform w state.2).1.map some ≠ .error (.unknownKey method key)
    cases hsent : (state.1.perform w state.2).1 with
    | error e =>
      intro he
      cases he
      exact hp hsent
    | ok => exact nofun

theorem verdict_prepared_ne_unknownKey {j : Job} (h : ∀ key ∈ bulk.keys, j.kind.Knows key)
    (t : Trace) (method key : String) :
    ((Prepared.job j).merge w bulk false t).2 ≠ .error (.unknownKey method key) := by
  rw [Prepared.merge_job]
  exact verdict_merge_ne_unknownKey h t method key

/-- A record with a key that the kind does not know is refused for the first such key in the order
of bytes, as it is spelt, and nothing has happened, whatever the other entries say. A record without
one is never refused for a key, and when it merges, every entry has made the calls that it stands
for: only a wrapper stands for none by its key. -/
theorem merge_unknownKey (bulk : Fields) (j : Job) (t : Trace) :
    ((∃ key ∈ bulk.keys, ¬ j.kind.Knows key) →
      ∃ key, j.kind.FirstUnknown bulk key ∧ Refuses w bulk j t (.unknownKey j.kind.method key)) ∧
    ((∀ key ∈ bulk.keys, j.kind.Knows key) →
      (∀ method key, (j.merge w bulk false t).2 ≠ .error (.unknownKey method key) ∧
        (j.step w (.performWith bulk) t).2 ≠ .error (.unknownKey method key) ∧
        ((Prepared.job j).merge w bulk false t).2 ≠ .error (.unknownKey method key)) ∧
      ∀ state, j.merge w bulk false t = (state, .ok ()) →
        ∃ calls, j.kind.DenotesAll bulk.entries calls ∧ Call.runAll w calls (j, t) = .ok state) := by
  refine ⟨fun h => ?_, fun h => ⟨fun method key => ?_, fun state hm => ?_⟩⟩
  · obtain ⟨key, hu, hfirst⟩ := exists_firstUnknown h
    exact ⟨key, hfirst, refuses_of_merge (merge_of_unknownKey? hu t)⟩
  · exact ⟨verdict_merge_ne_unknownKey h t method key,
      verdict_performWith_ne_unknownKey h t method key,
      verdict_prepared_ne_unknownKey h t method key⟩
  · obtain ⟨calls, hcalls⟩ := exists_denotesAll (w := w) (t := t) (congrArg Prod.snd hm)
    refine ⟨calls, hcalls, ?_⟩
    rw [merge_of_denotesAll hcalls, hm]
    rfl

-- the value of the tax, which is no tax at all, is not looked at
example :
    unknownKey? (.device .sell)
      (.ofList [("TAX", .bool true), ("taxes", .null), ("Total", .null)]) = some "Total" := by
  decide +kernel

end Job
end Till
