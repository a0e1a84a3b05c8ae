import Till.Proofs.Bulk.Prefix
import Till.Proofs.Operation.Key

/-!
# Applied entries

The entries of a bulk record that a merge applies (`Kind.applied`) are told from what the merge comes
to (`Job.applies_applied`): all of them if it succeeds, those in front of the one at which it stops,
or none if the record is refused for a key. Each of them has its effect, and the merge has no others
(`Job.forall₂_bulkEffects`).
-/

namespace Till

namespace Kind

/-- Each applied entry has its effect. -/
theorem forall₂_acceptAll (k : Kind) (l : List (String × Json)) :
    List.Forall₂ (fun entry e => k.accept entry.1 entry.2 = .ok e)
      (l.takeWhile fun entry => (k.accept entry.1 entry.2).isOk) (k.acceptAll l).1 := by
  induction l with
  | nil => exact .nil
  | cons entry l ih =>
    obtain ⟨key, v⟩ := entry
    rw [acceptAll, List.takeWhile_cons]
    cases ha : k.accept key v with
    | error err => exact .nil
    | ok e => exact .cons ha ih

end Kind

namespace Job
variable {w : World}

theorem forall₂_bulkEffects (k : Kind) (bulk : Fields) (ignoreUnknown : Bool) :
    List.Forall₂ (fun entry e => k.accept entry.1 entry.2 = .ok e) (k.applied bulk ignoreUnknown)
      (bulkEffects k bulk ignoreUnknown).1 := by
  unfold Kind.applied bulkEffects
  cases if ignoreUnknown = true then none else unknownKey? k bulk with
  | some key => exact .nil
  | none => exact k.forall₂_acceptAll bulk.entries

/-- Which entries of a bulk record a merge applies. -/
inductive Applies (w : World) (bulk : Fields) (ignoreUnknown : Bool) (j : Job) (t : Trace) :
    List (String × Json) → Prop
  | all (h : (j.merge w bulk ignoreUnknown t).2 = .ok ()) :
      Applies w bulk ignoreUnknown j t bulk.entries
  | unknown {key : String}
      (h : j.merge w bulk ignoreUnknown t = ((j, t), .error (.unknownKey j.method key))) :
      Applies w bulk ignoreUnknown j t []
  | front {e : ClientError} {i : Nat} (h : StopsAt w bulk ignoreUnknown j t e i) :
      Applies w bulk ignoreUnknown j t (bulk.entries.take i)

theorem applies_applied (bulk : Fields) (ignoreUnknown : Bool) (j : Job) (t : Trace) :
    Applies w bulk ignoreUnknown j t (j.kind.applied bulk ignoreUnknown) := by
  unfold Kind.applied
  cases hcheck : if ignoreUnknown then none else unknownKey? j.kind bulk with
  | some key => exact .unknown (by rw [merge, hcheck])
  | none =>
    have hpasses : ignoreUnknown = true ∨ ∀ key ∈ bulk.keys, j.kind.Knows key := by
      cases ignoreUnknown with
      | true => exact .inl rfl
      | false => exact .inr (unknownKey?_eq_none_iff_knows.1 hcheck)
    cases hverdict : (j.merge w bulk ignoreUnknown t).2 with
    | ok =>
      have hall := hverdict
      rw [merge_eq_of_passes hpasses] at hall
      rw [List.takeWhile_eq_self_iff.2 (Kind.verdict_acceptAll_iff.1 hall)]
      exact .all hverdict
    | error e =>
      obtain ⟨i, hi⟩ := exists_stopsAt hpasses hverdict
      obtain ⟨key, v, hentry, herror, hfront⟩ := accept_of_stopsAt hpasses hi
      -- the entries in front are accepted, and the one where the merge stops is not
      have htake : (bulk.entries.takeWhile fun e => (j.kind.accept e.1 e.2).isOk) =
          bulk.entries.take i := by
        obtain ⟨hlt, hget⟩ := List.getElem?_eq_some_iff.1 hentry
        conv_lhs => rw [← List.take_append_drop i bulk.entries, List.drop_eq_getElem_cons hlt, hget]
        rw [List.takeWhile_append_of_pos (Kind.verdict_acceptAll_iff.1 hfront),
          List.takeWhile_cons_of_neg (by rw [herror]; exact Bool.false_ne_true), List.append_nil]
      rw [htake]
      exact .front hi

end Job
end Till
