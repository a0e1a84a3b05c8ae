import Till.Proofs.Bulk.Unknown

/-!
# Merges that fail

An entry that is refused does nothing, and nothing behind it is looked at: the effects of a merge
that fails are those of the entries in front of one that fails by itself
(`Kind.acceptAll_eq_error_iff`). Unknown entries that are ignored count as if they were not there
(`Kind.acceptAll_filter_knows`). Main statement: `Job.merge_upTo_failure`.
-/

namespace Till

namespace Fields

/-- The first `n` entries in the order of their keys. -/
def take (f : Fields) (n : Nat) : Fields :=
  ⟨f.entries.take n, f.sorted.take⟩

def single (key : String) (v : Json) : Fields :=
  ⟨[(key, v)], List.pairwise_singleton ..⟩

theorem pairwise_bytes (f : Fields) :
    f.entries.Pairwise fun a b => Text.bytes a.1 < Text.bytes b.1 :=
  f.sorted.imp Text.bytes_lt_of_lt

end Fields

/-! ### Entries up to the first that is refused -/

namespace Kind
variable {k : Kind} {w : World} {l before after : List (String × Json)} {e : ClientError}

theorem acceptAll_append (h : (k.acceptAll before).2 = .ok ()) (l : List (String × Json)) :
    k.acceptAll (before ++ l) =
      ((k.acceptAll before).1 ++ (k.acceptAll l).1, (k.acceptAll l).2) := by
  induction before with
  | nil => rfl
  | cons entry before ih =>
    obtain ⟨key, v⟩ := entry
    rw [acceptAll] at h ⊢
    rw [List.cons_append, acceptAll]
    cases ha : k.accept key v with
    | error e => rw [ha] at h; cases h
    | ok e =>
      rw [ha] at h
      simp only [ih h, List.cons_append]

theorem acceptAll_stop {key : String} {v : Json} (h : (k.acceptAll before).2 = .ok ())
    (he : k.accept key v = .error e) :
    k.acceptAll (before ++ (key, v) :: after) = ((k.acceptAll before).1, .error e) := by
  have hstop : k.acceptAll ((key, v) :: after) = ([], .error e) := by
    rw [acceptAll, he]
  rw [acceptAll_append h, hstop, List.append_nil]

/-- Entries fail just if one of them does and those in front of it do not. -/
theorem acceptAll_eq_error_iff :
    (k.acceptAll l).2 = .error e ↔ ∃ before key v after, l = before ++ (key, v) :: after ∧
      (k.acceptAll before).2 = .ok () ∧ k.accept key v = .error e := by
  constructor
  · intro h
    induction l with
    | nil => cases h
    | cons entry l ih =>
      obtain ⟨key, v⟩ := entry
      rw [acceptAll] at h
      cases ha : k.accept key v with
      | error e' =>
        rw [ha] at h
        cases h
        exact ⟨[], key, v, l, rfl, rfl, ha⟩
      | ok x =>
        rw [ha] at h
        obtain ⟨before, key', v', after, rfl, hb, he⟩ := ih h
        refine ⟨(key, v) :: before, key', v', after, rfl, ?_, he⟩
        rw [acceptAll, ha]
        exact hb
  · rintro ⟨before, key, v, after, rfl, hb, he⟩
    rw [acceptAll_stop hb he]

theorem acceptAll_filter_knows (l : List (String × Json)) :
    (k.acceptAll (l.filter (k.Knows ·.1))).2 = (k.acceptAll l).2 ∧
      ∀ s, Effect.runAll w (k.acceptAll (l.filter (k.Knows ·.1))).1 s =
        Effect.runAll w (k.acceptAll l).1 s := by
  induction l with
  | nil => exact ⟨rfl, fun _ => rfl⟩
  | cons entry l ih =>
    obtain ⟨key, v⟩ := entry
    by_cases hk : k.Knows key
    · rw [List.filter_cons_of_pos (by simpa using hk), acceptAll, acceptAll]
      cases k.accept key v with
      | error e => exact ⟨rfl, fun _ => rfl⟩
      | ok e => exact ⟨ih.1, fun s => ih.2 (e.run w s)⟩
    · rw [List.filter_cons_of_neg (by simpa using hk), acceptAll, accept_of_not_knows hk]
      exact ih

/-- What has merged has made the calls of its entries, those ignored apart. -/
theorem exists_denotesAll_filter (h : (k.acceptAll l).2 = .ok ()) :
    ∃ calls, k.DenotesAll (l.filter (k.Knows ·.1)) calls ∧ ∀ s,
      Call.runAll w calls s = .ok (Effect.runAll w (k.acceptAll l).1 s) := by
  obtain ⟨hverdict, hrun⟩ := acceptAll_filter_knows (k := k) (w := w) l
  have hknown : ∀ e ∈ l.filter (k.Knows ·.1), k.bulkKey e.1 ≠ .unknown := fun e he hu =>
    bulkKey_eq_unknown_iff.1 hu (by simpa using (List.mem_filter.1 he).2)
  obtain ⟨calls, hcalls⟩ := DenotesAll.exists_of_acceptAll (hverdict.trans h) hknown
  refine ⟨calls, hcalls, fun s => ?_⟩
  rw [hcalls.runAll_eq, hverdict, h, hrun]
  rfl

end Kind

/-! ### Merges -/

namespace Job
variable {w : World} {bulk : Fields} {ignoreUnknown : Bool} {j : Job} {t : Trace}

theorem merge_eq_of_passes (h : ignoreUnknown = true ∨ ∀ key ∈ bulk.keys, j.kind.Knows key) :
    j.merge w bulk ignoreUnknown t =
      (Effect.runAll w (j.kind.acceptAll bulk.entries).1 (j, t),
        (j.kind.acceptAll bulk.entries).2) := by
  rcases h with rfl | h
  · rw [merge, if_pos rfl]
    exact applyEntries_eq ..
  · rw [merge_eq_of_knows h, applyEntries_eq]

/-- The merge has stopped at the entry with the number `i`. -/
structure StopsAt (w : World) (bulk : Fields) (ignoreUnknown : Bool) (j : Job) (t : Trace)
    (e : ClientError) (i : Nat) : Prop where
  /-- The entry fails by itself, and by itself it does nothing. -/
  alone : ∃ key v, bulk.entries[i]? = some (key, v) ∧
    j.merge w (.single key v) ignoreUnknown t = ((j, t), .error e)
  /-- The entries in front of it merge, and to what the whole merge leaves. -/
  before : j.merge w (bulk.take i) ignoreUnknown t = ((j.merge w bulk ignoreUnknown t).1, .ok ())

section
variable (h : ignoreUnknown = true ∨ ∀ key ∈ bulk.keys, j.kind.Knows key)
include h

theorem merge_take (t : Trace) (i : Nat) :
    j.merge w (bulk.take i) ignoreUnknown t =
      (Effect.runAll w (j.kind.acceptAll (bulk.entries.take i)).1 (j, t),
        (j.kind.acceptAll (bulk.entries.take i)).2) := by
  refine merge_eq_of_passes (h.imp_right fun h key hkey => h key ?_)
  rw [Fields.keys, Fields.take, List.map_take] at hkey
  exact List.mem_of_mem_take hkey

theorem merge_single (t : Trace) {key : String} {v : Json} (hmem : (key, v) ∈ bulk.entries) :
    j.merge w (.single key v) ignoreUnknown t =
      (Effect.runAll w (j.kind.acceptAll [(key, v)]).1 (j, t), (j.kind.acceptAll [(key, v)]).2) := by
  refine merge_eq_of_passes (h.imp_right fun h key' hkey => ?_)
  cases List.mem_singleton.1 hkey
  exact h key (List.mem_map_of_mem hmem)

theorem accept_of_stopsAt {e : ClientError} {i : Nat}
    (hs : StopsAt w bulk ignoreUnknown j t e i) :
    ∃ key v, bulk.entries[i]? = some (key, v) ∧ j.kind.accept key v = .error e ∧
      (j.kind.acceptAll (bulk.entries.take i)).2 = .ok () := by
  obtain ⟨key, v, hi, halone⟩ := hs.alone
  refine ⟨key, v, hi, ?_, ?_⟩
  · rw [merge_single h t (List.mem_of_getElem? hi)] at halone
    have hverdict : (j.kind.acceptAll [(key, v)]).2 = .error e := congrArg Prod.snd halone
    rw [Kind.acceptAll] at hverdict
    cases ha : j.kind.accept key v with
    | error e' => rw [ha] at hverdict; cases hverdict; rfl
    | ok x => rw [ha] at hverdict; cases hverdict
  · exact (congrArg Prod.snd (merge_take h t i)).symm.trans (congrArg Prod.snd hs.before)

/-- Of two places where a merge stops neither lies behind the other. -/
theorem not_lt_of_stopsAt {e e' : ClientError} {i i' : Nat}
    (hs : StopsAt w bulk ignoreUnknown j t e i) (hs' : StopsAt w bulk ignoreUnknown j t e' i') :
    ¬ i < i' := by
  intro hlt
  obtain ⟨key, v, hi, he, -⟩ := accept_of_stopsAt h hs
  obtain ⟨-, -, -, -, hok⟩ := accept_of_stopsAt h hs'
  have hmem : (key, v) ∈ bulk.entries.take i' :=
    List.mem_of_getElem? ((List.getElem?_take_of_lt hlt).trans hi)
  have := Kind.verdict_acceptAll_iff.1 hok (key, v) hmem
  rw [he] at this
  cases this

theorem exists_stopsAt {e : ClientError} (he : (j.merge w bulk ignoreUnknown t).2 = .error e) :
    ∃ i, StopsAt w bulk ignoreUnknown j t e i := by
  have hmerge := merge_eq_of_passes (w := w) (t := t) h
  rw [hmerge] at he
  obtain ⟨before, key, v, after, hl, hb, hv⟩ := Kind.acceptAll_eq_error_iff.1 he
  refine ⟨before.length, ⟨key, v, by simp [hl], ?_⟩, ?_⟩
  · rw [merge_single h t (by simp [hl]), Kind.acceptAll, hv]
    rfl
  · rw [merge_take h, hmerge, hl, List.take_left, Kind.acceptAll_stop hb hv, hb]

/-- The entries stand in the order of the bytes of their keys. A merge that fails has stopped at
one of them: that entry fails by itself, and what is left is what the entries in front of it leave
when they are merged. A merge that succeeds has made the calls of all entries, those apart whose keys
are ignored. -/
theorem merge_upTo_failure (t : Trace) :
    (bulk.entries.Pairwise fun a b => Text.bytes a.1 < Text.bytes b.1) ∧
    (∀ e, (j.merge w bulk ignoreUnknown t).2 = .error e →
      ∃! i, StopsAt w bulk ignoreUnknown j t e i) ∧
    ∀ state, j.merge w bulk ignoreUnknown t = (state, .ok ()) →
      ∃ calls, j.kind.DenotesAll (bulk.entries.filter (j.kind.Knows ·.1)) calls ∧
        Call.runAll w calls (j, t) = .ok state := by
  refine ⟨bulk.pairwise_bytes, fun e he => ?_, fun state hm => ?_⟩
  · obtain ⟨i, hi⟩ := exists_stopsAt h he
    refine ⟨i, hi, fun i' hi' => ?_⟩
    exact Nat.le_antisymm (Nat.not_lt.1 (not_lt_of_stopsAt h hi hi'))
      (Nat.not_lt.1 (not_lt_of_stopsAt h hi' hi))
  · rw [merge_eq_of_passes h] at hm
    obtain ⟨calls, hcalls, hrun⟩ := Kind.exists_denotesAll_filter (w := w) (congrArg Prod.snd hm)
    exact ⟨calls, hcalls, (hrun (j, t)).trans (congrArg (fun p => Except.ok p.1) hm)⟩

end

/-- A record for a sale in which an operator without a name stands behind the items. -/
def halfSale : Fields :=
  .ofList [("Items", .array [.object [("price", .number (.real 12.5)), ("title", .string "Tea")]]),
    ("operator", .object [("name", .string " ")]), ("tax", .string "vat20")]

theorem merge_upTo_failure_sale :
    let w : World := .unreachable .ofNat "down"
    let j := fresh ⟨"host", "secret", "7"⟩ (.device .sell) rfl
    let out := j.merge w halfSale false .start
    (∀ key ∈ halfSale.keys, j.kind.Knows key) ∧
      (∃ e, out.2 = .error e ∧ ∃! i, StopsAt w halfSale false j .start e i) ∧
      (out.1.1.details.get? "items").isSome ∧ (out.1.1.details.get? "tax").isNone := by
  intro w j out
  have hknows : ∀ key ∈ halfSale.keys, j.kind.Knows key := by decide
  have hfails : out.2.isOk = false := by decide +kernel
  refine ⟨hknows, ?_, by decide +kernel, by decide +kernel⟩
  cases he : out.2 with
  | error e => exact ⟨e, rfl, (merge_upTo_failure (.inr hknows) .start).2.1 e he⟩
  | ok => rw [he] at hfails; cases hfails

end Job
end Till
