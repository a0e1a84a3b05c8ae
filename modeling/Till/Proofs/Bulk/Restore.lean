import Till.Proofs.Bulk.Unknown
import Till.Proofs.Details.Held

/-!
# Details as a record of their own

The details of a job name their slots as a bulk record does, up to the case of letters
(`Slot.lower_key`), so they can be merged into another job of the kind. Each value finds its slot
empty and is written there as it is (`Kind.exists_accept_of_holds`); only the padding stands under
a key by which no record names it. Main statement: whatever steps a job has taken, a new one that
merges its details has the same (`Job.run_restored`).
-/

namespace Till

/-! ### Setting values one after another -/

namespace Details

def insertAll (d : Details) (l : List (String × Json)) : Details :=
  l.foldl (fun d e => d.insert e.1 e.2) d

theorem entries_insertAll (d : Details) (l : List (String × Json)) :
    (d.insertAll l).fields.entries = Entries.insertAll d.fields.entries l := by
  induction l generalizing d with
  | nil => rfl
  | cons e l ih => exact ih (d.insert e.1 e.2)

/-- New details with all values but one. -/
theorem insertAll_erase (d : Details) (key : String) :
    empty.insertAll (Entries.erase key d.fields.entries) = d.erase key := by
  have hsorted := Entries.sorted_erase d.fields.sorted key
  have he : (empty.insertAll (Entries.erase key d.fields.entries)).fields.entries =
      (d.erase key).fields.entries :=
    (entries_insertAll _ _).trans (Entries.ofList_of_sorted hsorted)
  refine ext_get? fun k => ?_
  simp only [get?, Fields.get?, he]

theorem get?_of_mem {d : Details} {e : String × Json} (he : e ∈ d.fields.entries) :
    d.get? e.1 = some e.2 :=
  Entries.lookup_of_mem d.fields.sorted.nodup_keys he

theorem erase_of_get? {d : Details} {key : String} (h : d.get? key = none) : d.erase key = d := by
  refine ext_get? fun k => ?_
  rw [get?_erase]
  split
  · rename_i hk
    rw [hk, h]
  · rfl

end Details

/-- A write to an empty slot sets its value. -/
theorem Write.run_eq_insert {x : Write} {v : Json} (hx : x.after none = some v) {d : Details}
    (hd : d.get? x.key = none) : x.run d = d.insert x.key v := by
  refine Details.ext_get? fun key => ?_
  rw [get?_run, Details.get?_insert]
  split
  · rename_i hkey
    rw [hkey, hd, hx]
  · rfl

/-! ### The keys of slots -/

namespace Kind
variable {k : Kind}

/-- The key of the padding in the details is not that of the padding in a record. -/
theorem not_knows_padding (k : Kind) : ¬ k.Knows "*padding*" := by
  have hlower : Text.lower "*padding*" = "*padding*" := by decide
  rw [Knows, hlower, bulkKeys, List.mem_append]
  rintro (h | h)
  · exact absurd h (by decide)
  · obtain ⟨s, -, hs⟩ := List.mem_map.1 h
    exact Slot.foldedKey_ne (by decide) s hs

theorem knows_key {s : Slot} (hs : s ∈ k.slots) : k.Knows s.key := by
  rw [Knows, s.lower_key]
  exact List.mem_append_right _ (List.mem_map_of_mem hs)

theorem accept_key {s : Slot} (hs : s ∈ k.slots) {v : Json} {x : Write} (hx : s.accept v = .ok x) :
    k.accept s.key v = .ok (.write x) := by
  rw [accept_slot hs s.lower_key, hx]
  rfl

/-- What a slot holds is accepted under the key of the slot, and set there if nothing is. -/
theorem exists_accept_of_holds {s : Slot} (hs : s ∈ k.slots) {v : Json} (h : s.Holds v) :
    ∃ x, k.accept s.key v = .ok (.write x) ∧
      ∀ d : Details, d.get? s.key = none → x.run d = d.insert s.key v := by
  obtain ⟨x, hx, hv⟩ := h
  obtain ⟨x', hx', hrun⟩ := x.exists_accept_after hx hv
  refine ⟨x', accept_key hs hx', fun d hd => ?_⟩
  rw [← Write.key_of_slot hx] at hd ⊢
  rw [hrun, Write.run_eq_insert hv hd]

end Kind

/-! ### Merging details -/

/-- An entry of the details of a job: the padding, or what a slot of the kind holds. -/
def Kind.OwnEntry (k : Kind) (e : String × Json) : Prop :=
  e.1 = "*padding*" ∨ ∃ s ∈ k.slots, s.key = e.1 ∧ s.Holds e.2

/-- Entries of details merge into details that have nothing under their keys, and all but the
padding are set. -/
theorem Kind.acceptAll_ownEntries {k : Kind} {w : World} {l : List (String × Json)}
    (hnodup : (l.map (·.1)).Nodup) (hl : ∀ e ∈ l, k.OwnEntry e) {j : Job} (t : Trace)
    (hfree : ∀ e ∈ l, j.details.get? e.1 = none) :
    (k.acceptAll l).2 = .ok () ∧
      Effect.runAll w (k.acceptAll l).1 (j, t) =
        ({ j with details := j.details.insertAll (Entries.erase "*padding*" l) }, t) := by
  induction l generalizing j with
  | nil => exact ⟨rfl, rfl⟩
  | cons e l ih =>
    obtain ⟨key, v⟩ := e
    obtain ⟨hkey, hnodup'⟩ := List.nodup_cons.1 hnodup
    obtain ⟨hown, hl'⟩ := List.forall_mem_cons.1 hl
    obtain ⟨hv, hrest⟩ := List.forall_mem_cons.1 hfree
    rcases hown with rfl | ⟨s, hs, rfl, hholds⟩
    · have hpass : Entries.erase "*padding*" (("*padding*", v) :: l) = Entries.erase "*padding*" l :=
        List.filter_cons_of_neg (by simp)
      rw [acceptAll, accept_of_not_knows k.not_knows_padding, hpass]
      exact ih hnodup' hl' hrest
    · have hne : s.key ≠ "*padding*" := Slot.key_ne (by decide) s
      have htake : Entries.erase "*padding*" ((s.key, v) :: l) =
          (s.key, v) :: Entries.erase "*padding*" l :=
        List.filter_cons_of_pos (by simpa using hne)
      obtain ⟨x, hx, hrun⟩ := exists_accept_of_holds hs hholds
      have hstep : (Effect.write x).run w (j, t) =
          ({ j with details := j.details.insert s.key v }, t) := by
        rw [Effect.run, hrun _ hv]
      -- the keys that are still to come are other ones
      have hfree' : ∀ e ∈ l, (j.details.insert s.key v).get? e.1 = none := by
        intro e he
        have hother : e.1 ≠ s.key := fun h => hkey (List.mem_map.2 ⟨e, he, h⟩)
        rw [Details.get?_insert, if_neg hother]
        exact hrest e he
      rw [acceptAll, hx, htake]
      simp only [Effect.runAll_cons, hstep]
      exact ih hnodup' hl' (j := { j with details := j.details.insert s.key v }) hfree'

/-- The details are of the kind, and each slot holds what one write leaves there. -/
structure Details.Own (k : Kind) (d : Details) : Prop where
  conforms : d.Conforms k
  held : d.Held

namespace Details.Own
variable {k : Kind} {d : Details}

theorem ownEntry (h : d.Own k) : ∀ e ∈ d.fields.entries, k.OwnEntry e := by
  intro e he
  have hv := get?_of_mem he
  refine (h.conforms.known e.1 e.2 hv).imp_right ?_
  rintro ⟨s, hs, hkey⟩
  exact ⟨s, hs, hkey, h.held s e.2 (by rw [hkey]; exact hv)⟩

theorem knows (h : d.Own k) (hp : d.get? "*padding*" = none) :
    ∀ key ∈ d.fields.keys, k.Knows key := by
  intro key hkey
  obtain ⟨e, he, rfl⟩ := List.mem_map.1 hkey
  rcases h.ownEntry e he with hpad | ⟨s, hs, hslot, -⟩
  · have hv := get?_of_mem he
    rw [hpad, hp] at hv
    cases hv
  · rw [← hslot]
    exact Kind.knows_key hs

theorem acceptAll (h : d.Own k) {w : World} {j : Job} (hj : j.details = .empty) (t : Trace) :
    (k.acceptAll d.fields.entries).2 = .ok () ∧
      Effect.runAll w (k.acceptAll d.fields.entries).1 (j, t) =
        ({ j with details := d.erase "*padding*" }, t) := by
  have hfree : ∀ e ∈ d.fields.entries, j.details.get? e.1 = none := by
    intro e _
    rw [hj]
    rfl
  rw [← insertAll_erase, ← hj]
  exact Kind.acceptAll_ownEntries d.fields.sorted.nodup_keys h.ownEntry t hfree

end Details.Own

namespace Job
variable {w w' : World} {k : Kind}

theorem merge_ownDetails {d : Details} (h : d.Own k) (c : Connection) (hk : k.isQuery = false)
    (t : Trace) :
    (fresh c k hk).merge w d.fields true t =
      (({ fresh c k hk with details := d.erase "*padding*" }, t), .ok ()) := by
  obtain ⟨hverdict, hrun⟩ := h.acceptAll (w := w) (j := fresh c k hk) rfl t
  rw [merge, if_pos rfl]
  exact (applyEntries_eq ..).trans (Prod.ext hrun hverdict)

theorem merge_ownDetails_of_noPadding {d : Details} (h : d.Own k) (hp : d.get? "*padding*" = none)
    (c : Connection) (hk : k.isQuery = false) (t : Trace) :
    (fresh c k hk).merge w d.fields false t = (({ fresh c k hk with details := d }, t), .ok ()) := by
  have hm := merge_ownDetails (w := w) h c hk t
  rw [Details.erase_of_get? hp] at hm
  rw [← hm, merge_eq_of_knows (j := fresh c k hk) (h.knows hp),
    merge_eq_of_knows (j := fresh c k hk) (h.knows hp)]

/-- The details of a job are its own, whatever steps it has taken. -/
theorem run_own {steps : List JobStep} (hsteps : ∀ s ∈ steps, k.allows s = true) (c : Connection)
    (hk : k.isQuery = false) (t : Trace) :
    (run w steps (fresh c k hk) t).1.1.details.Own k := by
  let P (j : Job) (_ : Trace) : Prop := j.kind = k ∧ j.details.Own k
  have hstep : ∀ s j t, k.allows s = true → P j t → P (j.step w s t).1.1 (j.step w s t).1.2 := by
    rintro s j t hs ⟨hj, hd⟩
    refine ⟨by rw [step_kind, hj], step_conforms hs hj t hd.conforms, ?_⟩
    rw [step_job]
    exact Effect.runAll_held _ hd.held
  have hstart : P (fresh c k hk) t := ⟨rfl, .empty k, .empty⟩
  exact (run_invariant (P := P) hstep hsteps hstart).2

/-- Whatever steps a job has taken, a new job of its kind merges the details it has then: it ends
up with the same details but for the padding, and without a key. Without padding there is no key to
ignore. -/
theorem run_restored (c c' : Connection) (hk : k.isQuery = false) (steps : List JobStep)
    (hsteps : ∀ s ∈ steps, k.allows s = true) (t t' : Trace) :
    let d := (run w steps (fresh c k hk) t).1.1.details
    let new := fresh c' k hk
    new.merge w' d.fields true t' =
        (({ new with details := d.erase "*padding*", key := none }, t'), .ok ()) ∧
      (d.get? "*padding*" = none →
        new.merge w' d.fields false t' = (({ new with details := d, key := none }, t'), .ok ())) := by
  intro d new
  have hd : d.Own k := run_own hsteps c hk t
  exact ⟨merge_ownDetails hd c' hk t', fun hp => merge_ownDetails_of_noPadding hd hp c' hk t'⟩

theorem run_restored_sale :
    let w := World.unreachable .ofNat "down"
    let c : Connection := ⟨"host", "secret", "7"⟩
    let d := (run w saleSteps (fresh c (.device .sell) rfl) .start).1.1.details
    let new := fresh c (.device .sell) rfl
    d.get? "*padding*" = none ∧ (d.get? "items").isSome ∧
      new.merge w d.fields false .start =
        (({ new with details := d, key := none }, .start), .ok ()) := by
  intro w c d new
  have hpadding : d.get? "*padding*" = none := by
    decide +kernel
  exact ⟨hpadding, by decide +kernel,
    (run_restored c c rfl saleSteps (by decide) .start .start).2 hpadding⟩

end Job
end Till
