import Till.Proofs.Bulk.Prefix

/-!
# Merging what is known

`Kind.known` is the part of a record whose keys a kind knows. A merge that ignores unknown keys is
the strict merge of that part: the entries that it passes over are just those that the check in
front of a strict merge looks for. Main statement: `Job.merge_ignoring`, for one merge and for all
merges of a run.
-/

namespace Till

theorem Entries.lookup_filter {β : Type} (p : String → Bool) (key : String)
    (l : List (String × β)) :
    (l.filter fun e => p e.1).lookup key = if p key then l.lookup key else none := by
  induction l with
  | nil => simp
  | cons e l ih =>
    rw [List.filter_cons, lookup_cons]
    by_cases hk : key = e.1
    · by_cases he : p e.1 = true
      · simp [lookup_cons, hk, he]
      · simp [hk, he] at ih ⊢
        exact ih
    · by_cases he : p e.1 = true
      · simp [lookup_cons, hk, he, ih]
      · simp [hk, he, ih]

/-- The entries whose keys the kind knows. -/
def Kind.known (k : Kind) (bulk : Fields) : Fields :=
  ⟨bulk.entries.filter fun e => k.Knows e.1, bulk.sorted.filter _⟩

namespace Kind
variable {k : Kind} {bulk : Fields}

theorem get?_known (k : Kind) (bulk : Fields) (key : String) :
    (k.known bulk).get? key = if k.Knows key then bulk.get? key else none := by
  simpa [known, Fields.get?]
    using Entries.lookup_filter (fun key => decide (k.Knows key)) key bulk.entries

theorem knows_of_mem_known {key : String} (h : key ∈ (k.known bulk).keys) : k.Knows key := by
  obtain ⟨e, he, rfl⟩ := List.mem_map.1 h
  simpa using (List.mem_filter.1 he).2

end Kind

/-- The step with each merge that ignores unknown keys in its strict form. -/
def JobStep.strictly (k : Kind) : JobStep → JobStep
  | .merge bulk true => .merge (k.known bulk) false
  | s => s

namespace Job
variable {w : World}

theorem merge_known (bulk : Fields) (j : Job) (t : Trace) :
    j.merge w (j.kind.known bulk) false t = j.merge w bulk true t := by
  obtain ⟨hverdict, hrun⟩ := Kind.acceptAll_filter_knows (k := j.kind) (w := w) bulk.entries
  rw [merge_eq_of_passes (.inl rfl), merge_eq_of_passes (.inr fun _ => Kind.knows_of_mem_known)]
  exact Prod.ext (hrun (j, t)) hverdict

theorem step_strictly (s : JobStep) (j : Job) (t : Trace) :
    j.step w (s.strictly j.kind) t = j.step w s t := by
  cases s with
  | merge bulk ignoreUnknown =>
    cases ignoreUnknown with
    | true => simp only [JobStep.strictly, step, merge_known]
    | false => rfl
  | _ => rfl

theorem run_strictly (steps : List JobStep) (j : Job) (t : Trace) :
    run w (steps.map (JobStep.strictly j.kind)) j t = run w steps j t := by
  induction steps generalizing j t with
  | nil => rfl
  | cons s steps ih =>
    have hrest := ih (j.step w s t).1.1 (j.step w s t).1.2
    rw [step_kind] at hrest
    rw [List.map_cons, run_cons, run_cons, step_strictly, hrest]

/-- To merge a record without heed to unknown keys is to merge strictly the part of it whose keys
the kind knows: verdict, details, key and trace are the same, for a typed operation and for a
prepared one, and the strict merge is never refused for a key. So in any run the merges of the one
form may be exchanged for merges of the other. -/
theorem merge_ignoring (bulk : Fields) (j : Job) (t : Trace) :
    (∀ key, (j.kind.known bulk).get? key = if j.kind.Knows key then bulk.get? key else none) ∧
    j.merge w bulk true t = j.merge w (j.kind.known bulk) false t ∧
    (Prepared.job j).merge w bulk true t = (Prepared.job j).merge w (j.kind.known bulk) false t ∧
    (∀ method key, (j.merge w (j.kind.known bulk) false t).2 ≠ .error (.unknownKey method key)) ∧
    ∀ steps, run w (steps.map (JobStep.strictly j.kind)) j t = run w steps j t := by
  have hmerge := j.merge_known (w := w) bulk t
  refine ⟨j.kind.get?_known bulk, hmerge.symm, ?_, ?_, fun steps => run_strictly steps j t⟩
  · rw [Prepared.merge_job, Prepared.merge_job, hmerge]
  · exact verdict_merge_ne_unknownKey (fun _ => Kind.knows_of_mem_known) t

-- the sum of the cash is known, in any case of its letters, but not to a sale
example :
    (((Kind.device .sell).known (.ofList [("CashSum", .null), ("Details", .null), ("TAX", .null),
      ("taxes", .null)])).keys) = ["Details", "TAX"] := by
  decide +kernel

end Job
end Till
