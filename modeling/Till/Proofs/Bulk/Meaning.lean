import Till.Proofs.Operation.ReadOnly
import Till.Proofs.Text.Caseless

/-!
# What keys mean

A bulk merge by what it takes keys to mean, under the name of any method (`Job.mergeBy`). A job
merges by the keys that all jobs have in common and those of the slots of its kind
(`Job.merge_eq_mergeBy`), and only the keys of the record count (`Job.mergeBy_congr`). Main
statement: a query answers to a bulk record as a job would that has neither slots nor common keys,
however keys are lower-cased (`Prepared.rejectBulk_eq_mergeBy`).
-/

namespace Till

/-! ### Meanings -/

namespace BulkKey

/-- The keys that all jobs understand, beside that of a wrapper. -/
def common : List (String × BulkKey) :=
  [("idempotencykey", idempotencyKey), ("padding", padding)]

/-- What a key means where certain common keys and slots are understood, by its lower case. -/
def meaning (lower : String → String) (common : List (String × BulkKey)) (slots : List Slot)
    (key : String) : BulkKey :=
  let folded := lower key
  if folded = "details" then skipped
  else
    match common.find? (·.1 == folded) with
    | some e => e.2
    | none =>
      match slots.find? (·.foldedKey == folded) with
      | some s => slot s
      | none => unknown

variable {lower lower' : String → String} {common : List (String × BulkKey)} {slots : List Slot}
  {key : String}

/-- Only the words that are understood are looked for in the lower case. -/
theorem meaning_congr (hskipped : lower key = "details" ↔ lower' key = "details")
    (hcommon : ∀ e ∈ common, lower key = e.1 ↔ lower' key = e.1)
    (hslots : ∀ s ∈ slots, lower key = s.foldedKey ↔ lower' key = s.foldedKey) :
    meaning lower common slots key = meaning lower' common slots key := by
  simp only [meaning, hskipped, List.find?_key_congr hcommon, List.find?_key_congr hslots]

theorem meaning_of_details (h : lower key = "details") :
    meaning lower common slots key = .skipped :=
  if_pos h

theorem meaning_nil_eq_unknown_iff :
    meaning lower [] [] key = .unknown ↔ lower key ≠ "details" := by
  by_cases h : lower key = "details"
  · rw [meaning_of_details h]
    exact iff_of_false nofun (not_not_intro h)
  · exact iff_of_true (if_neg h) h

end BulkKey

theorem Kind.bulkKey_eq_meaning (k : Kind) (key : String) :
    k.bulkKey key = .meaning Text.lower BulkKey.common k.slots key := by
  unfold bulkKey BulkKey.meaning BulkKey.common
  simp only [List.find?_cons, List.find?_nil]
  generalize Text.lower key = folded
  split_ifs with hskipped hpin hpadding
  · rfl
  · rw [hpin]
    rfl
  · rw [hpadding]
    rfl
  · have hpin : ("idempotencykey" == folded) = false := beq_false_of_ne (Ne.symm hpin)
    have hpadding : ("padding" == folded) = false := beq_false_of_ne (Ne.symm hpadding)
    cases k.slots.find? (·.foldedKey == folded) <;> simp only [hpin, hpadding]

theorem Slot.isSmallWord_foldedKey (s : Slot) : Text.IsSmallWord s.foldedKey.toList := by
  cases s with
  | text slot => cases slot <;> decide
  | flag f => cases f <;> decide
  | _ => decide

/-- No word that is understood has a sigma, so the place of sigmas in a key is no matter. -/
theorem BulkKey.meaning_lower (u : Text.LetterClasses) {common : List (String × BulkKey)}
    (hcommon : ∀ e ∈ common, Text.IsSmallWord e.1.toList) (slots : List Slot) :
    meaning u.lower common slots = meaning Text.lower common slots := by
  funext key
  refine meaning_congr ?_ (fun e he => ?_) fun s _ => ?_
  · exact u.lower_eq_iff (by decide)
  · exact u.lower_eq_iff (hcommon e he).not_mem_sigma
  · exact u.lower_eq_iff s.isSmallWord_foldedKey.not_mem_sigma

/-! ### Merges by meanings -/

namespace Job
variable {w : World} {meaning meaning' : String → BulkKey}

/-- Applies entries until one fails. -/
def applyAllBy (meaning : String → BulkKey) (w : World) :
    List (String × Json) → Job → Trace → (Job × Trace) × Result Unit
  | [], j, t => ((j, t), .ok ())
  | (key, v) :: rest, j, t =>
    match j.applyBy (meaning key) w key v t with
    | ((j, t), .ok ()) => applyAllBy meaning w rest j t
    | (state, .error e) => (state, .error e)

/-- Merges a bulk record by what keys mean, in the name of a method. -/
def mergeBy (method : String) (meaning : String → BulkKey) (w : World) (bulk : Fields)
    (ignoreUnknown : Bool) (j : Job) (t : Trace) : (Job × Trace) × Result Unit :=
  match if ignoreUnknown then none else bulk.keys.find? fun key => meaning key = .unknown with
  | some key => ((j, t), .error (.unknownKey method key))
  | none => applyAllBy meaning w bulk.entries j t

theorem applyEntries_eq_applyAllBy (l : List (String × Json)) (j : Job) (t : Trace) :
    applyEntries w l j t = applyAllBy j.kind.bulkKey w l j t := by
  induction l generalizing j t with
  | nil => rfl
  | cons e l ih =>
    obtain ⟨key, v⟩ := e
    rw [applyEntries, applyAllBy, ← applyEntry, applyEntry_eq]
    cases j.kind.accept key v with
    | error e => rfl
    | ok x =>
      -- no entry changes the kind, so keys mean the same to the rest
      simp only [Effect.attempt_ok, ih, Effect.run_kind]

/-- A job merges by the keys that all jobs have in common and those of its slots. -/
theorem merge_eq_mergeBy (bulk : Fields) (ignoreUnknown : Bool) (j : Job) (t : Trace) :
    j.merge w bulk ignoreUnknown t =
      j.mergeBy j.method (.meaning Text.lower BulkKey.common j.kind.slots) w bulk ignoreUnknown
        t := by
  have hcheck : unknownKey? j.kind bulk =
      bulk.keys.find? fun key => j.kind.bulkKey key = .unknown :=
    List.find?_congr fun key _ => decide_eq_decide.2 Kind.bulkKey_eq_unknown_iff.symm
  rw [← funext j.kind.bulkKey_eq_meaning]
  cases ignoreUnknown with
  | true => exact applyEntries_eq_applyAllBy bulk.entries j t
  | false =>
    cases hfound : unknownKey? j.kind bulk with
    | some key =>
      simp only [merge, mergeBy, Bool.false_eq_true, if_false, hfound, ← hcheck]
    | none =>
      simp only [merge, mergeBy, Bool.false_eq_true, if_false, hfound, ← hcheck,
        applyEntries_eq_applyAllBy]

theorem applyAllBy_congr {l : List (String × Json)} (h : ∀ e ∈ l, meaning e.1 = meaning' e.1)
    (j : Job) (t : Trace) : applyAllBy meaning w l j t = applyAllBy meaning' w l j t := by
  induction l generalizing j t with
  | nil => rfl
  | cons e l ih =>
    obtain ⟨hkey, hl⟩ := List.forall_mem_cons.1 h
    obtain ⟨key, v⟩ := e
    rw [applyAllBy, applyAllBy, hkey]
    rcases j.applyBy (meaning' key) w key v t with ⟨⟨j', t'⟩, e | _⟩
    · rfl
    · exact ih hl j' t'

/-- What other keys mean is no matter to a merge. -/
theorem mergeBy_congr {method : String} {bulk : Fields}
    (h : ∀ key ∈ bulk.keys, meaning key = meaning' key) (ignoreUnknown : Bool) (j : Job)
    (t : Trace) : j.mergeBy method meaning w bulk ignoreUnknown t =
      j.mergeBy method meaning' w bulk ignoreUnknown t := by
  have hcheck : (bulk.keys.find? fun key => meaning key = .unknown) =
      bulk.keys.find? fun key => meaning' key = .unknown :=
    List.find?_congr fun key hkey => by rw [h key hkey]
  have hentries : ∀ e ∈ bulk.entries, meaning e.1 = meaning' e.1 :=
    fun e he => h e.1 (List.mem_map_of_mem he)
  simp only [mergeBy, hcheck, applyAllBy_congr hentries]

/-- Entries whose keys ask for nothing have no effect. -/
theorem applyAllBy_eq_of_idle {l : List (String × Json)}
    (h : ∀ e ∈ l, meaning e.1 = .skipped ∨ meaning e.1 = .unknown) (j : Job) (t : Trace) :
    applyAllBy meaning w l j t = ((j, t), .ok ()) := by
  induction l with
  | nil => rfl
  | cons e l ih =>
    obtain ⟨hkey, hl⟩ := List.forall_mem_cons.1 h
    obtain ⟨key, v⟩ := e
    rw [applyAllBy]
    rcases hkey with hkey | hkey <;> rw [hkey] <;> exact ih hl

end Job

/-! ### Nothing but the wrapper -/

theorem Text.eqIgnoreAsciiCase_details_iff (key : String) :
    Text.eqIgnoreAsciiCase key "details" = true ↔ Text.lower key = "details" :=
  (Text.eqIgnoreAsciiCase_iff_lower (by decide)).2 (by decide) key

namespace Prepared
variable {w : World} {bulk : Fields}

/-- A merge that has neither slots nor common keys does nothing, and answers as a query does. -/
theorem mergeBy_bare (method : String) (bulk : Fields) (ignoreUnknown : Bool) (j : Job)
    (t : Trace) :
    j.mergeBy method (.meaning Text.lower [] []) w bulk ignoreUnknown t =
      ((j, t), rejectBulk method bulk ignoreUnknown) := by
  have hentries : Job.applyAllBy (.meaning Text.lower [] []) w bulk.entries j t =
      ((j, t), .ok ()) := by
    refine Job.applyAllBy_eq_of_idle (fun e _ => ?_) j t
    by_cases h : Text.lower e.1 = "details"
    · exact .inl (BulkKey.meaning_of_details h)
    · exact .inr (BulkKey.meaning_nil_eq_unknown_iff.2 h)
  have hcheck : (bulk.keys.find? fun key => BulkKey.meaning Text.lower [] [] key = .unknown) =
      bulk.keys.find? fun key => !Text.eqIgnoreAsciiCase key "details" := by
    refine List.find?_congr fun key _ => ?_
    rw [Bool.eq_iff_iff, decide_eq_true_iff, BulkKey.meaning_nil_eq_unknown_iff, Bool.not_eq_true',
      ← Bool.not_eq_true, Text.eqIgnoreAsciiCase_details_iff]
  cases ignoreUnknown with
  | true => exact hentries
  | false =>
    simp only [Job.mergeBy, rejectBulk, Bool.false_eq_true, if_false, hcheck, hentries]
    cases bulk.keys.find? fun key => !Text.eqIgnoreAsciiCase key "details" <;> rfl

/-- A job answers as a query does to a record in which it understands nothing. -/
theorem merge_of_not_knows {j : Job}
    (h : ∀ key ∈ bulk.keys, j.kind.Knows key → Text.lower key = "details") (ignoreUnknown : Bool)
    (t : Trace) :
    j.merge w bulk ignoreUnknown t = ((j, t), rejectBulk j.method bulk ignoreUnknown) := by
  rw [Job.merge_eq_mergeBy, ← mergeBy_bare]
  refine Job.mergeBy_congr (fun key hkey => ?_) ignoreUnknown j t
  by_cases hdetails : Text.lower key = "details"
  · rw [BulkKey.meaning_of_details hdetails, BulkKey.meaning_of_details hdetails]
  · have hunknown : ¬ j.kind.Knows key := fun hknows => hdetails (h key hkey hknows)
    rw [← Kind.bulkKey_eq_meaning, Kind.bulkKey_eq_unknown_iff.2 hunknown,
      BulkKey.meaning_nil_eq_unknown_iff.2 hdetails]

/-- A wrapper's key can be told up to the case of ASCII letters or in lower case: the two agree on
every key, wherever sigmas stand in it. So a query answers to a bulk record as a job would that had
neither slots nor common keys: it refuses the first key in the order of bytes that is not a
wrapper's, if there is one, and nothing happens either way. With the common keys and its own slots,
that merge is the one of the job. A job says the same as a query to a record in which it understands
no key but a wrapper's. -/
theorem rejectBulk_eq_mergeBy (u : Text.LetterClasses) (w : World) (bulk : Fields)
    (ignoreUnknown : Bool) (j : Job) (t : Trace) :
    (∀ key, (Text.eqIgnoreAsciiCase key "details" = true ↔ u.lower key = "details") ∧
      ∀ k : Kind, Text.eqIgnoreAsciiCase key "details" = true ↔ k.bulkKey key = .skipped) ∧
    j.merge w bulk ignoreUnknown t =
      j.mergeBy j.method (.meaning u.lower BulkKey.common j.kind.slots) w bulk ignoreUnknown t ∧
    (∀ method, j.mergeBy method (.meaning u.lower [] []) w bulk ignoreUnknown t =
        ((j, t), rejectBulk method bulk ignoreUnknown) ∧
      (rejectBulk method bulk false = .ok () ↔ ∀ key ∈ bulk.keys, u.lower key = "details") ∧
      ∀ e, rejectBulk method bulk false = .error e ↔
        ∃ key, bulk.FirstForeign key ∧ e = .unknownKey method key) ∧
    ((∀ key ∈ bulk.keys, j.kind.Knows key → u.lower key = "details") →
      j.merge w bulk ignoreUnknown t = ((j, t), rejectBulk j.method bulk ignoreUnknown)) := by
  have hlower (key : String) : u.lower key = "details" ↔ Text.lower key = "details" :=
    u.lower_eq_iff (by decide)
  have hcommon : ∀ e ∈ BulkKey.common, Text.IsSmallWord e.1.toList := by
    simp only [BulkKey.common, List.forall_mem_cons]
    exact ⟨by decide, by decide, nofun⟩
  refine ⟨fun key => ⟨?_, fun k => ?_⟩, ?_, fun method => ⟨?_, ?_, ?_⟩, fun h => ?_⟩
  · rw [Text.eqIgnoreAsciiCase_details_iff, hlower]
  · rw [Text.eqIgnoreAsciiCase_details_iff, Kind.bulkKey_eq_skipped_iff]
  · rw [BulkKey.meaning_lower u hcommon, Job.merge_eq_mergeBy]
  · rw [BulkKey.meaning_lower u (List.forall_mem_nil _), mergeBy_bare]
  · simp only [rejectBulk_eq_ok_iff, Text.eqIgnoreAsciiCase_details_iff, hlower]
  · exact fun e => rejectBulk_eq_error_iff
  · refine merge_of_not_knows (fun key hkey hknows => ?_) ignoreUnknown t
    exact (hlower key).1 (h key hkey hknows)

/-- A record that says the wrapper's key and two that are not: by a sigma that ends a word, and by a
long `s`, which is no capital. -/
def wrapped : Fields :=
  .ofList [("DeTaIlS", .null), ("DETAILΣ", .null), ("detailſ", .null)]

theorem rejectBulk_eq_mergeBy_reset :
    let u : Text.LetterClasses :=
      ⟨fun c => c.isAlpha || c == 'Σ' || c == 'ſ', fun c => c == '.' || c == ':'⟩
    let w : World := .unreachable .ofNat "down"
    let j := Job.fresh ⟨"host", "secret", ""⟩ (.server .resetRegistry) rfl
    (∀ key ∈ wrapped.keys, j.kind.Knows key → u.lower key = "details") ∧
      u.lower "DETAILΣ" = "detailς" ∧
      j.merge w wrapped false .start =
        ((j, .start), .error (.unknownKey "kkm/reset-registry" "DETAILΣ")) := by
  intro u w j
  have hknows : ∀ key ∈ wrapped.keys, j.kind.Knows key → u.lower key = "details" := by
    decide +kernel
  have hmerge := (rejectBulk_eq_mergeBy u w wrapped false j .start).2.2.2 hknows
  exact ⟨hknows, by decide +kernel, hmerge.trans rfl⟩

end Prepared

end Till
