import Till.Proofs.Details.Again
import Till.Proofs.Operation.Written

/-!
# Merging a record again

A record is accepted the second time as it was the first, and the same entries of it are applied.
What they do the second time is little: lists grow once more by the values that they have grown by,
and where a new key is asked for another one is made up (`Effect.runAll_again`). Main statement:
`Job.merge_replay`.
-/

namespace Till

/-! ### Lists that have grown -/

namespace Details
variable {key : String} {d d₁ d₂ : Details}

/-- The list under a key has grown twice, by the same values each time. -/
def GrowsTwice (key : String) (d d₁ d₂ : Details) : Prop :=
  ∃ vs, d₁.listAt key = d.listAt key ++ vs ∧ d₂.listAt key = d₁.listAt key ++ vs ∧
    (vs = [] → d₂.get? key = d₁.get? key)

theorem valuesOf_appended (vs : List Json) (before : Option Json) :
    valuesOf (Write.appended vs before) = valuesOf before ++ vs := by
  unfold Write.appended
  split
  · rename_i h
    rw [h, List.append_nil]
  · rfl

theorem growsTwice_of_appended {vs : List Json}
    (h₁ : d₁.get? key = Write.appended vs (d.get? key))
    (h₂ : d₂.get? key = Write.appended vs (d₁.get? key)) : GrowsTwice key d d₁ d₂ := by
  refine ⟨vs, ?_, ?_, fun hvs => ?_⟩
  · rw [listAt_eq, listAt_eq, h₁, valuesOf_appended]
  · rw [listAt_eq, listAt_eq, h₂, valuesOf_appended]
  · rw [h₂, hvs]
    rfl

end Details

/-! ### Keys that are made up again -/

namespace World
variable {w : World} {pins : List (Option String)}

/-- Pins of which the last one names a key leave that key, whatever was there. -/
theorem pinned_again (h : pins.getLast? ≠ some none) (key : Option String) (n n' : Nat) :
    (w.pinned pins (w.pinned pins key n).1 n').1 = (w.pinned pins key n).1 := by
  rcases List.eq_nil_or_concat' pins with rfl | ⟨ps, p, rfl⟩
  · rfl
  · cases p with
    | none => exact absurd (by simp) h
    | some key' => rw [pinned_append, pinned_append]; rfl

/-- Pins of which the last one asks for a new key leave the last one that is made up. -/
theorem pinned_new (h : pins.getLast? = some none) (key : Option String) (n : Nat) :
    ∃ m, n ≤ m ∧ w.pinned pins key n = (some (w.seed m).key, m + 1) := by
  obtain ⟨ps, rfl⟩ := List.getLast?_eq_some_iff.1 h
  refine ⟨(w.pinned ps key n).2, ?_, by rw [pinned_append]; rfl⟩
  rw [drawn_pinned]
  omega

end World

/-! ### Effects once more -/

/-- What may have changed when the same was done a second time: `s` came to `s₁`, and `s₁` to `s₂`. -/
structure Replays (w : World) (pins : List (Option String)) (s s₁ s₂ : Job × Trace) : Prop where
  connection : s₂.1.connection = s₁.1.connection
  kind : s₂.1.kind = s₁.1.kind
  sent : s₂.2.sent = s₁.2.sent
  items : Details.GrowsTwice "items" s.1.details s₁.1.details s₂.1.details
  document : Details.GrowsTwice "document" s.1.details s₁.1.details s₂.1.details
  others : ∀ key, key ∉ ["items", "document"] → s₂.1.details.get? key = s₁.1.details.get? key
  /-- The key stays, unless the last pin asks for a new one. -/
  key : pins.getLast? ≠ some none → s₂.1.key = s₁.1.key
  /-- Then it is one that had not been made up before. -/
  newKey : pins.getLast? = some none →
    ∃ n, s₁.2.drawn ≤ n ∧ s₂.1.key = some (w.seed n).key ∧ s₂.2.drawn = n + 1
  drawn : s₂.2.drawn = s₁.2.drawn + pins.count none

namespace Effect
variable {w : World}

/-- Effects add to a list the values of their writes to it. -/
theorem get?_runAll_list {key : String} (hkey : key ∈ ["items", "document"]) (es : List Effect)
    (s : Job × Trace) :
    (runAll w es s).1.details.get? key =
      Write.appended ((writesTo key es).flatMap Write.values) (s.1.details.get? key) := by
  rw [get?_runAll, Write.afterAll_list hkey fun x hx => (mem_writesTo.1 hx).2]

theorem runAll_again (es : List Effect) (s : Job × Trace) :
    Replays w (es.filterMap pin?) s (runAll w es s) (runAll w es (runAll w es s)) := by
  have hkey (s : Job × Trace) : (runAll w es s).1.key =
      (w.pinned (es.filterMap pin?) s.1.key s.2.drawn).1 := congrArg Prod.fst (runAll_key es s)
  have hdrawn (s : Job × Trace) : (runAll w es s).2.drawn =
      (w.pinned (es.filterMap pin?) s.1.key s.2.drawn).2 := congrArg Prod.snd (runAll_key es s)
  refine ⟨runAll_connection .., runAll_kind .., runAll_sent .., ?_, ?_, fun key hother => ?_,
    fun hlast => ?_, fun hlast => ?_, ?_⟩
  · exact Details.growsTwice_of_appended (get?_runAll_list (by simp) es s)
      (get?_runAll_list (by simp) es _)
  · exact Details.growsTwice_of_appended (get?_runAll_list (by simp) es s)
      (get?_runAll_list (by simp) es _)
  · rw [get?_runAll, get?_runAll, Write.afterAll_again hother fun x hx => (mem_writesTo.1 hx).2]
  · rw [hkey (runAll w es s), hkey s, World.pinned_again hlast]
  · obtain ⟨m, hle, hpinned⟩ :=
      World.pinned_new (w := w) hlast (runAll w es s).1.key (runAll w es s).2.drawn
    exact ⟨m, hle, by rw [hkey, hpinned], by rw [hdrawn, hpinned]⟩
  · rw [hdrawn, World.drawn_pinned]

/-- Effects that add to no list, and make up no key, do nothing the second time. -/
theorem runAll_again_of_stable {es : List Effect}
    (hlists : ∀ x, .write x ∈ es → x.key ∉ ["items", "document"]) (hpins : .pin none ∉ es)
    (s : Job × Trace) : runAll w es (runAll w es s) = runAll w es s := by
  have h := runAll_again (w := w) es s
  have hnone : none ∉ es.filterMap pin? := by
    intro hmem
    obtain ⟨e, he, hpin⟩ := List.mem_filterMap.1 hmem
    cases e with
    | skip | write => cases hpin
    | pin key => cases hpin; exact hpins he
  have hlast : (es.filterMap pin?).getLast? ≠ some none := fun hlast =>
    hnone (List.mem_of_getLast? hlast)
  refine Job.state_ext h.connection h.kind (fun key => ?_) ?_ h.sent
  · by_cases hkey : key ∈ ["items", "document"]
    · have hnil : writesTo key es = [] := by
        refine List.eq_nil_iff_forall_not_mem.2 fun x hx => ?_
        obtain ⟨hmem, rfl⟩ := mem_writesTo.1 hx
        exact hlists x hmem hkey
      rw [get?_runAll, hnil]
      rfl
    · exact h.others key hkey
  · rw [h.key hlast, h.drawn, List.count_eq_zero_of_not_mem hnone, Nat.add_zero]

end Effect

/-! ### Merges once more -/

namespace Job
variable {w : World}

/-- The record neither names a list nor asks for a new key. -/
def Stable (bulk : Fields) : Prop :=
  ∀ e ∈ bulk.entries, Text.lower e.1 ∉ ["items", "document"] ∧
    (Text.lower e.1 = "idempotencykey" → e.2 ≠ .null)

/-- A record that is merged a second time is accepted, or refused for the same reason, as it was the
first time, even if it stopped at an entry. If it names no list and asks for no new key, nothing has
changed by the second time; otherwise the lists have grown once more by what they had grown by, and
the key is another one that is made up if that is what the record asks for last. -/
theorem merge_replay (w : World) (bulk : Fields) (ignoreUnknown : Bool) (j : Job) (t : Trace) :
    let first := j.merge w bulk ignoreUnknown t
    let second := first.1.1.merge w bulk ignoreUnknown first.1.2
    second.2 = first.2 ∧ (Stable bulk → second.1 = first.1) ∧
      Replays w ((JobStep.merge bulk ignoreUnknown).pins j.kind) (j, t) first.1 second.1 := by
  intro first second
  have hfirst : first = _ := merge_eq bulk ignoreUnknown j t
  have hsecond : second = (Effect.runAll w (bulkEffects j.kind bulk ignoreUnknown).1 first.1,
      (bulkEffects j.kind bulk ignoreUnknown).2) := by
    have hkind : first.1.1.kind = j.kind := by rw [hfirst]; exact Effect.runAll_kind ..
    rw [← hkind]
    exact merge_eq bulk ignoreUnknown first.1.1 first.1.2
  rw [hsecond, hfirst]
  refine ⟨rfl, fun hstable => ?_, ?_⟩
  · refine Effect.runAll_again_of_stable (fun x hx hlist => ?_) (fun hpin => ?_) (j, t)
    · obtain ⟨e, he, haccept⟩ := exists_entry_of_bulkEffects hx
      -- the names of the lists are their keys
      have hname : ∀ key ∈ ["items", "document"], Details.bulkName key = key := by decide
      refine (hstable e he).1 ?_
      rw [Kind.lower_of_write haccept, hname x.key hlist]
      exact hlist
    · obtain ⟨e, he, haccept⟩ := exists_entry_of_bulkEffects hpin
      obtain ⟨hkey, hnull⟩ := Kind.idempotencyKey_of_pin haccept
      exact (hstable e he).2 hkey (hnull rfl)
  · rw [← JobStep.pins_effects]
    exact Effect.runAll_again _ (j, t)

/-- Customers and texts of a sale in two cases of their names, with an operator who has no name. -/
def twiceNamed : Fields :=
  .ofList [("CUSTOMER", .object [("account", .string "A-7"), ("name", .string "Ada")]),
    ("TEXT", .string "Hello"), ("customer", .object [("name", .string "Bea")]),
    ("header", .null), ("operator", .object [("name", .string " ")]), ("text", .string "Bye")]

theorem merge_replay_sale :
    let w := World.unreachable .ofNat "down"
    let first := (fresh ⟨"host", "secret", "7"⟩ (.device .sell) rfl).merge w twiceNamed true .start
    let second := first.1.1.merge w twiceNamed true first.1.2
    Stable twiceNamed ∧ first.2.isOk = false ∧ (first.1.1.details.get? "customer").isSome ∧
      second.2 = first.2 ∧ second.1 = first.1 := by
  intro w first second
  have hstable : Stable twiceNamed := by
    have hkeys : ∀ key ∈ twiceNamed.keys, Text.lower key ∉ ["items", "document", "idempotencykey"] := by
      decide
    intro e he
    have := hkeys e.1 (List.mem_map_of_mem he)
    simp only [List.mem_cons, List.not_mem_nil, or_false, not_or] at this ⊢
    exact ⟨⟨this.1, this.2.1⟩, fun h => absurd h this.2.2⟩
  have h := merge_replay w twiceNamed true (fresh ⟨"host", "secret", "7"⟩ (.device .sell) rfl) .start
  exact ⟨hstable, by decide +kernel, by decide +kernel, h.1, h.2.1 hstable⟩

end Job
end Till
