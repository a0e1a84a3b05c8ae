import Till.Proofs.Bulk.Image

/-!
# Merging is calling

A bulk record that merges denotes one chain of calls (`Kind.DenotesAll.det`), and the merge does what
the chain does, up to the first call that fails (`Kind.DenotesAll.runAll_eq`). Records whose values
are images of accepted arguments do merge. Main statement: `Job.merge_eq_chain`.
-/

namespace Till
open Json

/-! ### Entries -/

namespace Kind
variable {k : Kind} {w : World} {key : String} {v : Json} {calls calls' : List Call}

theorem Denotes.runAll_eq (h : k.Denotes key v calls) (state : Job × Trace) :
    Call.runAll w calls state = (k.accept key v).map fun e => e.run w state := by
  unfold accept
  cases h with
  | skipped hkey =>
    rw [bulkKey_eq_skipped_iff.2 hkey]
    rfl
  | pin hkey h =>
    rw [bulkKey_eq_idempotencyKey_iff.2 hkey]
    cases h with
    | null => rfl
    | given h => cases h; rfl
  | padding hkey h =>
    rw [bulkKey_eq_padding_iff.2 hkey]
    cases h
    rfl
  | slot hs hkey h =>
    rename_i s
    simp only [bulkKey_eq_slot_iff.2 ⟨hs, hkey⟩, h.runAll_eq]
    cases s.accept v <;> rfl

theorem Denotes.bulkKey_ne_unknown (h : k.Denotes key v calls) : k.bulkKey key ≠ .unknown := by
  cases h with
  | skipped hkey => rw [bulkKey_eq_skipped_iff.2 hkey]; nofun
  | pin hkey => rw [bulkKey_eq_idempotencyKey_iff.2 hkey]; nofun
  | padding hkey => rw [bulkKey_eq_padding_iff.2 hkey]; nofun
  | slot hs hkey => rw [bulkKey_eq_slot_iff.2 ⟨hs, hkey⟩]; nofun

/-- An entry that is accepted denotes calls, unless it is ignored. -/
theorem exists_denotes {e : Effect} (h : k.accept key v = .ok e) (hkey : k.bulkKey key ≠ .unknown) :
    ∃ calls, k.Denotes key v calls := by
  cases accepts_of_accept h with
  | skipped hb => exact ⟨_, .skipped (bulkKey_eq_skipped_iff.1 hb)⟩
  | ignored hb => exact absurd hb hkey
  | newKey hb => exact ⟨_, .pin (bulkKey_eq_idempotencyKey_iff.1 hb) .null⟩
  | key hb => exact ⟨_, .pin (bulkKey_eq_idempotencyKey_iff.1 hb) (.given (.of _))⟩
  | padding hb => exact ⟨_, .padding (bulkKey_eq_padding_iff.1 hb) (.of _)⟩
  | slot hb hx =>
    obtain ⟨calls, hcalls⟩ := Slot.exists_denotes hx
    obtain ⟨hs, hkey⟩ := bulkKey_eq_slot_iff.1 hb
    exact ⟨calls, .slot hs hkey hcalls⟩

theorem Denotes.det (h : k.Denotes key v calls) (h' : k.Denotes key v calls') : calls = calls' := by
  have hne {s : Slot} {folded : String} (hs : Text.lower key = s.foldedKey)
      (hfolded : folded ∉ Slot.all.map Slot.foldedKey) (he : Text.lower key = folded) : False :=
    Slot.foldedKey_ne hfolded s (hs.symm.trans he)
  cases h with
  | skipped hkey =>
    cases h' with
    | skipped => rfl
    | pin hkey' => exact absurd (hkey.symm.trans hkey') (by decide)
    | padding hkey' => exact absurd (hkey.symm.trans hkey') (by decide)
    | slot _ hkey' => exact (hne hkey' (by decide) hkey).elim
  | pin hkey h =>
    cases h' with
    | skipped hkey' => exact absurd (hkey.symm.trans hkey') (by decide)
    | pin _ h' => rw [h.det h' nofun fun _ _ _ => AsString.det]
    | padding hkey' => exact absurd (hkey.symm.trans hkey') (by decide)
    | slot _ hkey' => exact (hne hkey' (by decide) hkey).elim
  | padding hkey h =>
    cases h' with
    | skipped hkey' => exact absurd (hkey.symm.trans hkey') (by decide)
    | pin hkey' => exact absurd (hkey.symm.trans hkey') (by decide)
    | padding _ h' => rw [h.det h']
    | slot _ hkey' => exact (hne hkey' (by decide) hkey).elim
  | slot _ hkey h =>
    cases h' with
    | skipped hkey' => exact (hne hkey (by decide) hkey').elim
    | pin hkey' => exact (hne hkey (by decide) hkey').elim
    | padding hkey' => exact (hne hkey (by decide) hkey').elim
    | slot _ hkey' h' =>
      cases Slot.foldedKey_injective (hkey.symm.trans hkey')
      exact h.det h'

end Kind

/-! ### Records -/

namespace Kind.DenotesAll
variable {k : Kind} {w : World} {l : List (String × Json)} {calls calls' : List Call}

/-- Entries do what their calls do, up to the first that fails. -/
theorem runAll_eq (h : k.DenotesAll l calls) (state : Job × Trace) :
    Call.runAll w calls state =
      (k.acceptAll l).2.map fun _ => Effect.runAll w (k.acceptAll l).1 state := by
  induction h generalizing state with
  | nil => rfl
  | cons h _ ih =>
    rw [Call.runAll_append, h.runAll_eq, acceptAll]
    cases k.accept _ _ with
    | error e => rfl
    | ok e => exact ih (e.run w state)

theorem det (h : k.DenotesAll l calls) (h' : k.DenotesAll l calls') : calls = calls' := by
  induction h generalizing calls' with
  | nil => cases h'; rfl
  | cons h _ ih =>
    cases h' with
    | cons h' hl' => rw [h.det h', ih hl']

theorem bulkKey_ne_unknown (h : k.DenotesAll l calls) : ∀ e ∈ l, k.bulkKey e.1 ≠ .unknown := by
  induction h with
  | nil => exact nofun
  | cons h _ ih =>
    intro e he
    rcases List.mem_cons.1 he with rfl | he
    · exact h.bulkKey_ne_unknown
    · exact ih e he

theorem exists_of_acceptAll (h : (k.acceptAll l).2 = .ok ())
    (hl : ∀ e ∈ l, k.bulkKey e.1 ≠ .unknown) : ∃ calls, k.DenotesAll l calls := by
  induction l with
  | nil => exact ⟨_, .nil⟩
  | cons e l ih =>
    obtain ⟨key, v⟩ := e
    rw [acceptAll] at h
    cases ha : k.accept key v with
    | error e => rw [ha] at h; cases h
    | ok e =>
      rw [ha] at h
      obtain ⟨calls, hcalls⟩ := exists_denotes ha (hl (key, v) (List.mem_cons_self ..))
      obtain ⟨calls', hcalls'⟩ := ih h fun e he => hl e (List.mem_cons_of_mem _ he)
      exact ⟨_, .cons hcalls hcalls'⟩

end Kind.DenotesAll

/-! ### Images -/

/-- A key in any case, and the image of the arguments of calls under it. -/
inductive Kind.Image (k : Kind) : String → Json → List Call → Prop
  | set {key : String} {s : Setter} {slot : Slot} (hslot : s.slot = some slot) (hs : slot ∈ k.slots)
      (hkey : Text.lower key = slot.foldedKey) : Image k key s.image [.set s]
  | padding {key : String} (s : String) (hkey : Text.lower key = "padding") :
      Image k key (.string s) [.set (.padding s)]
  | key {key : String} (s : String) (hkey : Text.lower key = "idempotencykey") :
      Image k key (.string s) [.key (some s)]
  | newKey {key : String} (hkey : Text.lower key = "idempotencykey") : Image k key .null [.key none]
  | clearTax {key : String} (hs : Slot.tax ∈ k.slots) (hkey : Text.lower key = "tax") :
      Image k key .null [.clearTax]
  | document {key : String} (bs : List DocumentBlock) (hs : Slot.document ∈ k.slots)
      (hkey : Text.lower key = "document") :
      Image k key (.array (bs.map DocumentBlock.toJson)) (bs.map fun b => .set (.documentBlock b))

/-- Entries that are images, one after another. -/
inductive Kind.ImageAll (k : Kind) : List (String × Json) → List Call → Prop
  | nil : ImageAll k [] []
  | cons {key : String} {v : Json} {l : List (String × Json)} {calls calls' : List Call}
      (h : k.Image key v calls) (hl : ImageAll k l calls') :
      ImageAll k ((key, v) :: l) (calls ++ calls')

namespace Kind
variable {k : Kind} {w : World} {key : String} {v : Json} {calls calls' : List Call}

theorem Image.exists_denotes (h : k.Image key v calls) {state state' : Job × Trace}
    (hrun : Call.runAll w calls state = .ok state') :
    ∃ calls', k.Denotes key v calls' ∧
      ∀ state, Call.runAll w calls' state = Call.runAll w calls state := by
  cases h with
  | @set s slot hslot hs hkey =>
    rw [Call.runAll_singleton, Call.run_eq_ok_iff] at hrun
    obtain ⟨e, he, -⟩ := hrun
    obtain ⟨x, hx, -⟩ := Call.accept_set_eq_ok_iff.1 he
    obtain ⟨calls', hcalls', heq⟩ := Setter.exists_denotes_image hx hslot
    exact ⟨calls', .slot hs hkey hcalls', heq w⟩
  | padding s hkey => exact ⟨_, .padding hkey (.of s), fun _ => rfl⟩
  | key s hkey => exact ⟨_, .pin hkey (.given (.of s)), fun _ => rfl⟩
  | newKey hkey => exact ⟨_, .pin hkey .null, fun _ => rfl⟩
  | clearTax hs hkey => exact ⟨_, .slot hs hkey .noTax, fun _ => rfl⟩
  | document bs hs hkey =>
    refine ⟨_, .slot hs hkey (.document ?_), fun _ => rfl⟩
    exact List.forall₂_map_left_iff.2 (List.forall₂_same.2 fun b _ => b.denotes_toJson)

theorem ImageAll.exists_denotesAll {l : List (String × Json)} (h : k.ImageAll l calls)
    {state state' : Job × Trace} (hrun : Call.runAll w calls state = .ok state') :
    ∃ calls', k.DenotesAll l calls' ∧ Call.runAll w calls' state = .ok state' := by
  induction h generalizing state with
  | nil => exact ⟨_, .nil, hrun⟩
  | cons h _ ih =>
    rw [Call.runAll_append] at hrun
    obtain ⟨state₁, h₁, h₂⟩ := Except.bind_eq_ok_iff.1 hrun
    obtain ⟨calls₁, hd₁, heq⟩ := h.exists_denotes h₁
    obtain ⟨calls₂, hd₂, hrun₂⟩ := ih h₂
    refine ⟨_, .cons hd₁ hd₂, ?_⟩
    rw [Call.runAll_append, heq, h₁]
    exact hrun₂

end Kind

/-! ### Tokens -/

/-- The value by its token. -/
def Named.byToken {α : Type} [Token α] (n : Named α) : Named α :=
  .token n.text

/-- The setter with every value of a closed set by its token. -/
def Setter.byToken : Setter → Setter
  | addTaxedItem title price quantity rate => addTaxedItem title price quantity rate.byToken
  | tax t => tax t.byToken
  | payment type sum => payment type.byToken sum
  | s => s

theorem Named.resolve_byToken {α : Type} [Token α] [LawfulToken α] (n : Named α) :
    n.byToken.resolve = n.resolve := by
  cases n with
  | value a => exact LawfulToken.ofToken_token a
  | token s => rfl

theorem Setter.accept_byToken (s : Setter) : s.byToken.accept = s.accept := by
  cases s <;> simp only [byToken, accept, Named.resolve_byToken]

/-! ### The merge -/

namespace Job
variable {w : World}

theorem unknownKey?_eq_none_iff {k : Kind} {bulk : Fields} :
    unknownKey? k bulk = none ↔ ∀ e ∈ bulk.entries, k.bulkKey e.1 ≠ .unknown := by
  simp [unknownKey?, Fields.keys, List.find?_eq_none, Kind.bulkKey_eq_unknown_iff]

theorem merge_of_denotesAll {j : Job} {bulk : Fields} {calls : List Call}
    (h : j.kind.DenotesAll bulk.entries calls) (t : Trace) :
    Call.runAll w calls (j, t) =
      (j.merge w bulk false t).2.map fun _ => (j.merge w bulk false t).1 := by
  have hknown := unknownKey?_eq_none_iff.2 h.bulkKey_ne_unknown
  simp only [merge_eq, bulkEffects, hknown, h.runAll_eq, ite_self]

theorem exists_denotesAll {j : Job} {bulk : Fields} {t : Trace}
    (h : (j.merge w bulk false t).2 = .ok ()) :
    ∃ calls, j.kind.DenotesAll bulk.entries calls := by
  rw [merge_eq, bulkEffects] at h
  simp only [Bool.false_eq_true, if_false] at h
  cases hu : unknownKey? j.kind bulk with
  | some key => rw [hu] at h; cases h
  | none =>
    rw [hu] at h
    exact Kind.DenotesAll.exists_of_acceptAll h (unknownKey?_eq_none_iff.1 hu)

/-- A bulk record that merges denotes one chain of setter calls, in the order of its keys, and
merging it does what the chain does; so sending with the record is sending after the chain. A
record of images merges if the setters accept what it is the image of. To setters it is all one
whether a value is given as such or by its token. -/
theorem merge_eq_chain (bulk : Fields) (j : Job) (t : Trace) :
    ((j.merge w bulk false t).2 = .ok () → ∃ calls, j.kind.DenotesAll bulk.entries calls) ∧
    (∀ calls, j.kind.DenotesAll bulk.entries calls →
      (∀ calls', j.kind.DenotesAll bulk.entries calls' → calls' = calls) ∧
      Call.runAll w calls (j, t) =
        ((j.merge w bulk false t).2.map fun _ => (j.merge w bulk false t).1) ∧
      ∀ state, Call.runAll w calls (j, t) = .ok state →
        j.step w (.performWith bulk) t = state.1.step w .perform state.2) ∧
    (∀ calls state, j.kind.ImageAll bulk.entries calls → Call.runAll w calls (j, t) = .ok state →
      j.merge w bulk false t = (state, .ok ())) ∧
    ∀ s : Setter, j.set s.byToken = j.set s := by
  have hmerged {calls : List Call} {state : Job × Trace}
      (h : j.kind.DenotesAll bulk.entries calls) (hrun : Call.runAll w calls (j, t) = .ok state) :
      j.merge w bulk false t = (state, .ok ()) := by
    rw [merge_of_denotesAll h, Except.map_eq_ok_iff] at hrun
    obtain ⟨⟨⟩, hok, rfl⟩ := hrun
    exact Prod.ext rfl hok
  refine ⟨exists_denotesAll, fun calls h => ⟨fun _ h' => h'.det h, merge_of_denotesAll h t, ?_⟩,
    ?_, ?_⟩
  · intro state hrun
    simp only [step, hmerged h hrun]
  · intro calls state himage hrun
    obtain ⟨calls', h, hrun'⟩ := himage.exists_denotesAll hrun
    exact hmerged h hrun'
  · intro s
    simp only [set, Setter.apply_eq, Setter.accept_byToken]

end Job
end Till
