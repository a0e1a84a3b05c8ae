import Till.Proofs.Bulk.Prefix
import Till.Proofs.Operation.Written

/-!
# Records without a key in common

What entries come to hangs on the entries of each name alone, in their order: entries of different
names can change places (`Kind.runAll_congr_named`). Main statement: two records that share no name
can be merged one after the other, in either order, or as one record, and it comes to the same; and
in a record that has no name twice the order of the entries makes no difference
(`Job.merge_disjoint`).
-/

namespace Till

/-! ### Entries of a name -/

namespace Entries
variable {name : String} {l : List (String × Json)}

/-- The entries with the name, in any case of its letters. -/
def named (name : String) (l : List (String × Json)) : List (String × Json) :=
  l.filter fun e => Text.lower e.1 = name

theorem mem_named {e : String × Json} : e ∈ named name l ↔ e ∈ l ∧ Text.lower e.1 = name := by
  simp [named]

theorem named_append (l l' : List (String × Json)) :
    named name (l ++ l') = named name l ++ named name l' :=
  List.filter_append ..

theorem sorted_named (h : Sorted l) (name : String) : Sorted (named name l) :=
  h.filter _

theorem lookup_named (k name : String) (l : List (String × Json)) :
    (named name l).lookup k = if Text.lower k = name then l.lookup k else none := by
  induction l with
  | nil => simp [named]
  | cons e l ih =>
    rw [named] at ih ⊢
    by_cases he : Text.lower e.1 = name
    · rw [List.filter_cons_of_pos (by simpa using he), lookup_cons, lookup_cons, ih]
      by_cases hk : k = e.1
      · simp [hk, he]
      · simp [hk]
    · rw [List.filter_cons_of_neg (by simpa using he), ih, lookup_cons]
      by_cases hk : k = e.1
      · simp [hk, he]
      · simp [hk]

end Entries

open Entries

/-! ### Effects of a name -/

namespace Kind
variable {k : Kind} {w : World} {l l' : List (String × Json)}

/-- What stems from entries of one name only can be found without the others. -/
theorem filterMap_acceptAll_named {α : Type} {f : Effect → Option α} {name : String}
    (hf : ∀ key v e, k.accept key v = .ok e → (f e).isSome → Text.lower key = name)
    (h : (k.acceptAll l).2 = .ok ()) :
    (k.acceptAll l).1.filterMap f = (k.acceptAll (named name l)).1.filterMap f := by
  induction l with
  | nil => rfl
  | cons entry l ih =>
    obtain ⟨key, v⟩ := entry
    rw [acceptAll] at h ⊢
    cases ha : k.accept key v with
    | error e => rw [ha] at h; cases h
    | ok e =>
      rw [ha] at h
      by_cases hname : Text.lower key = name
      · rw [named, List.filter_cons_of_pos (by simpa using hname), acceptAll, ha]
        simp only [List.filterMap_cons, ih h]
        rfl
      · have hnone : f e = none := by
          cases hfe : f e with
          | none => rfl
          | some a => exact absurd (hf key v e ha (by rw [hfe]; rfl)) hname
        rw [named, List.filter_cons_of_neg (by simpa using hname), List.filterMap_cons, hnone]
        exact ih h

theorem writesTo_acceptAll_named (key : String) (h : (k.acceptAll l).2 = .ok ()) :
    Effect.writesTo key (k.acceptAll l).1 =
      Effect.writesTo key (k.acceptAll (named (Details.bulkName key) l)).1 := by
  refine filterMap_acceptAll_named (fun key' v e he hsome => ?_) h
  obtain ⟨x, hx⟩ := Option.isSome_iff_exists.1 hsome
  obtain ⟨rfl, rfl⟩ := Effect.writeTo?_eq_some_iff.1 hx
  exact lower_of_write he

theorem pins_acceptAll_named (h : (k.acceptAll l).2 = .ok ()) :
    (k.acceptAll l).1.filterMap Effect.pin? =
      (k.acceptAll (named "idempotencykey" l)).1.filterMap Effect.pin? := by
  refine filterMap_acceptAll_named (fun key' v e he hsome => ?_) h
  cases e with
  | skip | write => cases hsome
  | pin pin => exact (idempotencyKey_of_pin he).1

theorem named_filter_knows (name : String) (l : List (String × Json)) :
    named name (l.filter (k.Knows ·.1)) = if name ∈ k.bulkKeys then named name l else [] := by
  rw [named, List.filter_filter]
  split
  · rename_i hname
    refine List.filter_congr fun e _ => ?_
    by_cases he : Text.lower e.1 = name
    · simp [Knows, he, hname]
    · simp [he]
  · rename_i hname
    rw [List.filter_eq_nil_iff]
    intro e _ he
    simp only [Bool.and_eq_true, decide_eq_true_iff] at he
    exact hname (he.1 ▸ he.2)

/-- Accepted entries do the same as others that are the same name by name. -/
theorem runAll_congr_named (h : (k.acceptAll l).2 = .ok ()) (h' : (k.acceptAll l').2 = .ok ())
    (hl : ∀ name ∈ k.bulkKeys, named name l = named name l') (s : Job × Trace) :
    Effect.runAll w (k.acceptAll l).1 s = Effect.runAll w (k.acceptAll l').1 s := by
  obtain ⟨hverdict, hrun⟩ := acceptAll_filter_knows (k := k) (w := w) l
  obtain ⟨hverdict', hrun'⟩ := acceptAll_filter_knows (k := k) (w := w) l'
  have hok := hverdict.trans h
  have hok' := hverdict'.trans h'
  -- entries of other names do nothing, so they may differ
  have hknown (name : String) :
      named name (l.filter (k.Knows ·.1)) = named name (l'.filter (k.Knows ·.1)) := by
    rw [named_filter_knows, named_filter_knows]
    split
    · exact hl name ‹_›
    · rfl
  rw [← hrun, ← hrun']
  refine Effect.runAll_congr (fun key => ?_) ?_ s
  · rw [writesTo_acceptAll_named key hok, writesTo_acceptAll_named key hok', hknown]
  · rw [pins_acceptAll_named hok, pins_acceptAll_named hok', hknown]

end Kind

/-! ### Two records -/

namespace Fields

/-- The entries of both records; where a key is in both, the value of the second stands. -/
def union (f g : Fields) : Fields :=
  ⟨Entries.insertAll f.entries g.entries, Entries.sorted_insertAll f.sorted g.entries⟩

theorem get?_union (f g : Fields) (key : String) :
    (f.union g).get? key = (g.get? key).or (f.get? key) := by
  show (Entries.insertAll f.entries g.entries).lookup key = _
  rw [Entries.lookup_insertAll_ofList, Entries.ofList_of_sorted g.sorted]
  rfl

theorem mem_union {f g : Fields} {e : String × Json} (h : e ∈ (f.union g).entries) :
    e ∈ f.entries ∨ e ∈ g.entries :=
  (Entries.mem_insertAll h).symm

theorem get?_of_named_eq_nil {f : Fields} {name key : String} (h : named name f.entries = [])
    (hkey : Text.lower key = name) : f.get? key = none := by
  have hlookup := lookup_named key name f.entries
  rw [h, if_pos hkey] at hlookup
  exact hlookup.symm

theorem named_union {f g : Fields} {name : String}
    (h : named name f.entries = [] ∨ named name g.entries = []) :
    named name (f.union g).entries = named name f.entries ++ named name g.entries := by
  have hunion := sorted_named (f.union g).sorted name
  rcases h with h | h
  · rw [h, List.nil_append]
    refine Sorted.ext hunion (sorted_named g.sorted name) fun key => ?_
    rw [lookup_named, lookup_named]
    split
    · rename_i hkey
      show (f.union g).get? key = g.get? key
      rw [get?_union, get?_of_named_eq_nil h hkey, Option.or_none]
    · rfl
  · rw [h, List.append_nil]
    refine Sorted.ext hunion (sorted_named f.sorted name) fun key => ?_
    rw [lookup_named, lookup_named]
    split
    · rename_i hkey
      show (f.union g).get? key = f.get? key
      rw [get?_union, get?_of_named_eq_nil h hkey, Option.none_or]
    · rfl

end Fields

namespace Kind
variable {k : Kind} {f g : Fields} {name : String}

/-- No key that the kind understands is in both records, in whatever case of its letters. -/
def Disjoint (k : Kind) (f g : Fields) : Prop :=
  ∀ a ∈ f.keys, ∀ b ∈ g.keys, k.Knows a → Text.lower a ≠ Text.lower b

instance (k : Kind) (f g : Fields) : Decidable (k.Disjoint f g) :=
  inferInstanceAs (Decidable (∀ a ∈ f.keys, ∀ b ∈ g.keys, k.Knows a → Text.lower a ≠ Text.lower b))

/-- No key that the kind understands is in the record twice, in different cases of its letters. -/
def NamesOnce (k : Kind) (f : Fields) : Prop :=
  ∀ a ∈ f.keys, ∀ b ∈ f.keys, k.Knows a → Text.lower a = Text.lower b → a = b

instance (k : Kind) (f : Fields) : Decidable (k.NamesOnce f) :=
  inferInstanceAs
    (Decidable (∀ a ∈ f.keys, ∀ b ∈ f.keys, k.Knows a → Text.lower a = Text.lower b → a = b))

theorem knows_of_mem_named {l : List (String × Json)} {e : String × Json} (hname : name ∈ k.bulkKeys)
    (he : e ∈ named name l) : e ∈ l ∧ Text.lower e.1 = name ∧ k.Knows e.1 := by
  obtain ⟨hmem, hlower⟩ := mem_named.1 he
  refine ⟨hmem, hlower, ?_⟩
  rw [Knows, hlower]
  exact hname

theorem Disjoint.named_eq_nil (h : k.Disjoint f g) (hname : name ∈ k.bulkKeys) :
    named name f.entries = [] ∨ named name g.entries = [] := by
  by_contra hboth
  rw [not_or] at hboth
  obtain ⟨a, ha⟩ := List.exists_mem_of_ne_nil _ hboth.1
  obtain ⟨b, hb⟩ := List.exists_mem_of_ne_nil _ hboth.2
  obtain ⟨ha, hlower, hknows⟩ := knows_of_mem_named hname ha
  obtain ⟨hb, hlower', -⟩ := knows_of_mem_named hname hb
  exact h a.1 (List.mem_map_of_mem ha) b.1 (List.mem_map_of_mem hb) hknows
    (hlower.trans hlower'.symm)

/-- Records without a name in common have the same entries of each name in either order. -/
theorem Disjoint.named_append_comm (h : k.Disjoint f g) (hname : name ∈ k.bulkKeys) :
    named name (f.entries ++ g.entries) = named name (g.entries ++ f.entries) := by
  rw [named_append, named_append]
  rcases h.named_eq_nil hname with h | h
  · rw [h, List.nil_append, List.append_nil]
  · rw [h, List.nil_append, List.append_nil]

theorem Disjoint.named_union (h : k.Disjoint f g) (hname : name ∈ k.bulkKeys) :
    named name (f.union g).entries = named name (f.entries ++ g.entries) := by
  rw [named_append, Fields.named_union (h.named_eq_nil hname)]

/-- Of a name that is there once at most, entries in another order are the same. -/
theorem NamesOnce.named_perm (h : k.NamesOnce f) (hname : name ∈ k.bulkKeys)
    {l : List (String × Json)} (hl : l.Perm f.entries) : named name l = named name f.entries := by
  have hperm : (named name l).Perm (named name f.entries) := hl.filter _
  have hsorted := sorted_named f.sorted name
  have hsame : ∀ a ∈ named name f.entries, ∀ b ∈ named name f.entries, a.1 = b.1 := by
    intro a ha b hb
    obtain ⟨ha, hlower, hknows⟩ := knows_of_mem_named hname ha
    obtain ⟨hb, hlower', -⟩ := knows_of_mem_named hname hb
    exact h a.1 (List.mem_map_of_mem ha) b.1 (List.mem_map_of_mem hb) hknows
      (hlower.trans hlower'.symm)
  match hn : named name f.entries with
  | [] => rw [hn] at hperm; exact hperm.eq_nil
  | [e] => rw [hn] at hperm; exact hperm.eq_singleton
  | a :: b :: rest =>
    rw [hn] at hsorted hsame
    have hlt : a.1 < b.1 := (List.pairwise_cons.1 hsorted).1 b (List.mem_cons_self ..)
    have heq : a.1 = b.1 := hsame a (by simp) b (by simp)
    exact absurd heq (String.ne_of_lt hlt)

end Kind

/-! ### Merges -/

namespace Job
variable {w : World} {ignoreUnknown : Bool} {f g bulk : Fields} {s s₁ s' : Job × Trace}

/-- The record merges, and what is left is the second state. -/
def Merges (w : World) (ignoreUnknown : Bool) (bulk : Fields) (s s' : Job × Trace) : Prop :=
  s.1.merge w bulk ignoreUnknown s.2 = (s', .ok ())

/-- The record is not refused for a key. -/
def Passes (k : Kind) (ignoreUnknown : Bool) (bulk : Fields) : Prop :=
  ignoreUnknown = true ∨ ∀ key ∈ bulk.keys, k.Knows key

theorem merges_iff :
    Merges w ignoreUnknown bulk s s' ↔ Passes s.1.kind ignoreUnknown bulk ∧
      (s.1.kind.acceptAll bulk.entries).2 = .ok () ∧
      s' = Effect.runAll w (s.1.kind.acceptAll bulk.entries).1 s := by
  constructor
  · intro h
    have hpasses : Passes s.1.kind ignoreUnknown bulk := by
      by_contra hn
      rw [Passes, not_or, Bool.not_eq_true] at hn
      obtain ⟨rfl, hn⟩ := hn
      simp only [not_forall, exists_prop] at hn
      obtain ⟨key, hkey, -⟩ := exists_firstUnknown hn
      rw [Merges, merge_of_unknownKey? hkey] at h
      cases congrArg Prod.snd h
    rw [Merges, merge_eq_of_passes hpasses] at h
    exact ⟨hpasses, congrArg Prod.snd h, (congrArg Prod.fst h).symm⟩
  · rintro ⟨hpasses, hok, rfl⟩
    rw [Merges, merge_eq_of_passes hpasses, hok]

theorem Merges.kind (h : Merges w ignoreUnknown bulk s s') : s'.1.kind = s.1.kind := by
  obtain ⟨-, -, rfl⟩ := merges_iff.1 h
  exact Effect.runAll_kind ..

/-- One record after another is the entries of the one in front of those of the other. -/
theorem Merges.trans (h : Merges w ignoreUnknown f s s₁) (hg : Passes s.1.kind ignoreUnknown g)
    (hok : (s.1.kind.acceptAll g.entries).2 = .ok ()) :
    (s.1.kind.acceptAll (f.entries ++ g.entries)).2 = .ok () ∧
      Merges w ignoreUnknown g s₁
        (Effect.runAll w (s.1.kind.acceptAll (f.entries ++ g.entries)).1 s) := by
  have hkind := h.kind
  obtain ⟨-, hf, hs⟩ := merges_iff.1 h
  rw [Kind.acceptAll_append hf]
  refine ⟨hok, merges_iff.2 ⟨by rwa [hkind], by rwa [hkind], ?_⟩⟩
  rw [Effect.runAll_append, ← hs, hkind]

theorem Passes.union {k : Kind} (hf : Passes k ignoreUnknown f) (hg : Passes k ignoreUnknown g) :
    Passes k ignoreUnknown (f.union g) := by
  rcases hf with hf | hf
  · exact .inl hf
  rcases hg with hg | hg
  · exact .inl hg
  refine .inr fun key hkey => ?_
  obtain ⟨e, he, rfl⟩ := List.mem_map.1 hkey
  rcases Fields.mem_union he with he | he
  · exact hf e.1 (List.mem_map_of_mem he)
  · exact hg e.1 (List.mem_map_of_mem he)

/-- Two records that merge, and have no key in common that the kind understands, merge after each
other in either order, and merge as one record, with the same result: the same details, the same
key and as many keys made up. And if no such key is in a record twice in different cases of its
letters, the record merges in whatever order its entries are applied. -/
theorem merge_disjoint (w : World) (ignoreUnknown : Bool) (s : Job × Trace) :
    (∀ f g s₁ s₂, s.1.kind.Disjoint f g →
      Merges w ignoreUnknown f s s₁ → Merges w ignoreUnknown g s s₂ →
      ∃ out, Merges w ignoreUnknown g s₁ out ∧ Merges w ignoreUnknown f s₂ out ∧
        Merges w ignoreUnknown (f.union g) s out) ∧
    ∀ bulk s', s.1.kind.NamesOnce bulk → Merges w ignoreUnknown bulk s s' →
      ∀ l : List (String × Json), l.Perm bulk.entries →
        applyEntries w l s.1 s.2 = (s', .ok ()) := by
  constructor
  · intro f g s₁ s₂ hd hf hg
    obtain ⟨hfpasses, hfok, -⟩ := merges_iff.1 hf
    obtain ⟨hgpasses, hgok, -⟩ := merges_iff.1 hg
    obtain ⟨hok, hfg⟩ := hf.trans hgpasses hgok
    obtain ⟨hok', hgf⟩ := hg.trans hfpasses hfok
    have hunion : (s.1.kind.acceptAll (f.union g).entries).2 = .ok () := by
      refine Kind.verdict_acceptAll_iff.2 fun e he => ?_
      rcases Fields.mem_union he with he | he
      · exact Kind.verdict_acceptAll_iff.1 hfok e he
      · exact Kind.verdict_acceptAll_iff.1 hgok e he
    refine ⟨_, hfg, ?_, merges_iff.2 ⟨hfpasses.union hgpasses, hunion, ?_⟩⟩
    · rw [Kind.runAll_congr_named hok hok' fun name hname => hd.named_append_comm hname]
      exact hgf
    · exact Kind.runAll_congr_named hok hunion (fun name hname => (hd.named_union hname).symm) s
  · intro bulk s' honce h l hl
    obtain ⟨-, hok, rfl⟩ := merges_iff.1 h
    have hok' : (s.1.kind.acceptAll l).2 = .ok () :=
      Kind.verdict_acceptAll_iff.2 fun e he => Kind.verdict_acceptAll_iff.1 hok e (hl.mem_iff.1 he)
    rw [applyEntries_eq, hok']
    exact congrArg (·, _) (Kind.runAll_congr_named hok' hok
      (fun name hname => honce.named_perm hname hl) s)

/-- Texts of a receipt, and a new key. -/
def saleTexts : Fields :=
  .ofList [("HEADERTEXT", .string "Shop"), ("Text", .string "Thanks"), ("idempotencyKey", .null)]

/-- The items of a receipt, and one more of its texts. -/
def saleItems : Fields :=
  .ofList [("footerText", .string "Bye"),
    ("Items", .array [.object [("price", .number (.real 12.5)), ("title", .string "Tea")]])]

theorem merges_of_isOk (h : (s.1.merge w bulk ignoreUnknown s.2).2.isOk = true) :
    Merges w ignoreUnknown bulk s (s.1.merge w bulk ignoreUnknown s.2).1 :=
  Prod.ext rfl (Except.eq_ok_of_isOk h)

theorem merge_disjoint_sale :
    let w := World.unreachable .ofNat "down"
    let s : Job × Trace := (fresh ⟨"host", "secret", "7"⟩ (.device .sell) rfl, .start)
    s.1.kind.Disjoint saleTexts saleItems ∧ s.1.kind.NamesOnce saleTexts ∧
      ∃ s₁ s₂ out, Merges w false saleTexts s s₁ ∧ Merges w false saleItems s s₂ ∧
        Merges w false saleItems s₁ out ∧ Merges w false saleTexts s₂ out ∧
        Merges w false (saleTexts.union saleItems) s out ∧
        applyEntries w saleTexts.entries.reverse s.1 s.2 = (s₁, .ok ()) := by
  intro w s
  have hdisjoint : s.1.kind.Disjoint saleTexts saleItems := by decide
  have honce : s.1.kind.NamesOnce saleTexts := by decide
  have htexts : Merges w false saleTexts s _ := merges_of_isOk (by decide +kernel)
  have hitems : Merges w false saleItems s _ := merges_of_isOk (by decide +kernel)
  obtain ⟨hmerge, horder⟩ := merge_disjoint w false s
  obtain ⟨out, h₁, h₂, hunion⟩ := hmerge saleTexts saleItems _ _ hdisjoint htexts hitems
  exact ⟨hdisjoint, honce, _, _, out, htexts, hitems, h₁, h₂, hunion,
    horder saleTexts _ honce htexts _ (List.reverse_perm _)⟩

end Job
end Till
