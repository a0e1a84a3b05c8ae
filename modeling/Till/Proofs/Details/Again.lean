import Mathlib.Data.List.Induction
import Till.Proofs.Details.Held

/-!
# Writes that are made again

Under most keys writes may be made again, one after another as before, and nothing changes
(`Write.afterAll_again`): the last one replaces what stood there, and a customer has all the texts
that are merged into it once more. Lists alone grow, by the values that all the writes bring
(`Write.afterAll_list`).
-/

namespace Till

namespace Entries
variable {β : Type} {k k' : String}

/-! ### Entries that are set again -/

/-- Keys are set in either order, even if the list is not in the order of its keys. -/
theorem insert_comm (h : k ≠ k') (v v' : β) (l : List (String × β)) :
    insert k v (insert k' v' l) = insert k' v' (insert k v l) := by
  induction l with
  | nil => grind [insert]
  | cons e l ih => grind [insert]

theorem insertAll_concat (base l : List (String × β)) (e : String × β) :
    insertAll base (l ++ [e]) = insert e.1 e.2 (insertAll base l) := by
  simp [insertAll]

/-- What is set at the end need not have been set before. -/
theorem insert_insertAll_insert (e : String × β) (base l : List (String × β)) :
    insert e.1 e.2 (insertAll (insert e.1 e.2 base) l) = insert e.1 e.2 (insertAll base l) := by
  induction l generalizing base with
  | nil => exact insert_insert_self ..
  | cons d l ih =>
    show insert e.1 e.2 (insertAll (insert d.1 d.2 (insert e.1 e.2 base)) l) =
      insert e.1 e.2 (insertAll (insert d.1 d.2 base) l)
    by_cases h : d.1 = e.1
    · rw [h, insert_insert_self]
    · rw [insert_comm h, ih]

theorem insertAll_insertAll_self (base l : List (String × β)) :
    insertAll (insertAll base l) l = insertAll base l := by
  induction l using List.reverseRecOn with
  | nil => rfl
  | append_singleton l e ih =>
    rw [insertAll_concat, insertAll_concat, insert_insertAll_insert, ih]

end Entries

namespace Write
variable {key : String} {xs : List Write}

/-! ### One value for many writes -/

/-- Writes whose values can be put together amount to one with all their values. -/
theorem afterAll_eq_flatMap {α : Type} {act : List α → Option Json → Option Json}
    {values : Write → List α} (hnil : ∀ v, act [] v = v)
    (happend : ∀ as bs v, act bs (act as v) = act (as ++ bs) v)
    (hxs : ∀ x ∈ xs, ∀ v, x.after v = act (values x) v) (v : Option Json) :
    afterAll xs v = act (xs.flatMap values) v := by
  induction xs generalizing v with
  | nil => exact (hnil v).symm
  | cons x xs ih =>
    obtain ⟨hx, hxs⟩ := List.forall_mem_cons.1 hxs
    rw [List.flatMap_cons, ← happend, ← hx]
    exact ih hxs (x.after v)

/-- An object with fields set in it; without fields there need not be an object. -/
def merged (fs : List (String × Json)) (before : Option Json) : Option Json :=
  if fs = [] then before else some (.object (Entries.insertAll (Details.fieldsOf before) fs))

theorem merged_merged (fs fs' : List (String × Json)) (before : Option Json) :
    merged fs' (merged fs before) = merged (fs ++ fs') before := by
  unfold merged
  by_cases h : fs = []
  · simp [h]
  · by_cases h' : fs' = []
    · simp [h, h']
    · simp [h, h', Details.fieldsOf, Entries.insertAll, List.foldl_append]

theorem merged_again (fs : List (String × Json)) (before : Option Json) :
    merged fs (merged fs before) = merged fs before := by
  unfold merged
  by_cases h : fs = []
  · simp [h]
  · simp [h, Details.fieldsOf, Entries.insertAll_insertAll_self]

/-! ### Writes by their key -/

theorem slot_of_key {x : Write} {s : Slot} (h : x.key = s.key) : x.slot = some s := by
  cases hslot : x.slot with
  | none =>
    obtain ⟨p, rfl⟩ := eq_padding_of_slot hslot
    exact absurd h.symm (Slot.key_ne (by decide : "*padding*" ∉ _) s)
  | some s' => rw [Slot.key_injective ((key_of_slot hslot).symm.trans h)]

/-- Apart from lists and customers a write leaves nothing of what stood there. -/
theorem after_eq_after {x : Write} (h : x.key ∉ ["items", "document", "customer"])
    (v v' : Option Json) : x.after v = x.after v' := by
  cases x with
  | items | document | customer => exact absurd (by simp [Write.key]) h
  | _ => rfl

/-- The fields that a customer brings. -/
def customerFields : Write → List (String × Json)
  | customer c => c.fields
  | _ => []

/-- The values that a write brings to the end of a list. -/
def values : Write → List Json
  | items is => is.map Item.toJson
  | document bs => bs.map DocumentBlock.toJson
  | _ => []

theorem after_eq_merged {x : Write} (h : x.key = "customer") (v : Option Json) :
    x.after v = merged x.customerFields v := by
  have hslot : x.slot = some .customer := slot_of_key h
  cases x with
  | customer c => rfl
  | _ => cases hslot

theorem after_eq_appended {x : Write} (h : x.key ∈ ["items", "document"]) (v : Option Json) :
    x.after v = appended x.values v := by
  simp only [List.mem_cons, List.not_mem_nil, or_false] at h
  rcases h with h | h
  · have hslot : x.slot = some .items := slot_of_key h
    cases x with
    | items is => rfl
    | _ => cases hslot
  · have hslot : x.slot = some .document := slot_of_key h
    cases x with
    | document bs => rfl
    | _ => cases hslot

/-! ### All writes to a key once more -/

/-- Writes to a list bring all their values to its end. -/
theorem afterAll_list (hkey : key ∈ ["items", "document"]) (hxs : ∀ x ∈ xs, x.key = key)
    (v : Option Json) : afterAll xs v = appended (xs.flatMap values) v := by
  refine afterAll_eq_flatMap (fun v => ?_) appended_appended (fun x hx v => ?_) v
  · simp [appended]
  · exact after_eq_appended (by rw [hxs x hx]; exact hkey) v

/-- Writes of customers bring all their fields. -/
theorem afterAll_customer (hxs : ∀ x ∈ xs, x.key = "customer") (v : Option Json) :
    afterAll xs v = merged (xs.flatMap customerFields) v := by
  refine afterAll_eq_flatMap (fun v => ?_) merged_merged (fun x hx v => ?_) v
  · simp [merged]
  · exact after_eq_merged (hxs x hx) v

/-- Writes elsewhere can be made again. -/
theorem afterAll_again (hkey : key ∉ ["items", "document"]) (hxs : ∀ x ∈ xs, x.key = key)
    (v : Option Json) : afterAll xs (afterAll xs v) = afterAll xs v := by
  by_cases hcustomer : key = "customer"
  · have hcustomers : ∀ x ∈ xs, x.key = "customer" := fun x hx => (hxs x hx).trans hcustomer
    rw [afterAll_customer hcustomers, afterAll_customer hcustomers, merged_again]
  · -- the last write decides, whatever stands there
    rcases List.eq_nil_or_concat' xs with rfl | ⟨ys, x, rfl⟩
    · rfl
    · have hx : x.key = key := hxs x (by simp)
      have hlast (u : Option Json) : afterAll (ys ++ [x]) u = x.after (afterAll ys u) := by
        simp [afterAll]
      rw [hlast, hlast]
      refine after_eq_after ?_ _ _
      simp only [List.mem_cons, List.not_mem_nil, or_false, not_or] at hkey ⊢
      rw [hx]
      exact ⟨hkey.1, hkey.2, hcustomer⟩

end Write
end Till
