import Till.Json.Basic

/-!
# Entries in key order

An object as a list of keys and values in strictly ascending order of the keys, which for UTF-8
texts is the order of their bytes. The look-up laws of `insert` and `erase` need no order; order
itself is `Sorted`, which both keep. `Fields` packages a sorted list; two of them are equal if all
look-ups agree (`Fields.ext_get?`).
-/

namespace Till

namespace Entries
variable {β : Type}

/-- Sets the value of a key, in place if the key is there. -/
def insert (k : String) (v : β) : List (String × β) → List (String × β)
  | [] => [(k, v)]
  | e :: l =>
    if k < e.1 then (k, v) :: e :: l
    else if k = e.1 then (k, v) :: l
    else e :: insert k v l

def erase (k : String) (l : List (String × β)) : List (String × β) :=
  l.filter (·.1 ≠ k)

/-- Sets the values one after another, so that the last value of a key stands. -/
def insertAll (base : List (String × β)) (l : List (String × β)) : List (String × β) :=
  l.foldl (fun acc e => insert e.1 e.2 acc) base

def ofList (l : List (String × β)) : List (String × β) :=
  insertAll [] l

def Sorted (l : List (String × β)) : Prop :=
  l.Pairwise fun a b => a.1 < b.1

/-! ### Look-up -/

theorem lookup_cons (k : String) (e : String × β) (l : List (String × β)) :
    (e :: l).lookup k = if k = e.1 then some e.2 else l.lookup k := by
  obtain ⟨k', v⟩ := e
  rw [List.lookup_cons]
  by_cases h : k = k'
  · simp [h]
  · simp [h, beq_false_of_ne h]

theorem lookup_insert_self (k : String) (v : β) (l : List (String × β)) :
    (insert k v l).lookup k = some v := by
  induction l with
  | nil => simp [insert]
  | cons e l ih =>
    unfold insert
    split
    · simp
    · split
      · simp
      · rename_i h
        simp [lookup_cons, h, ih]

theorem lookup_insert_ne {k k' : String} (h : k' ≠ k) (v : β) (l : List (String × β)) :
    (insert k v l).lookup k' = l.lookup k' := by
  induction l with
  | nil => simp [insert, lookup_cons, h]
  | cons e l ih =>
    unfold insert
    split
    · simp [lookup_cons, h]
    · split
      · rename_i he
        subst he
        simp [lookup_cons, h]
      · simp [lookup_cons, ih]

theorem lookup_insert (k k' : String) (v : β) (l : List (String × β)) :
    (insert k v l).lookup k' = if k' = k then some v else l.lookup k' := by
  split
  · rename_i h; subst h; exact lookup_insert_self ..
  · rename_i h; exact lookup_insert_ne h ..

theorem lookup_erase (k k' : String) (l : List (String × β)) :
    (erase k l).lookup k' = if k' = k then none else l.lookup k' := by
  induction l with
  | nil => simp [erase]
  | cons e l ih =>
    simp only [erase, List.filter_cons] at ih ⊢
    by_cases he : e.1 = k
    · by_cases hk : k' = k
      · simpa [he, hk] using ih
      · simp only [he, ne_eq, not_true_eq_false, decide_false, Bool.false_eq_true, if_false, ih, hk]
        simp [lookup_cons, he, hk]
    · by_cases hk : k' = e.1
      · subst hk
        simp [lookup_cons, he]
      · simpa [lookup_cons, he, hk] using ih

/-- The last of the new values of a key stands, or else the old one. -/
theorem lookup_insertAll (k : String) (base l : List (String × β)) :
    (insertAll base l).lookup k = (l.reverse.lookup k).or (base.lookup k) := by
  induction l generalizing base with
  | nil => rfl
  | cons e l ih =>
    show (insertAll (insert e.1 e.2 base) l).lookup k = _
    rw [ih, lookup_insert, List.reverse_cons, List.lookup_append, Option.or_assoc]
    by_cases hk : k = e.1
    · simp [hk, lookup_cons]
    · simp [hk, lookup_cons]

theorem mem_of_lookup {l : List (String × β)} {k : String} {v : β} (h : l.lookup k = some v) :
    (k, v) ∈ l := by
  obtain ⟨a, b, rfl, -⟩ := List.lookup_eq_some_iff.1 h
  simp

theorem isSome_lookup_of_mem {l : List (String × β)} {e : String × β} (h : e ∈ l) :
    (l.lookup e.1).isSome := by
  induction l with
  | nil => cases h
  | cons d l ih =>
    rcases List.mem_cons.1 h with rfl | h
    · simp [lookup_cons]
    · rw [lookup_cons]
      split
      · rfl
      · exact ih h

/-! ### Order -/

theorem mem_insert {k : String} {v : β} {e : String × β} {l : List (String × β)}
    (h : e ∈ insert k v l) : e = (k, v) ∨ e ∈ l := by
  induction l with
  | nil => simpa [insert] using h
  | cons d l ih =>
    unfold insert at h
    split at h
    · simpa using h
    · split at h
      · rcases List.mem_cons.1 h with h | h
        · exact .inl h
        · exact .inr (List.mem_cons_of_mem _ h)
      · rcases List.mem_cons.1 h with h | h
        · exact .inr (by simp [h])
        · exact (ih h).imp id (List.mem_cons_of_mem _)

theorem sorted_insert {l : List (String × β)} (h : Sorted l) (k : String) (v : β) :
    Sorted (insert k v l) := by
  induction l with
  | nil => simp [insert, Sorted]
  | cons e l ih =>
    obtain ⟨he, hl⟩ := List.pairwise_cons.1 h
    unfold insert
    split
    · rename_i hk
      exact List.pairwise_cons.2 ⟨fun d hd => (List.mem_cons.1 hd).elim (fun h => h ▸ hk)
        fun h => String.lt_trans hk (he d h), h⟩
    · split
      · rename_i hk
        subst hk
        exact List.pairwise_cons.2 ⟨he, hl⟩
      · rename_i hk hne
        refine List.pairwise_cons.2 ⟨fun d hd => ?_, ih hl⟩
        rcases mem_insert hd with rfl | hd
        · exact Std.lt_of_le_of_ne (String.not_lt.1 hk) (Ne.symm hne)
        · exact he d hd

theorem sorted_insertAll {base : List (String × β)} (h : Sorted base) (l : List (String × β)) :
    Sorted (insertAll base l) := by
  induction l generalizing base with
  | nil => exact h
  | cons e l ih => exact ih (sorted_insert h ..)

theorem sorted_erase {l : List (String × β)} (h : Sorted l) (k : String) : Sorted (erase k l) :=
  h.filter _

theorem lookup_eq_none_of_lt {l : List (String × β)} {k : String} (h : ∀ e ∈ l, k < e.1) :
    l.lookup k = none := by
  induction l with
  | nil => rfl
  | cons e l ih =>
    have hne : k ≠ e.1 := fun hk => String.lt_irrefl k (by simpa [← hk] using h e (by simp))
    simp [lookup_cons, hne, ih fun d hd => h d (List.mem_cons_of_mem _ hd)]

theorem Sorted.ext {l l' : List (String × β)} (h : Sorted l) (h' : Sorted l')
    (hl : ∀ k, l.lookup k = l'.lookup k) : l = l' := by
  induction l generalizing l' with
  | nil =>
    cases l' with
    | nil => rfl
    | cons e l' => simpa [lookup_cons] using hl e.1
  | cons e l ih =>
    cases l' with
    | nil => simpa [lookup_cons] using hl e.1
    | cons e' l' =>
      obtain ⟨he, hs⟩ := List.pairwise_cons.1 h
      obtain ⟨he', hs'⟩ := List.pairwise_cons.1 h'
      have hkey : e.1 = e'.1 := by
        rcases Std.lt_trichotomy e.1 e'.1 with hk | hk | hk
        · have := hl e.1
          rw [lookup_eq_none_of_lt (l := e' :: l') fun d hd => (List.mem_cons.1 hd).elim
            (fun h => h ▸ hk) fun h => String.lt_trans hk (he' d h)] at this
          simp [lookup_cons] at this
        · exact hk
        · have := hl e'.1
          rw [lookup_eq_none_of_lt (l := e :: l) fun d hd => (List.mem_cons.1 hd).elim
            (fun h => h ▸ hk) fun h => String.lt_trans hk (he d h)] at this
          simp [lookup_cons] at this
      have hval : e.2 = e'.2 := by
        have := hl e.1
        simpa [lookup_cons, hkey] using this
      have htail : l = l' := by
        refine ih hs hs' fun k => ?_
        by_cases hk : k = e.1
        · subst hk
          rw [lookup_eq_none_of_lt he, lookup_eq_none_of_lt fun d hd => hkey ▸ he' d hd]
        · have := hl k
          simpa [lookup_cons, hk, (hkey ▸ hk : k ≠ e'.1)] using this
      rw [htail, Prod.ext hkey hval]

end Entries

/-- Keys with values in strictly ascending order of the keys. -/
structure Fields where
  entries : List (String × Json)
  sorted : Entries.Sorted entries

namespace Fields

def empty : Fields :=
  ⟨[], List.Pairwise.nil⟩

instance : Inhabited Fields := ⟨empty⟩

def insert (f : Fields) (k : String) (v : Json) : Fields :=
  ⟨Entries.insert k v f.entries, Entries.sorted_insert f.sorted k v⟩

def erase (f : Fields) (k : String) : Fields :=
  ⟨Entries.erase k f.entries, Entries.sorted_erase f.sorted k⟩

def get? (f : Fields) (k : String) : Option Json :=
  f.entries.lookup k

def contains (f : Fields) (k : String) : Bool :=
  (f.get? k).isSome

def keys (f : Fields) : List String :=
  f.entries.map (·.1)

def size (f : Fields) : Nat :=
  f.entries.length

def ofList (l : List (String × Json)) : Fields :=
  ⟨Entries.ofList l, Entries.sorted_insertAll List.Pairwise.nil l⟩

def toJson (f : Fields) : Json :=
  .object f.entries

@[simp] theorem get?_empty (k : String) : empty.get? k = none := rfl

@[simp] theorem get?_insert (f : Fields) (k k' : String) (v : Json) :
    (f.insert k v).get? k' = if k' = k then some v else f.get? k' :=
  Entries.lookup_insert ..

@[simp] theorem get?_erase (f : Fields) (k k' : String) :
    (f.erase k).get? k' = if k' = k then none else f.get? k' :=
  Entries.lookup_erase ..

theorem ext_get? {f g : Fields} (h : ∀ k, f.get? k = g.get? k) : f = g := by
  cases f; cases g
  simp only [mk.injEq]
  exact Entries.Sorted.ext ‹_› ‹_› h

end Fields
end Till
