import Mathlib.Data.List.Nodup
import Till.Json.Entries

/-!
# Records with given places

`Json.IsRecord ps` holds of the fields of an object that has the places `ps`: nothing stands outside
of them, every value fits its place, and what is required is there. A record that is built from a
list of fields needs each of them checked once (`IsRecord.ofList`), and stays one when fields are
set that fit (`IsRecord.insertAll`).
-/

namespace Till

namespace Entries
variable {β : Type} {base l : List (String × β)} {k : String} {v : β}

/-- Of two values for a key the second stands. -/
theorem insert_insert_self (k : String) (v v' : β) (l : List (String × β)) :
    insert k v (insert k v' l) = insert k v l := by
  induction l with
  | nil => simp [insert]
  | cons e l ih => grind [insert]

theorem mem_of_lookup_insertAll (h : (insertAll base l).lookup k = some v) :
    (k, v) ∈ l ∨ base.lookup k = some v := by
  rw [lookup_insertAll] at h
  rcases Option.or_eq_some_iff.1 h with h | ⟨-, h⟩
  · exact .inl (List.mem_reverse.1 (mem_of_lookup h))
  · exact .inr h

theorem isSome_lookup_insertAll (h : (k, v) ∈ l ∨ (base.lookup k).isSome) :
    ((insertAll base l).lookup k).isSome := by
  rw [lookup_insertAll, Option.isSome_or, Bool.or_eq_true]
  exact h.imp (fun h => isSome_lookup_of_mem (List.mem_reverse.2 h)) id

theorem insertAll_ne_nil (h : base ≠ [] ∨ l ≠ []) : insertAll base l ≠ [] := by
  rcases h with h | h
  · obtain ⟨e, base, rfl⟩ := List.exists_cons_of_ne_nil h
    intro hn
    have hsome := isSome_lookup_insertAll (l := l) (k := e.1) (v := e.2)
      (.inr (isSome_lookup_of_mem (List.mem_cons_self (l := base))))
    rw [hn] at hsome
    cases hsome
  · obtain ⟨e, l, rfl⟩ := List.exists_cons_of_ne_nil h
    intro hn
    have hsome : ((Entries.insertAll base (e :: l)).lookup e.1).isSome :=
      isSome_lookup_insertAll (.inl (List.mem_cons_self (l := l)))
    rw [hn] at hsome
    cases hsome

theorem mem_insertAll {e : String × β} (h : e ∈ insertAll base l) : e ∈ l ∨ e ∈ base := by
  induction l generalizing base with
  | nil => exact .inr h
  | cons d l ih =>
    rcases ih h with h | h
    · exact .inl (List.mem_cons_of_mem _ h)
    · rcases mem_insert h with rfl | h
      · exact .inl (List.mem_cons_self ..)
      · exact .inr h

theorem lookup_insertAll_ofList (k : String) (base l : List (String × β)) :
    (insertAll base l).lookup k = ((ofList l).lookup k).or (base.lookup k) := by
  rw [ofList, lookup_insertAll, lookup_insertAll, List.lookup_nil, Option.or_none]

theorem lookup_ofList_of_mem (hl : (l.map (·.1)).Nodup) (h : (k, v) ∈ l) :
    (ofList l).lookup k = some v := by
  have hsome : ((ofList l).lookup k).isSome := isSome_lookup_insertAll (.inl h)
  obtain ⟨v', hv'⟩ := Option.isSome_iff_exists.1 hsome
  rcases mem_of_lookup_insertAll hv' with h' | h'
  · cases List.inj_on_of_nodup_map hl h h' rfl
    exact hv'
  · cases h'

theorem lookup_ofList_eq_none (h : k ∉ l.map (·.1)) : (ofList l).lookup k = none := by
  cases hv : (ofList l).lookup k with
  | none => rfl
  | some v =>
    rcases mem_of_lookup_insertAll hv with h' | h'
    · exact absurd (List.mem_map_of_mem h') h
    · cases h'

theorem lookup_ofList (hl : (l.map (·.1)).Nodup) (k : String) : (ofList l).lookup k = l.lookup k := by
  cases h : l.lookup k with
  | some v => exact lookup_ofList_of_mem hl (mem_of_lookup h)
  | none =>
    refine lookup_ofList_eq_none fun hmem => ?_
    obtain ⟨e, he, rfl⟩ := List.mem_map.1 hmem
    have hsome := isSome_lookup_of_mem he
    rw [h] at hsome
    cases hsome

theorem lookup_ofList_eq_some_iff (hl : (l.map (·.1)).Nodup) :
    (ofList l).lookup k = some v ↔ (k, v) ∈ l := by
  refine ⟨fun h => ?_, lookup_ofList_of_mem hl⟩
  exact (mem_of_lookup_insertAll h).resolve_right nofun

theorem lookup_of_mem (hl : (l.map (·.1)).Nodup) (h : (k, v) ∈ l) : l.lookup k = some v := by
  obtain ⟨v', hv'⟩ := Option.isSome_iff_exists.1 (isSome_lookup_of_mem h)
  cases List.inj_on_of_nodup_map hl h (mem_of_lookup hv') rfl
  exact hv'

theorem Sorted.nodup_keys (h : Sorted l) : (l.map (·.1)).Nodup :=
  List.pairwise_map.2 (h.imp String.ne_of_lt)

theorem ofList_of_sorted (h : Sorted l) : ofList l = l := by
  refine Sorted.ext (sorted_insertAll .nil l) h fun k => Option.ext fun v => ?_
  rw [lookup_ofList_eq_some_iff h.nodup_keys]
  exact ⟨lookup_of_mem h.nodup_keys, mem_of_lookup⟩

end Entries

namespace Json

/-! ### Values of a kind -/

def IsText (P : String → Prop) (v : Json) : Prop :=
  ∃ s, v = string s ∧ P s

def IsString (v : Json) : Prop :=
  ∃ s, v = string s

/-- A number written as a double, which is finite. -/
def IsDouble (P : Float → Prop) (v : Json) : Prop :=
  ∃ x, v = number (.real x) ∧ x.isFinite ∧ P x

def IsWhole (P : Int → Prop) (v : Json) : Prop :=
  ∃ n, v = number (.int n) ∧ P n

/-- A number, whole or not, whose double is `P`. -/
def IsNumber (P : Float → Prop) (v : Json) : Prop :=
  ∃ n, v = number n ∧ P n.toFloat

def IsBool (v : Json) : Prop :=
  ∃ b, v = bool b

/-- Nothing, `null` or a value that is `P`. -/
def IsOptional (P : Json → Prop) (o : Option Json) : Prop :=
  ∀ v ∈ o, v = null ∨ P v

/-- A list with at least one value. -/
def IsList (P : Json → Prop) (v : Json) : Prop :=
  ∃ vs, v = array vs ∧ vs ≠ [] ∧ ∀ x ∈ vs, P x

/-- A place of a record. -/
structure Place where
  name : String
  required : Bool
  Fits : Json → Prop

structure IsRecord (ps : List Place) (fs : List (String × Json)) : Prop where
  sorted : Entries.Sorted fs
  fits : ∀ k v, fs.lookup k = some v → ∃ p ∈ ps, p.name = k ∧ p.Fits v
  complete : ∀ p ∈ ps, p.required = true → (fs.lookup p.name).isSome

def IsObject (ps : List Place) (v : Json) : Prop :=
  ∃ fs, v = object fs ∧ IsRecord ps fs

/-! ### Building records -/

namespace IsRecord
variable {ps : List Place} {base l : List (String × Json)}

theorem insertAll (hb : IsRecord ps base) (hl : ∀ e ∈ l, ∃ p ∈ ps, p.name = e.1 ∧ p.Fits e.2) :
    IsRecord ps (Entries.insertAll base l) where
  sorted := Entries.sorted_insertAll hb.sorted l
  fits k v h := by
    rcases Entries.mem_of_lookup_insertAll h with h | h
    · exact hl (k, v) h
    · exact hb.fits k v h
  complete p hp hr := Entries.isSome_lookup_insertAll (v := null) (.inr (hb.complete p hp hr))

theorem ofList (hl : ∀ e ∈ l, ∃ p ∈ ps, p.name = e.1 ∧ p.Fits e.2)
    (hc : ∀ p ∈ ps, p.required = true → ∃ v, (p.name, v) ∈ l) : IsRecord ps (Entries.ofList l) where
  sorted := Entries.sorted_insertAll List.Pairwise.nil l
  fits k v h := by
    rcases Entries.mem_of_lookup_insertAll h with h | h
    · exact hl (k, v) h
    · cases h
  complete p hp hr :=
    have ⟨_, hv⟩ := hc p hp hr
    Entries.isSome_lookup_insertAll (.inl hv)

end IsRecord
end Json
end Till
