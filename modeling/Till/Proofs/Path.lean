import Mathlib.Data.List.Forall2
import Till.Path
import Till.Proofs.Text.Trim

/-!
# Normal paths

A path loses the separators at its ends and no other character (`Path.normalize_iff`), so that one
that has been normalized stays as it is. A join depends on its segments only up to the blanks around
them (`Path.join_padded`), and where none of them is blank or has a separator of its own they can be
read off it again (`Path.split_join`). Main statement: `Path.normal_form`.
-/

namespace Till

/-! ### The ends of a list of parts -/

theorem intercalate_ne_nil {sep a : List Char} {parts : List (List Char)} (ha : a ≠ []) :
    sep.intercalate (a :: parts) ≠ [] := by
  cases parts <;> simp [List.intercalate_singleton, List.intercalate_cons_cons, ha]

/-- The ends of parts that are put together are within the parts, as long as none is empty. -/
theorem mem_ends_intercalate {sep : List Char} {parts : List (List Char)}
    (hparts : ∀ a ∈ parts, a ≠ []) {c : Char}
    (hc : c ∈ (sep.intercalate parts).head? ∨ c ∈ (sep.intercalate parts).getLast?) :
    ∃ a ∈ parts, c ∈ a := by
  induction parts with
  | nil => simp at hc
  | cons a parts ih =>
    cases parts with
    | nil =>
      rw [List.intercalate_singleton] at hc
      exact ⟨a, by simp, hc.elim List.mem_of_head? List.mem_of_getLast?⟩
    | cons b parts =>
      obtain ⟨ha, hrest⟩ := List.forall_mem_cons.1 hparts
      have hne : sep.intercalate (b :: parts) ≠ [] :=
        intercalate_ne_nil (List.forall_mem_cons.1 hrest).1
      rw [List.intercalate_cons_cons, List.getLast?_append_of_ne_nil _ hne, List.append_assoc,
        List.head?_append_of_ne_nil _ ha] at hc
      rcases hc with hc | hc
      · exact ⟨a, by simp, List.mem_of_head? hc⟩
      · obtain ⟨a', ha', hca'⟩ := ih hrest (.inr hc)
        exact ⟨a', List.mem_cons_of_mem _ ha', hca'⟩

namespace Path

/-- A slash of either kind. -/
def IsSlash (c : Char) : Prop :=
  c = '/' ∨ c = '\\'

/-- The text is not blank, and without a separator between the blanks at its ends. -/
def IsPart (s : String) : Prop :=
  Text.trim s ≠ "" ∧ ∀ c ∈ (Text.trim s).toList, ¬ IsSlash c

theorem isSeparator_iff {c : Char} : isSeparator c = true ↔ IsSlash c := by
  simp [isSeparator, IsSlash]

theorem normalize_iff {p m : String} : Text.StripsTo IsSlash p m ↔ m = normalize p := by
  have hclass : IsSlash = fun c => isSeparator c = true := funext fun _ => propext isSeparator_iff.symm
  rw [hclass]
  exact Text.stripsTo_iff

theorem normalize_normalize (s : String) : normalize (normalize s) = normalize s :=
  Text.stripped_stripped s

variable {segments segments' : List String}

theorem join_padded (h : List.Forall₂ Text.Padded segments segments') :
    join segments' = join segments := by
  have htrim : segments'.map Text.trim = segments.map Text.trim := by
    induction h with
    | nil => rfl
    | cons hpadded _ ih => rw [List.map_cons, List.map_cons, Text.trim_padded hpadded, ih]
  rw [join, join, htrim]

theorem join_of_parts (h : ∀ s ∈ segments, IsPart s) :
    join segments = "/".intercalate (segments.map Text.trim) := by
  let parts := (segments.map Text.trim).map String.toList
  have hparts : ∀ a ∈ parts, a ≠ [] ∧ ∀ c ∈ a, isSeparator c = false := by
    simp only [parts, List.forall_mem_map]
    intro s hs
    refine ⟨fun hnil => (h s hs).1 (String.toList_eq_nil_iff.1 hnil), fun c hc => ?_⟩
    exact eq_false_of_ne_true fun hslash => (h s hs).2 c hc (isSeparator_iff.1 hslash)
  have hends : ∀ c, c ∈ ("/".toList.intercalate parts).head? ∨
      c ∈ ("/".toList.intercalate parts).getLast? → isSeparator c = false := by
    intro c hc
    obtain ⟨a, ha, hca⟩ := mem_ends_intercalate (fun a ha => (hparts a ha).1) hc
    exact (hparts a ha).2 c hca
  rw [← String.toList_intercalate] at hends
  exact Text.stripped_of_ends (fun c hc => hends c (.inl hc)) fun c hc => hends c (.inr hc)

theorem split_join (hne : segments ≠ []) (h : ∀ s ∈ segments, IsPart s) :
    ((join segments).split '/').toList.map (·.copy) = segments.map Text.trim := by
  have hslash : ∀ t ∈ segments.map Text.trim, '/' ∉ t.toList := by
    simp only [List.forall_mem_map]
    exact fun s hs hmem => (h s hs).2 '/' hmem (.inl rfl)
  have hsplit := String.toList_split_intercalate hslash
  rw [if_neg (by simpa using hne)] at hsplit
  rw [join_of_parts h]
  exact hsplit

/-- To normalize a path is to take away the separators at its ends, all of them and nothing else. A
join is normal: it is what the segments come to that have lost their blanks and got slashes between
them. Blanks around any of the segments make no difference to it. The segments that it is made of,
if there are any and each is a part, are the ones that stand between its slashes. -/
theorem normal_form :
    (∀ p m, Text.StripsTo IsSlash p m ↔ m = normalize p) ∧
    (∀ p, normalize (normalize p) = normalize p) ∧
    (∀ s m, Text.StripsTo (fun c => Text.isBlank c = true) s m ↔ m = Text.trim s) ∧
    ∀ segments : List String,
      normalize (join segments) = join segments ∧
      join segments = normalize ("/".intercalate (segments.map Text.trim)) ∧
      (∀ segments', List.Forall₂ Text.Padded segments segments' → join segments' = join segments) ∧
      (segments ≠ [] → (∀ s ∈ segments, IsPart s) →
        ((join segments).split '/').toList.map (·.copy) = segments.map Text.trim) :=
  ⟨fun _ _ => normalize_iff, normalize_normalize, fun _ _ => Text.stripsTo_iff, fun _ =>
    ⟨normalize_normalize _, rfl, fun _ => join_padded, split_join⟩⟩

-- separators within a segment stay, and blanks behind a separator that is lost
example : join [" / a\\", "", " b/ "] = " a\\//b" := by
  decide +kernel

end Path
end Till
