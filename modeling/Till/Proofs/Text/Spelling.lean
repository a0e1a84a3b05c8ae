import Till.Proofs.Text.Lower
import Till.Proofs.Text.Trim

/-!
# Spellings of a name

`Respelled` is what may be done to a name: letters change their case, hyphens and underscores go out
or come in anywhere. Main statement: it holds of two texts just if they agree up to the case of ASCII
letters once hyphens and underscores are deleted (`respelled_iff`).
-/

namespace Till.Text

/-- The text without the given characters. -/
def without (marks : List Char) (s : String) : String :=
  String.ofList (s.toList.filter fun c => c ∉ marks)

/-- What may stand between the words of a name. -/
def IsJoint (c : Char) : Prop :=
  c = '-' ∨ c = '_'

/-- The second text spells the name that the first one spells. -/
inductive Respelled : List Char → List Char → Prop
  | nil : Respelled [] []
  | letter {c d : Char} {cs ds : List Char} (h : c.toLower = d.toLower) (hrest : Respelled cs ds) :
      Respelled (c :: cs) (d :: ds)
  | drop {c : Char} {cs ds : List Char} (h : IsJoint c) (hrest : Respelled cs ds) :
      Respelled (c :: cs) ds
  | insert {d : Char} {cs ds : List Char} (h : IsJoint d) (hrest : Respelled cs ds) :
      Respelled cs (d :: ds)

/-- What a spelling leaves alone: the characters between the joints, in lower case as far as ASCII
has one. -/
def letters (cs : List Char) : List Char :=
  (cs.map Char.toLower).filter fun c => c ∉ ['-', '_']

variable {c : Char} {cs ds : List Char}

theorem mem_joints : c ∈ ['-', '_'] ↔ IsJoint c := by
  simp [IsJoint]

theorem isJoint_toLower : IsJoint c.toLower ↔ IsJoint c := by
  rw [IsJoint, toLower_eq_iff (by decide), toLower_eq_iff (by decide), IsJoint]

theorem isBlank_joint (c : Char) (h : IsJoint c) : isBlank c = false := by
  rcases h with rfl | rfl <;> rfl

/-- No letter is a blank, whatever its case. -/
theorem isBlank_toLower (c : Char) : isBlank c.toLower = isBlank c := by
  have hgraph {c : Char} (h : 0x20 < c.toNat ∧ c.toNat < 0x80) : isBlank c = false := by
    simp [isBlank]
    omega
  rcases toLower_cases c with h | ⟨hlow, hhigh, h⟩
  · rw [h]
  · rw [hgraph (by omega), hgraph (by omega)]

theorem letters_eq_map (cs : List Char) :
    letters cs = (cs.filter fun c => c ∉ ['-', '_']).map Char.toLower := by
  have hkept : ∀ c ∈ cs, decide (c.toLower ∉ ['-', '_']) = decide (c ∉ ['-', '_']) := by
    intro c _
    rw [decide_eq_decide, mem_joints, mem_joints, isJoint_toLower]
  rw [letters, List.filter_map]
  exact congrArg (List.map Char.toLower) (List.filter_congr hkept)

theorem letters_cons : letters (c :: cs) =
    if c.toLower ∉ ['-', '_'] then c.toLower :: letters cs else letters cs := by
  simp only [letters, List.map_cons, List.filter_cons, decide_eq_true_eq]

theorem letters_cons_of_joint (h : IsJoint c) : letters (c :: cs) = letters cs := by
  rcases h with rfl | rfl <;> rfl

theorem letters_cons_of_not_joint (h : ¬ IsJoint c) :
    letters (c :: cs) = c.toLower :: letters cs := by
  have hc : c.toLower ∉ ['-', '_'] := fun hc => h (isJoint_toLower.1 (mem_joints.1 hc))
  rw [letters_cons, if_pos hc]

theorem respelled_iff : Respelled cs ds ↔ letters cs = letters ds := by
  constructor
  · intro h
    induction h with
    | nil => rfl
    | letter h _ ih => rw [letters_cons, letters_cons, h, ih]
    | drop h _ ih => rw [letters_cons_of_joint h, ih]
    | insert h _ ih => rw [letters_cons_of_joint h, ih]
  · intro h
    induction cs generalizing ds with
    | nil =>
      induction ds with
      | nil => exact .nil
      | cons d ds ih =>
        by_cases hd : IsJoint d
        · rw [letters_cons_of_joint hd] at h
          exact .insert hd (ih h)
        · rw [letters_cons_of_not_joint hd] at h
          cases h
    | cons c cs ih =>
      by_cases hc : IsJoint c
      · rw [letters_cons_of_joint hc] at h
        exact .drop hc (ih h)
      · rw [letters_cons_of_not_joint hc] at h
        -- the joints in front of the matching letter come in one by one
        induction ds with
        | nil => cases h
        | cons d ds ihd =>
          by_cases hd : IsJoint d
          · rw [letters_cons_of_joint hd] at h
            exact .insert hd (ihd h)
          · rw [letters_cons_of_not_joint hd] at h
            obtain ⟨hletter, hrest⟩ := List.cons.inj h
            exact .letter hletter (ih hrest)

/-- What holds of no joint and of no character of a name holds of none of a spelling. -/
theorem Respelled.forall {p : Char → Bool} (hp : ∀ c, p c.toLower = p c)
    (hjoint : ∀ c, IsJoint c → p c = false) (h : Respelled cs ds) (hcs : ∀ c ∈ cs, p c = false) :
    ∀ d ∈ ds, p d = false := by
  induction h with
  | nil => exact hcs
  | @letter c d cs ds h _ ih =>
    obtain ⟨hc, hcs⟩ := List.forall_mem_cons.1 hcs
    refine List.forall_mem_cons.2 ⟨?_, ih hcs⟩
    rw [← hp d, ← h, hp, hc]
  | drop _ _ ih => exact ih (List.forall_mem_cons.1 hcs).2
  | insert h _ ih => exact List.forall_mem_cons.2 ⟨hjoint _ h, ih hcs⟩

theorem eqIgnoreAsciiCase_without {a b : String} :
    eqIgnoreAsciiCase (without ['-', '_'] a) (without ['-', '_'] b) = true ↔
      Respelled a.toList b.toList := by
  rw [eqIgnoreAsciiCase_iff, respelled_iff, letters_eq_map, letters_eq_map, without, without,
    String.toList_ofList, String.toList_ofList]

/-- A spelling of a plain word is of ASCII throughout, the joints included. -/
theorem ascii_of_letters (h : IsPlainWord (letters cs)) : ∀ c ∈ cs, c.toNat < 0x80 := by
  intro c hc
  by_cases hjoint : IsJoint c
  · rcases hjoint with rfl | rfl <;> decide
  · rw [letters_eq_map] at h
    have hkept : c ∈ cs.filter fun c => c ∉ ['-', '_'] := by
      simpa [hc] using mem_joints.not.2 hjoint
    exact ascii_of_map_toLower h c hkept

end Till.Text
