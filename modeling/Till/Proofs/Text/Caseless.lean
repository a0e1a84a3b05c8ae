import Mathlib.Data.List.Forall2
import Mathlib.Data.String.Basic
import Till.Proofs.Text.Lower

/-!
# Words in any case

Whether a text is a given word in any case of its letters can be asked in three ways: up to the case
of ASCII letters, by the lower case of each character, and by the lower case of the text as a whole,
in which a sigma at the end of a word has a form of its own (`LetterClasses.lower`). The last two
differ in sigmas at most, so they agree on a word that has none (`LetterClasses.lower_eq_iff`). Main
statement: the first two agree on all texts just if there is no `k` in the word
(`eqIgnoreAsciiCase_iff_lower`).
-/

namespace Till.Text

/-! ### Sigmas at the end of words -/

/-- The classes of characters by which the end of a word is found. -/
structure LetterClasses where
  cased : Char → Bool
  ignorable : Char → Bool

/-- The same character, up to the form of a small sigma. -/
inductive SameLetter : Char → Char → Prop
  | refl (c : Char) : SameLetter c c
  | final : SameLetter 'ς' 'σ'

namespace LetterClasses
variable (u : LetterClasses)

/-- The first character that may not be ignored is a letter with a case. -/
def startsCased (cs : List Char) : Bool :=
  (cs.dropWhile u.ignorable).head?.any u.cased

/-- The small form of a capital sigma: it ends a word if a letter stands in front of it and none
behind it. The characters in front of it are given backwards. -/
def lowerSigma (before after : List Char) : Char :=
  if u.startsCased before && !u.startsCased after then 'ς' else 'σ'

/-- The lower case of what remains of a text. -/
def lowerFrom (before : List Char) : List Char → List Char
  | [] => []
  | c :: after =>
    (if c = 'Σ' then [u.lowerSigma before after] else lowerChar c) ++ lowerFrom (c :: before) after

/-- The lower case of a text, with sigmas by their place in words. -/
def lower (s : String) : String :=
  String.ofList (u.lowerFrom [] s.toList)

theorem sameLetter_lowerSigma (before after : List Char) :
    SameLetter (u.lowerSigma before after) 'σ' := by
  unfold lowerSigma
  split
  · exact .final
  · exact .refl _

theorem sameLetters_lowerFrom (before cs : List Char) :
    List.Forall₂ SameLetter (u.lowerFrom before cs) (cs.flatMap lowerChar) := by
  induction cs generalizing before with
  | nil => exact .nil
  | cons c cs ih =>
    rw [lowerFrom, List.flatMap_cons]
    refine List.rel_append ?_ (ih (c :: before))
    split
    · rename_i hc
      have hsigma : lowerChar c = ['σ'] := by rw [hc]; decide
      rw [hsigma]
      exact .cons (u.sameLetter_lowerSigma before cs) .nil
    · exact List.forall₂_same.2 fun d _ => .refl d

end LetterClasses

theorem eq_iff_of_sameLetters {cs ds w : List Char} (h : List.Forall₂ SameLetter cs ds)
    (hw : 'ς' ∉ w ∧ 'σ' ∉ w) : cs = w ↔ ds = w := by
  induction h generalizing w with
  | nil => exact Iff.rfl
  | cons hletter _ ih =>
    cases w with
    | nil => exact iff_of_false nofun nofun
    | cons e w =>
      simp only [List.mem_cons, not_or] at hw
      obtain ⟨⟨hfinal, hfinals⟩, hsmall, hsmalls⟩ := hw
      rw [List.cons.injEq, List.cons.injEq, ih ⟨hfinals, hsmalls⟩]
      cases hletter with
      | refl => exact Iff.rfl
      | final => exact iff_of_false (fun h => hfinal h.1) (fun h => hsmall h.1)

/-- The place of sigmas is no matter to a word that has none. -/
theorem LetterClasses.lower_eq_iff (u : LetterClasses) {s w : String}
    (hw : 'ς' ∉ w.toList ∧ 'σ' ∉ w.toList) : u.lower s = w ↔ Text.lower s = w := by
  rw [lower, Text.lower, String.ofList_eq, String.ofList_eq]
  exact eq_iff_of_sameLetters (u.sameLetters_lowerFrom [] s.toList) hw

/-! ### Words of small letters -/

/-- A word of ASCII characters, none of them a capital. -/
def IsSmallWord (w : List Char) : Prop :=
  ∀ c ∈ w, c.toNat < 0x80 ∧ c.toLower = c

instance (w : List Char) : Decidable (IsSmallWord w) :=
  List.decidableBAll _ w

namespace IsSmallWord
variable {w : List Char}

theorem map_toLower (hw : IsSmallWord w) : w.map Char.toLower = w := by
  rw [List.map_congr_left fun c hc => (hw c hc).2, List.map_id']

theorem isPlainWord (hw : IsSmallWord w) (hk : 'k' ∉ w) : IsPlainWord w :=
  fun c hc => ⟨(hw c hc).1, fun hck => hk (hck ▸ hc)⟩

theorem not_mem_sigma (hw : IsSmallWord w) : 'ς' ∉ w ∧ 'σ' ∉ w :=
  ⟨fun h => absurd (hw _ h).1 (by decide), fun h => absurd (hw _ h).1 (by decide)⟩

end IsSmallWord

/-- The word with Kelvin signs in place of its `k`s. -/
def kelvins (w : List Char) : List Char :=
  w.map fun c => if c = 'k' then '\u212A' else c

theorem flatMap_lowerChar_kelvins {w : List Char} (hw : IsSmallWord w) :
    (kelvins w).flatMap lowerChar = w := by
  have hone : ∀ c ∈ w, lowerChar (if c = 'k' then '\u212A' else c) = [c] := by
    intro c hc
    obtain ⟨hascii, hsmall⟩ := hw c hc
    split
    · rename_i hk
      rw [hk]
      decide
    · rw [lowerChar_of_ascii hascii, hsmall]
  rw [kelvins, List.flatMap_map, List.flatMap_congr hone, List.flatMap_singleton']

/-- A text is a word of small letters in any case of ASCII just if its lower case is the word,
unless the word has a `k`: then Kelvin signs in its place are passed by the one test only. -/
theorem eqIgnoreAsciiCase_iff_lower {w : String} (hw : IsSmallWord w.toList) :
    (∀ s, eqIgnoreAsciiCase s w = true ↔ lower s = w) ↔ 'k' ∉ w.toList := by
  have hcaseless (s : String) :
      eqIgnoreAsciiCase s w = true ↔ s.toList.map Char.toLower = w.toList := by
    rw [eqIgnoreAsciiCase_iff, hw.map_toLower]
  constructor
  · intro h hk
    have hlower : lower (String.ofList (kelvins w.toList)) = w := by
      rw [lower, String.toList_ofList, flatMap_lowerChar_kelvins hw, String.ofList_toList]
    have hmap := (hcaseless _).1 ((h _).2 hlower)
    rw [String.toList_ofList] at hmap
    -- the Kelvin sign is its own lower case within ASCII, so it would have to stand in the word
    have hkelvin : '\u212A' ∈ (kelvins w.toList).map Char.toLower :=
      List.mem_map.2 ⟨'\u212A', List.mem_map.2 ⟨'k', hk, rfl⟩, by decide⟩
    rw [hmap] at hkelvin
    exact absurd (hw _ hkelvin).1 (by decide)
  · intro hk s
    rw [hcaseless, lower, String.ofList_eq, flatMap_lowerChar_eq_iff (hw.isPlainWord hk)]

-- a key that has a `k`, and is found under a Kelvin sign in lower case only
example : lower "idempotency\u212AEY" = "idempotencykey" ∧
    eqIgnoreAsciiCase "idempotency\u212AEY" "idempotencykey" = false := by
  decide +kernel

end Till.Text
