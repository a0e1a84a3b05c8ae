import Mathlib.Data.List.Basic
import Till.Toml.Quote

/-!
# Quoted strings are read back

Whichever form a text is written in, reading it finds the text and what follows it
(`Toml.quoted?_quote`). In the forms with escapes each character is written by itself
(`Toml.Escaped`); in the tripled forms the quotes at the end of the text run into those that close.
-/

namespace Till.Toml
variable {c : Char} {w cs rest : List Char}

/-! ### Characters -/

/-- A character in a double-quoted string, as an escape or as it is. -/
inductive Escaped (c : Char) : List Char → Prop
  | letter {e : Char} (h : escape? e = some c) : Escaped c ['\\', e]
  | number {a b d e : Char} (h : codePoint? [a, b, d, e] = some c) :
    Escaped c ['\\', 'u', a, b, d, e]
  | plain (h : isPlain c = true) (hb : c ≠ '\\') (hq : c ≠ '"') : Escaped c [c]

theorem codePoint?_hexDigits :
    (∀ n < 0x10, ∃ a, hexDigits n = [a] ∧ codePoint? ['0', '0', '0', a] = some (Char.ofNat n)) ∧
      ∀ n < 0x80, 0x10 ≤ n →
        ∃ a b, hexDigits n = [a, b] ∧ codePoint? ['0', '0', a, b] = some (Char.ofNat n) := by
  have hone : ∀ n < 0x10, (hexDigits n).length = 1 ∧
      codePoint? (['0', '0', '0'] ++ hexDigits n) = some (Char.ofNat n) := by decide +kernel
  have htwo : ∀ n < 0x80, 0x10 ≤ n → (hexDigits n).length = 2 ∧
      codePoint? (['0', '0'] ++ hexDigits n) = some (Char.ofNat n) := by decide +kernel
  constructor
  · intro n hn
    obtain ⟨hlen, hread⟩ := hone n hn
    obtain ⟨a, ha⟩ := List.length_eq_one_iff.1 hlen
    exact ⟨a, ha, by rwa [ha] at hread⟩
  · intro n hn hge
    obtain ⟨hlen, hread⟩ := htwo n hn hge
    obtain ⟨a, b, hab⟩ := List.length_eq_two.1 hlen
    exact ⟨a, b, hab, by rwa [hab] at hread⟩

theorem escaped_writtenChar (hq : c ≠ '"') : Escaped c (writtenChar c) := by
  have hofNat {n : Nat} (h : c.toNat = n) : Char.ofNat n = c := by rw [← h, Char.ofNat_toNat]
  unfold writtenChar
  split_ifs with h₁ h₂ h₃ h₄ h₅ h₆ h₇
  · exact .letter (congrArg some (hofNat h₁))
  · exact .letter (congrArg some h₂.symm)
  · exact .letter (congrArg some (hofNat h₃))
  · exact .letter (congrArg some h₄.symm)
  · exact .letter (congrArg some h₅.symm)
  · obtain ⟨a, ha, hread⟩ := codePoint?_hexDigits.1 c.toNat h₆
    rw [ha]
    exact .number (hread.trans (congrArg some (hofNat rfl)))
  · obtain ⟨a, b, hab, hread⟩ := codePoint?_hexDigits.2 c.toNat (by omega) (by omega)
    rw [hab]
    exact .number (hread.trans (congrArg some (hofNat rfl)))
  · refine .plain ?_ h₅ hq
    rw [not_or] at h₇
    simp only [isPlain, Bool.or_eq_true, Bool.and_eq_true, decide_eq_true_iff, bne_iff_ne]
    exact .inr ⟨by omega, h₇.2⟩

namespace Escaped

theorem exists_head (h : Escaped c w) :
    ∃ x l, w = x :: l ∧ x ≠ '"' ∧ x ≠ '\n' ∧ x ≠ '\r' := by
  cases h with
  | letter => exact ⟨_, _, rfl, by decide⟩
  | number => exact ⟨_, _, rfl, by decide⟩
  | plain h hb hq =>
    refine ⟨_, _, rfl, hq, ?_, ?_⟩
    · rintro rfl
      cases h
    · rintro rfl
      cases h

theorem basicBody_append (h : Escaped c w) (rest : List Char) :
    basicBody (w ++ rest) = push c (basicBody rest) := by
  cases h with
  | letter h =>
    unfold escape? at h
    split at h <;> cases h <;> rfl
  | number h =>
    show basicBody ('\\' :: 'u' :: _ :: _ :: _ :: _ :: rest) = _
    rw [basicBody, h]
  | plain h hb hq =>
    show basicBody (c :: rest) = _
    simp [basicBody, h, hb]

theorem multiBasicBody_append (h : Escaped c w) (rest : List Char) :
    multiBasicBody false (w ++ rest) = push c (multiBasicBody false rest) := by
  cases h with
  | letter h =>
    unfold escape? at h
    split at h <;> cases h <;> rfl
  | number h =>
    show multiBasicBody false ('\\' :: 'u' :: _ :: _ :: _ :: _ :: rest) = _
    rw [multiBasicBody, h]
  | plain h hb hq =>
    have hn : c ≠ '\n' := by rintro rfl; cases h
    have hr : c ≠ '\r' := by rintro rfl; cases h
    show multiBasicBody false (c :: rest) = _
    simp [multiBasicBody, h, hb, hq, hr]

end Escaped

/-! ### Between single quotes and double ones -/

theorem exists_basicContent_cons (c : Char) (cs : List Char) :
    ∃ w, Escaped c w ∧ basicContent (c :: cs) = w ++ basicContent cs := by
  refine ⟨_, ?_, rfl⟩
  beta_reduce
  split_ifs with hq hn
  · exact .letter (congrArg some hq.symm)
  · exact .letter (congrArg some hn.symm)
  · exact escaped_writtenChar hq

theorem basicBody_basicContent (cs rest : List Char) :
    basicBody (basicContent cs ++ '"' :: rest) = some (cs, rest) := by
  induction cs with
  | nil => rfl
  | cons c cs ih =>
    obtain ⟨w, hw, hcontent⟩ := exists_basicContent_cons c cs
    rw [hcontent, List.append_assoc, hw.basicBody_append, ih]
    rfl

/-- A text without controls that need an escape and without line breaks is plain. -/
theorem isPlain_of_not_needsEscape (h : needsEscape c = false) (hn : c ≠ '\n') :
    isPlain c = true := by
  simp only [needsEscape, isPlain, Bool.or_eq_false_iff, Bool.and_eq_false_iff, Bool.or_eq_true,
    Bool.and_eq_true, decide_eq_true_iff, decide_eq_false_iff_not, bne_iff_ne, beq_iff_eq,
    beq_eq_false_iff_ne, bne_eq_false_iff_eq] at h ⊢
  obtain ⟨(h | rfl) | rfl, h'⟩ := h
  · exact .inr ⟨by omega, h'⟩
  · exact .inl rfl
  · exact absurd rfl hn

theorem literalBody_append (h : ∀ c ∈ cs, isPlain c = true ∧ c ≠ '\'') (rest : List Char) :
    literalBody (cs ++ '\'' :: rest) = some (cs, rest) := by
  induction cs with
  | nil => rfl
  | cons c cs ih =>
    obtain ⟨⟨hc, hq⟩, h⟩ := List.forall_mem_cons.1 h
    show literalBody (c :: (cs ++ '\'' :: rest)) = _
    simp [literalBody, hc, ih h, push]

/-! ### Between tripled quotes -/

theorem closing_replicate {q : Char} (hrest : rest.head? ≠ some q) {n : Nat} (hn : n ≤ 2) :
    closing q (List.replicate n q ++ rest) = (List.replicate n q, rest) := by
  have hzero : closing q rest = ([], rest) := by
    match rest, hrest with
    | [], _ => rfl
    | [a], h => exact if_neg fun ha => h (congrArg some ha)
    | a :: b :: _, h => exact if_neg fun ha => h (congrArg some ha)
  match n, hn with
  | 0, _ => exact hzero
  | 1, _ =>
    match rest, hrest with
    | [], _ => exact if_pos rfl
    | b :: _, h => exact (if_pos rfl).trans (if_neg fun hb => h (congrArg some hb))
  | 2, _ => exact (if_pos rfl).trans (if_pos rfl)

/-- Except where the text ends, three double quotes in a row do not come about. -/
theorem exists_head_multiBasicContent {q : Nat} (h : c ≠ '"' ∨ 2 ≤ q) (cs : List Char) :
    ∃ x l, multiBasicContent q (c :: cs) = x :: l ∧ x ≠ '"' := by
  by_cases hc : c = '"'
  · have hq : ¬ q < 2 := Nat.not_lt.2 (h.resolve_left (not_not_intro hc))
    rw [multiBasicContent, if_pos hc, if_neg hq]
    exact ⟨_, _, rfl, by decide⟩
  · rw [multiBasicContent, if_neg hc]
    by_cases hn : c = '\n'
    · rw [if_pos hn]
      exact ⟨_, _, rfl, by decide⟩
    · obtain ⟨x, l, hw, hx, -⟩ := (escaped_writtenChar hc).exists_head
      rw [if_neg hn, hw]
      exact ⟨_, _, rfl, hx⟩

theorem end_of_quotes_multiBasicContent {q : Nat} {l : List Char}
    (h : multiBasicContent (q + 1) cs ++ '"' :: '"' :: '"' :: rest = '"' :: '"' :: l) :
    (cs = [] ∨ cs = ['"']) ∧ multiBasicContent (q + 1) cs = cs := by
  match cs with
  | [] => exact ⟨.inl rfl, rfl⟩
  | c :: cs =>
    by_cases hc : c ≠ '"' ∨ 2 ≤ q + 1
    · obtain ⟨x, l', hl', hx⟩ := exists_head_multiBasicContent hc cs
      rw [hl'] at h
      exact absurd (List.cons.inj h).1 hx
    · simp only [ne_eq, not_or, not_not] at hc
      obtain ⟨rfl, hq⟩ := hc
      have hq : q + 1 < 2 := Nat.not_le.1 hq
      rw [multiBasicContent, if_pos rfl, if_pos hq] at h ⊢
      match cs with
      | [] => exact ⟨.inr rfl, rfl⟩
      | c' :: cs =>
        have hc' : c' ≠ '"' ∨ 2 ≤ q + 1 + 1 := .inr (by omega)
        obtain ⟨x, l', hl', hx⟩ := exists_head_multiBasicContent hc' cs
        rw [hl'] at h
        exact absurd (List.cons.inj (List.cons.inj h).2).1 hx

theorem multiBasicBody_quote {l : List Char} (h : ∀ l', l ≠ '"' :: '"' :: l') :
    multiBasicBody false ('"' :: l) = push '"' (multiBasicBody false l) := by
  rw [multiBasicBody]
  exact h

theorem multiBasicBody_multiBasicContent (hrest : rest.head? ≠ some '"') (q : Nat)
    (cs : List Char) :
    multiBasicBody false (multiBasicContent q cs ++ '"' :: '"' :: '"' :: rest) =
      some (cs, rest) := by
  induction cs generalizing q with
  | nil =>
    exact congrArg some (closing_replicate hrest (Nat.zero_le 2))
  | cons c cs ih =>
    by_cases hc : c = '"'
    · subst hc
      rw [multiBasicContent, if_pos rfl]
      by_cases hq : q < 2
      · rw [if_pos hq]
        by_cases hend : ∃ l,
            multiBasicContent (q + 1) cs ++ '"' :: '"' :: '"' :: rest = '"' :: '"' :: l
        · obtain ⟨l, hl⟩ := hend
          obtain ⟨rfl | rfl, hcontent⟩ := end_of_quotes_multiBasicContent hl
          · exact congrArg some (closing_replicate (n := 1) hrest (by omega))
          · rw [hcontent]
            exact congrArg some (closing_replicate (n := 2) hrest (by omega))
        · rw [not_exists] at hend
          rw [List.cons_append, multiBasicBody_quote hend, ih]
          rfl
      · rw [if_neg hq]
        have hquote : Escaped '"' ['\\', '"'] := .letter rfl
        rw [List.append_assoc, hquote.multiBasicBody_append, ih]
        rfl
    · rw [multiBasicContent, if_neg hc, List.append_assoc]
      by_cases hn : c = '\n'
      · subst hn
        rw [if_pos rfl]
        show push '\n' (multiBasicBody false (multiBasicContent 0 cs ++ _)) = _
        rw [ih]
        rfl
      · rw [if_neg hn, (escaped_writtenChar hc).multiBasicBody_append, ih]
        rfl

theorem hasTriple_tail {q : Char} (h : hasTriple q (c :: cs) = false) : hasTriple q cs = false := by
  match cs with
  | [] => rfl
  | [_] => rfl
  | a :: b :: cs => exact (Bool.or_eq_false_iff.1 h).2

theorem end_of_quotes {q : Char} (ht : hasTriple q (q :: cs) = false) {l : List Char}
    (h : cs ++ q :: q :: q :: rest = q :: q :: l) : cs = [] ∨ cs = [q] := by
  match cs with
  | [] => exact .inl rfl
  | [a] => exact .inr (congrArg ([·]) (List.cons.inj h).1)
  | a :: b :: cs =>
    obtain ⟨rfl, h⟩ := List.cons.inj h
    obtain ⟨rfl, -⟩ := List.cons.inj h
    simp [hasTriple] at ht

theorem multiLiteralBody_quote {l : List Char} (h : ∀ l', l ≠ '\'' :: '\'' :: l') :
    multiLiteralBody ('\'' :: l) = push '\'' (multiLiteralBody l) := by
  rw [multiLiteralBody]
  · rfl
  · exact fun l' _ => h l'
  · nofun
  · nofun

theorem multiLiteralBody_append (h : ∀ c ∈ cs, needsEscape c = false)
    (ht : hasTriple '\'' cs = false) (hrest : rest.head? ≠ some '\'') :
    multiLiteralBody (cs ++ '\'' :: '\'' :: '\'' :: rest) = some (cs, rest) := by
  induction cs with
  | nil => exact congrArg some (closing_replicate hrest (Nat.zero_le 2))
  | cons c cs ih =>
    obtain ⟨hc, h⟩ := List.forall_mem_cons.1 h
    have ih := ih h (hasTriple_tail ht)
    rw [List.cons_append]
    by_cases hq : c = '\''
    · subst hq
      by_cases hend : ∃ l, cs ++ '\'' :: '\'' :: '\'' :: rest = '\'' :: '\'' :: l
      · obtain ⟨l, hl⟩ := hend
        obtain rfl | rfl := end_of_quotes ht hl
        · exact congrArg some (closing_replicate (n := 1) hrest (by omega))
        · exact congrArg some (closing_replicate (n := 2) hrest (by omega))
      · rw [not_exists] at hend
        rw [multiLiteralBody_quote hend, ih]
        rfl
    · by_cases hn : c = '\n'
      · subst hn
        rw [multiLiteralBody, ih]
        rfl
      · have hplain := isPlain_of_not_needsEscape hc hn
        have hr : c ≠ '\r' := by rintro rfl; cases hc
        rw [multiLiteralBody, if_pos hplain, ih]
        · rfl
        · exact fun _ hc => absurd hc hq
        · exact fun _ hc => absurd hc hr
        · exact hn

/-! ### Any form -/

theorem quoted?_basic {l : List Char} (h : ∀ l', l ≠ '"' :: '"' :: l') :
    quoted? ('"' :: l) = basicBody l := by
  rw [quoted?]
  exact h

theorem quoted?_literal {l : List Char} (h : ∀ l', l ≠ '\'' :: '\'' :: l') :
    quoted? ('\'' :: l) = literalBody l := by
  rw [quoted?]
  exact h

theorem of_eq_literal (h : QuoteStyle.of cs = .literal) :
    ∀ c ∈ cs, isPlain c = true ∧ c ≠ '\'' := by
  unfold QuoteStyle.of at h
  simp only at h
  split_ifs at h with _ hstyle
  simp only [Bool.and_eq_true, Bool.not_eq_true', List.any_eq_false, Bool.not_eq_true,
    List.contains_eq_mem, decide_eq_false_iff_not] at hstyle
  obtain ⟨⟨hcontrol, hq⟩, hn⟩ := hstyle
  intro c hc
  refine ⟨isPlain_of_not_needsEscape (hcontrol c hc) ?_, ?_⟩
  · rintro rfl
    exact hn hc
  · rintro rfl
    exact hq hc

theorem of_eq_multiLiteral (h : QuoteStyle.of cs = .multiLiteral) :
    (∀ c ∈ cs, needsEscape c = false) ∧ hasTriple '\'' cs = false := by
  unfold QuoteStyle.of at h
  simp only at h
  split_ifs at h with _ _ _ hstyle
  simpa only [Bool.and_eq_true, Bool.not_eq_true', List.any_eq_false, Bool.not_eq_true] using hstyle

/-- The line break that may be written first is the one that does not count, and no other is. -/
theorem dropFirstBreak_openingBreak {l : List Char}
    (h : '\n' ∉ cs → ∀ x ∈ l.head?, x ≠ '\n' ∧ x ≠ '\r') :
    dropFirstBreak (openingBreak cs ++ l) = l := by
  by_cases hn : '\n' ∈ cs
  · simp [openingBreak, hn, dropFirstBreak]
  · have hempty : openingBreak cs = [] := by simp [openingBreak, hn]
    rw [hempty, List.nil_append]
    match l, h hn with
    | [], _ => rfl
    | x :: l, h =>
      obtain ⟨hxn, hxr⟩ := h x rfl
      rw [dropFirstBreak]
      · exact fun _ hx => hxr (List.cons.inj hx).1
      · exact fun _ hx => hxn (List.cons.inj hx).1

theorem head?_multiBasicContent (h : '\n' ∉ cs) (l : List Char) :
    ∀ x ∈ (multiBasicContent 0 cs ++ '"' :: l).head?, x ≠ '\n' ∧ x ≠ '\r' := by
  match cs with
  | [] =>
    rintro _ ⟨⟩
    decide
  | c :: cs =>
    by_cases hq : c = '"'
    · rw [multiBasicContent, if_pos hq]
      rintro _ ⟨⟩
      decide
    · have hn : c ≠ '\n' := fun hc => h (hc ▸ List.mem_cons_self ..)
      obtain ⟨x, w, hw, -, hx⟩ := (escaped_writtenChar hq).exists_head
      rw [multiBasicContent, if_neg hq, if_neg hn, hw]
      rintro _ ⟨⟩
      exact hx

theorem exists_head_quote (cs : List Char) : ∃ q l, quote cs = q :: l ∧ (q = '"' ∨ q = '\'') := by
  unfold quote
  cases QuoteStyle.of cs with
  | basic | multiBasic => exact ⟨_, _, rfl, .inl rfl⟩
  | literal | multiLiteral => exact ⟨_, _, rfl, .inr rfl⟩

/-- What is written in quotes is read back, whatever follows but another quote. -/
theorem quoted?_quote (hd : rest.head? ≠ some '"') (hs : rest.head? ≠ some '\'')
    (cs : List Char) : quoted? (quote cs ++ rest) = some (cs, rest) := by
  unfold quote
  cases hstyle : QuoteStyle.of cs with
  | basic =>
    have hhead : ∀ l, basicContent cs ++ '"' :: rest ≠ '"' :: '"' :: l := by
      intro l hl
      match cs with
      | [] => exact hd (congrArg List.head? (List.cons.inj hl).2)
      | c :: cs =>
        obtain ⟨w, hw, hcontent⟩ := exists_basicContent_cons c cs
        obtain ⟨x, w', rfl, hx, -⟩ := hw.exists_head
        rw [hcontent] at hl
        exact hx (List.cons.inj hl).1
    show quoted? ('"' :: (basicContent cs ++ ['"']) ++ rest) = _
    rw [List.cons_append, List.append_assoc]
    exact (quoted?_basic hhead).trans (basicBody_basicContent cs rest)
  | literal =>
    have hplain := of_eq_literal hstyle
    have hhead : ∀ l, cs ++ '\'' :: rest ≠ '\'' :: '\'' :: l := by
      intro l hl
      match cs with
      | [] => exact hs (congrArg List.head? (List.cons.inj hl).2)
      | c :: cs => exact (hplain c (List.mem_cons_self ..)).2 (List.cons.inj hl).1
    show quoted? ('\'' :: (cs ++ ['\'']) ++ rest) = _
    rw [List.cons_append, List.append_assoc]
    exact (quoted?_literal hhead).trans (literalBody_append hplain rest)
  | multiBasic =>
    have hshape : ['"', '"', '"'] ++ openingBreak cs ++ multiBasicContent 0 cs ++ ['"', '"', '"'] ++
        rest = '"' :: '"' :: '"' ::
          (openingBreak cs ++ (multiBasicContent 0 cs ++ '"' :: '"' :: '"' :: rest)) := by simp
    simp only [hshape, quoted?]
    rw [dropFirstBreak_openingBreak fun hn => head?_multiBasicContent hn _,
      multiBasicBody_multiBasicContent hd]
  | multiLiteral =>
    obtain ⟨hescape, htriple⟩ := of_eq_multiLiteral hstyle
    have hhead : '\n' ∉ cs → ∀ x ∈ (cs ++ '\'' :: '\'' :: '\'' :: rest).head?,
        x ≠ '\n' ∧ x ≠ '\r' := by
      intro hn
      match cs with
      | [] =>
        rintro _ ⟨⟩
        decide
      | c :: cs =>
        rintro _ ⟨⟩
        refine ⟨fun hc => hn (hc ▸ List.mem_cons_self ..), fun hc => ?_⟩
        have := hescape c (List.mem_cons_self ..)
        rw [hc] at this
        cases this
    have hshape : ['\'', '\'', '\''] ++ openingBreak cs ++ cs ++ ['\'', '\'', '\''] ++ rest =
        '\'' :: '\'' :: '\'' :: (openingBreak cs ++ (cs ++ '\'' :: '\'' :: '\'' :: rest)) := by simp
    simp only [hshape, quoted?]
    rw [dropFirstBreak_openingBreak hhead, multiLiteralBody_append hescape htriple hs]

end Till.Toml
