import Till.Kind.Name
import Till.Proofs.Gateway.Address
import Till.Proofs.Kind.BulkKey
import Till.Proofs.Text.Spelling

/-!
# Spellings of kinds

Folding a name without a `k` tells as much of it as its spelling does (`foldName_eq_iff`). Main
statements: a text is recognised as the kind of a device if it is a spelling of its method, blanks at
the ends aside, and in no other case (`DeviceKind.parse_spellings`); a kind of the server is
recognised likewise, with the prefix `kkm/` in small letters or without it, so that a change of case
leaves it the same kind as long as the prefix is left alone (`ServerKind.parse_recased`).
-/

namespace Till

/-! ### Folded names -/

open Text (Respelled letters IsPlainWord)

theorem foldName_eq (s : String) :
    foldName s =
      String.ofList ((s.toList.filter fun c => c ∉ ['-', '_']).flatMap Text.lowerChar) := by
  simp [foldName]

theorem foldName_eq_iff {word s : String} (hword : IsPlainWord (letters word.toList)) :
    foldName word = foldName s ↔ Respelled word.toList s.toList := by
  have hfold {t : String} : foldName t = String.ofList (letters word.toList) ↔
      letters t.toList = letters word.toList := by
    rw [foldName_eq, String.ofList_inj, Text.flatMap_lowerChar_eq_iff hword, ← Text.letters_eq_map]
  rw [hfold.2 rfl, eq_comm, hfold, eq_comm, Text.respelled_iff]

/-- Each value has a name that is a plain word, and no two of the names are alike when folded. -/
structure FoldsApart {α : Type} (l : List α) (name : α → String) : Prop where
  mem : ∀ a, a ∈ l
  plain : ∀ a, IsPlainWord (letters (name a).toList)
  nodup : (l.map fun a => letters (name a).toList).Nodup

/-- The folded text finds the value whose name it spells. -/
theorem FoldsApart.find?_eq_some_iff {α : Type} {l : List α} {name : α → String}
    (h : FoldsApart l name) {s : String} {a : α} :
    l.find? (fun a => foldName (name a) == foldName s) = some a ↔
      Respelled (name a).toList s.toList := by
  have hkey : ∀ a ∈ l, ∀ b ∈ l, foldName (name a) = foldName (name b) → a = b := by
    intro a ha b hb hab
    have hletters := Text.respelled_iff.1 ((foldName_eq_iff (h.plain a)).1 hab)
    exact List.inj_on_of_nodup_map h.nodup ha hb hletters
  rw [List.find?_key_eq_some_iff hkey, foldName_eq_iff (h.plain a)]
  exact and_iff_right (h.mem a)

/-! ### Kinds of a device -/

namespace DeviceKind

/-- The name of the kind as one word, its parts with capitals. -/
def title : DeviceKind → String
  | status => "Status"
  | fullStatus => "FullStatus"
  | baseStatus => "BaseStatus"
  | cashStat => "CashStat"
  | printDemo => "PrintDemo"
  | printNonFiscalDoc => "PrintNonFiscalDoc"
  | printInfo => "PrintInfo"
  | printFnRegistrations => "PrintFnRegistrations"
  | printOfdExchangeStatus => "PrintOfdExchangeStatus"
  | printOfdTest => "PrintOfdTest"
  | printCloseShiftReports => "PrintCloseShiftReports"
  | printLastDocument => "PrintLastDocument"
  | cashIn => "CashIn"
  | cashOut => "CashOut"
  | closeShift => "CloseShift"
  | sell => "Sell"
  | sellReturn => "SellReturn"
  | reportX => "ReportX"
  | resetState => "ResetState"

/-- The text names the kind: without the blanks at its ends and without any hyphen or underscore it
is the method without hyphens, up to the case of ASCII letters. -/
def IsNamed (s : String) (k : DeviceKind) : Prop :=
  Text.eqIgnoreAsciiCase (Text.without ['-', '_'] (Text.trim s)) (Text.without ['-'] k.method) = true

variable {s : String} {k k' : DeviceKind}

theorem foldsApart : FoldsApart all method where
  mem k := by cases k <;> decide
  plain k := by cases k <;> decide +kernel
  nodup := by decide +kernel

theorem letters_title (k : DeviceKind) : letters k.title.toList = letters k.method.toList := by
  cases k <;> decide +kernel

theorem without_hyphens (k : DeviceKind) :
    Text.without ['-'] k.method = Text.without ['-', '_'] k.method := by
  cases k <;> decide +kernel

theorem isNamed_iff : IsNamed s k ↔ Respelled k.method.toList (Text.trim s).toList := by
  rw [IsNamed, without_hyphens, Text.eqIgnoreAsciiCase_without, Text.respelled_iff, eq_comm,
    Text.respelled_iff]

/-- The kind whose method the text spells. -/
def named? (s : String) : Option DeviceKind :=
  all.find? fun k => foldName k.method == foldName (Text.trim s)

theorem named?_eq_some_iff : named? s = some k ↔ IsNamed s k := by
  rw [named?, foldsApart.find?_eq_some_iff, isNamed_iff]

theorem parse_eq (s : String) : parse s = (named? s).elim (.error (.unsupportedKind s)) .ok := by
  rw [parse, ← named?]
  cases named? s <;> rfl

theorem parse_eq_ok_iff : parse s = .ok k ↔ IsNamed s k := by
  rw [parse_eq, Except.elim_eq_ok_iff, named?_eq_some_iff]

theorem parse_eq_error_iff {e : ClientError} :
    parse s = .error e ↔ (∀ k, ¬ IsNamed s k) ∧ e = .unsupportedKind s := by
  simp only [parse_eq, Except.elim_eq_error_iff, ne_eq, named?_eq_some_iff]

/-- A text names one kind at most. -/
theorem IsNamed.unique (h : IsNamed s k) (h' : IsNamed s k') : k = k' :=
  Except.ok.inj ((parse_eq_ok_iff.2 h).symm.trans (parse_eq_ok_iff.2 h'))

theorem IsNamed.ascii (h : IsNamed s k) : ∀ c ∈ (Text.trim s).toList, c.toNat < 0x80 := by
  have hletters := Text.respelled_iff.1 (isNamed_iff.1 h)
  refine Text.ascii_of_letters ?_
  rw [← hletters]
  exact foldsApart.plain k

theorem isNamed_of_respelled {t name : String} (hname : name ∈ [k.method, k.title])
    (h : Respelled name.toList t.toList) (hpadded : Text.Padded t s) : IsNamed s k := by
  have hletters : letters name.toList = letters k.method.toList := by
    rcases List.mem_pair.1 hname with rfl | rfl
    · rfl
    · exact k.letters_title
  have hmethod : Respelled k.method.toList t.toList :=
    Text.respelled_iff.2 (hletters.symm.trans (Text.respelled_iff.1 h))
  have hblank := hmethod.forall Text.isBlank_toLower Text.isBlank_joint
    fun c hc => (k.isSegment_method.2 c hc).1
  have htrim : Text.trim t = t :=
    Text.stripped_of_ends (fun c hc => hblank c (List.mem_of_head? hc))
      fun c hc => hblank c (List.mem_of_getLast? hc)
  rw [isNamed_iff, Text.trim_padded hpadded, htrim]
  exact hmethod

/-- A text is recognised as a kind just if it names it, which it does for one kind at most and
without a character beyond ASCII between its blanks; any other text is given back as it is, as no
kind. So the method and the title of a kind are recognised in any case, with hyphens and underscores
wherever they are put in or left out, and between any blanks. -/
theorem parse_spellings :
    (∀ s k, parse s = .ok k ↔ IsNamed s k) ∧
    (∀ s k k', IsNamed s k → IsNamed s k' → k = k') ∧
    (∀ s k, parse s = .ok k → ∀ c ∈ (Text.trim s).toList, c.toNat < 0x80) ∧
    (∀ s e, parse s = .error e ↔ (∀ k, ¬ IsNamed s k) ∧ e = .unsupportedKind s) ∧
    ∀ k, ∀ name ∈ [k.method, k.title], ∀ t s : String, Respelled name.toList t.toList →
      Text.Padded t s → parse s = .ok k := by
  refine ⟨fun _ _ => parse_eq_ok_iff, fun _ _ _ h h' => h.unique h', fun _ _ h => ?_,
    fun _ _ => parse_eq_error_iff, fun k name hname t s h hpadded => ?_⟩
  · exact (parse_eq_ok_iff.1 h).ascii
  · exact parse_eq_ok_iff.2 (isNamed_of_respelled hname h hpadded)

-- an I with a dot is folded to an i, but its dot is left over
example : (parse "\u3000_Cash--IN\n").toOption = some cashIn ∧ (parse "CASH-\u0130N").isOk = false := by
  decide +kernel

end DeviceKind

/-! ### Kinds of the server -/

namespace ServerKind

/-- The text as a path. -/
def pathOf (s : String) : String :=
  Path.normalize (Text.trim s)

/-- The text begins like the method of a kind that is not at the top. -/
def IsPrefixed (s : String) : Prop :=
  ∃ t, pathOf s = "kkm/" ++ t

/-- The text names the kind: as a path it is a spelling of the kind's name, or of its name after the
prefix. -/
def IsNamed (s : String) (k : ServerKind) : Prop :=
  Respelled k.name.toList (pathOf s).toList ∨
    ∃ t : String, pathOf s = "kkm/" ++ t ∧ Respelled k.name.toList t.toList

variable {s s' : String} {k : ServerKind}

theorem foldsApart : FoldsApart all name where
  mem k := by cases k <;> decide
  plain k := by cases k <;> decide
  nodup := by decide

theorem bareName_append (t : String) : bareName ("kkm/" ++ t) = t := by
  have hfront : "kkm/".toList.isPrefixOf ("kkm/".toList ++ t.toList) = true :=
    List.isPrefixOf_iff_prefix.2 (List.prefix_append ..)
  simp only [bareName, String.toList_append, if_pos hfront, List.drop_left, String.ofList_toList]

theorem bareName_method (k : ServerKind) : bareName k.method = k.name := by
  cases k <;> decide

theorem bareName_of_not_prefixed {p : String} (h : ∀ t, p ≠ "kkm/" ++ t) : bareName p = p := by
  refine if_neg fun hfront => ?_
  obtain ⟨rest, hrest⟩ := List.isPrefixOf_iff_prefix.1 hfront
  refine h (String.ofList rest) ?_
  rw [← String.ofList_toList (s := p), ← hrest, String.ofList_append, String.ofList_toList]

/-- No spelling of a name has a slash. -/
theorem slash_notMem_of_respelled {cs : List Char} (h : Respelled k.name.toList cs) : '/' ∉ cs := by
  have hslash := h.forall (p := fun c => c == '/') (fun c => ?_) ?_ ?_
  · intro hmem
    cases hslash '/' hmem
  · rw [Bool.eq_iff_iff, beq_iff_eq, beq_iff_eq, Text.toLower_eq_iff (by decide)]
  · rintro c (rfl | rfl) <;> rfl
  · intro c hc
    exact beq_false_of_ne fun h => k.isSegment_name.slash_notMem (h ▸ hc)

theorem isNamed_iff : IsNamed s k ↔ Respelled k.name.toList (bareName (pathOf s)).toList := by
  by_cases hs : IsPrefixed s
  · obtain ⟨t, ht⟩ := hs
    rw [IsNamed, ht, bareName_append]
    constructor
    · rintro (h | ⟨t', ht', h⟩)
      · exact absurd (by simp) (slash_notMem_of_respelled h)
      · rwa [(String.append_right_inj _).1 ht']
    · exact fun h => .inr ⟨t, rfl, h⟩
  · have hs : ∀ t, pathOf s ≠ "kkm/" ++ t := fun t ht => hs ⟨t, ht⟩
    rw [bareName_of_not_prefixed hs]
    exact or_iff_left fun ⟨t, ht, _⟩ => hs t ht

/-- The kind whose name the text spells, after the prefix if it has it. -/
def named? (s : String) : Option ServerKind :=
  all.find? fun k => foldName k.name == foldName (bareName (pathOf s))

theorem named?_eq_some_iff : named? s = some k ↔ IsNamed s k := by
  rw [named?, foldsApart.find?_eq_some_iff, isNamed_iff]

theorem parse_eq (s : String) : parse s = (named? s).elim (.error (.unsupportedKind s)) .ok := by
  unfold parse named? pathOf
  -- with the folded text in place the two sides would be compared by evaluating it
  generalize foldName (bareName (Path.normalize (Text.trim s))) = given
  simp only [bareName_method]
  cases all.find? fun k => foldName k.name == given <;> rfl

theorem parse_eq_ok_iff : parse s = .ok k ↔ IsNamed s k := by
  rw [parse_eq, Except.elim_eq_ok_iff, named?_eq_some_iff]

theorem parse_eq_error_iff {e : ClientError} :
    parse s = .error e ↔ (∀ k, ¬ IsNamed s k) ∧ e = .unsupportedKind s := by
  simp only [parse_eq, Except.elim_eq_error_iff, ne_eq, named?_eq_some_iff]

/-! ### Changes of case -/

theorem isSeparator_toLower (c : Char) : Path.isSeparator c.toLower = Path.isSeparator c := by
  rw [Bool.eq_iff_iff]
  simp only [Path.isSeparator, Bool.or_eq_true, beq_iff_eq]
  rw [Text.toLower_eq_iff (by decide), Text.toLower_eq_iff (by decide)]

theorem toLower_pathOf (h : Text.eqIgnoreAsciiCase s s' = true) :
    (pathOf s).toList.map Char.toLower = (pathOf s').toList.map Char.toLower := by
  have hpath (s : String) : (pathOf s).toList.map Char.toLower =
      Text.strip Path.isSeparator (Text.strip Text.isBlank (s.toList.map Char.toLower)) := by
    rw [Text.strip_map Text.isBlank_toLower, Text.strip_map isSeparator_toLower, pathOf,
      Path.normalize, Text.trim, Text.stripped, Text.stripped, String.toList_ofList,
      String.toList_ofList]
  rw [hpath, hpath, Text.eqIgnoreAsciiCase_iff.1 h]

/-- A change of case that leaves the prefix alone, or finds none, leaves the kind the same. -/
theorem IsNamed.recased (h : IsNamed s k) (hcase : Text.eqIgnoreAsciiCase s s' = true)
    (hfront : IsPrefixed s → IsPrefixed s') : IsNamed s' k := by
  have hpath := toLower_pathOf hcase
  rcases h with h | ⟨t, ht, h⟩
  · refine .inl (Text.respelled_iff.2 ?_)
    rw [Text.respelled_iff.1 h, letters, hpath, letters]
  · obtain ⟨t', ht'⟩ := hfront ⟨t, ht⟩
    rw [ht, ht', String.toList_append, String.toList_append, List.map_append, List.map_append,
      List.append_right_inj] at hpath
    refine .inr ⟨t', ht', Text.respelled_iff.2 ?_⟩
    rw [Text.respelled_iff.1 h, letters, hpath, letters]

/-- A changed prefix leaves a slash behind, which is in no name. -/
theorem IsPrefixed.not_isNamed (h : IsPrefixed s) (hcase : Text.eqIgnoreAsciiCase s s' = true)
    (hs' : ¬ IsPrefixed s') : ¬ IsNamed s' k := by
  obtain ⟨t, ht⟩ := h
  have hslash : '/' ∈ (pathOf s').toList := by
    have hmem : '/' ∈ (pathOf s).toList.map Char.toLower := by simp [ht]
    rw [toLower_pathOf hcase] at hmem
    obtain ⟨c, hc, hlower⟩ := List.mem_map.1 hmem
    rwa [(Text.toLower_eq_iff (by decide)).1 hlower] at hc
  rintro (hname | ⟨t', ht', -⟩)
  · exact slash_notMem_of_respelled hname hslash
  · exact hs' ⟨t', ht'⟩

/-- A text is recognised as a kind just if it names it, and any other text is given back as it is.
In another case a text that names a kind still names that kind, provided that the prefix `kkm/`, if
it is there, stays in small letters; with a capital in its prefix it names no kind. -/
theorem parse_recased (s : String) :
    (∀ k, parse s = .ok k ↔ IsNamed s k) ∧
    (∀ e, parse s = .error e ↔ (∀ k, ¬ IsNamed s k) ∧ e = .unsupportedKind s) ∧
    ∀ k s', parse s = .ok k → Text.eqIgnoreAsciiCase s s' = true →
      (parse s' = .ok k ↔ (IsPrefixed s → IsPrefixed s')) ∧
        (IsPrefixed s ∧ ¬ IsPrefixed s' → parse s' = .error (.unsupportedKind s')) := by
  refine ⟨fun _ => parse_eq_ok_iff, fun _ => parse_eq_error_iff, fun k s' h hcase => ?_⟩
  have hnamed : IsNamed s k := parse_eq_ok_iff.1 h
  refine ⟨⟨fun hs' hfront => ?_, fun hfront => ?_⟩, fun ⟨hfront, hs'⟩ => ?_⟩
  · by_contra hlost
    exact hfront.not_isNamed hcase hlost (parse_eq_ok_iff.1 hs')
  · exact parse_eq_ok_iff.2 (hnamed.recased hcase hfront)
  · exact parse_eq_error_iff.2 ⟨fun _ => hfront.not_isNamed hcase hs', rfl⟩

/-- Capitals in the prefix of a method are not recognised, though only the case is another. -/
theorem parse_capitalPrefix :
    parse "kkm/learn" = .ok .learn ∧ Text.eqIgnoreAsciiCase "kkm/learn" "KKM/learn" = true ∧
      parse "KKM/learn" = .error (.unsupportedKind "KKM/learn") := by
  have hsmall : named? "kkm/learn" = some .learn := by decide +kernel
  have hcapital : named? "KKM/learn" = none := by decide +kernel
  rw [parse_eq, parse_eq, hsmall, hcapital]
  exact ⟨rfl, by decide, rfl⟩

end ServerKind
end Till
