import Till.Proofs.Json.Record
import Till.Proofs.Toml.Quote
import Till.Toml.Document
import Till.Toml.Section

/-!
# Written documents are read back

A section is written line by line, and each line is read as the statement that it was written for
(`Toml.lines?_writtenSections`).
-/

namespace Till.Toml
variable {name : String} {rest cs : List Char}

/-- A name that needs no quotes as a key. -/
def IsBare (name : String) : Prop :=
  name.toList ≠ [] ∧ ∀ c ∈ name.toList, isBareKeyChar c = true

instance (name : String) : Decidable (IsBare name) :=
  decidable_of_iff (name.toList ≠ [] ∧ name.toList.all isBareKeyChar = true)
    (and_congr_right fun _ => List.all_eq_true)

/-! ### Keys -/

theorem skipBlanks_of_head (h : ∀ c ∈ cs.head?, isBlank c = false) : skipBlanks cs = cs := by
  match cs with
  | [] => rfl
  | c :: cs => rw [skipBlanks, List.dropWhile_cons_of_neg (by simp [h c rfl])]

theorem ne_of_isBareKeyChar {c d : Char} (hc : isBareKeyChar c = true)
    (hd : isBareKeyChar d = false) : c ≠ d := by
  rintro rfl
  rw [hc] at hd
  cases hd

theorem isBlank_of_isBareKeyChar {c : Char} (hc : isBareKeyChar c = true) : isBlank c = false := by
  have hspace : c ≠ ' ' := ne_of_isBareKeyChar hc (by decide)
  have htab : c ≠ '\t' := ne_of_isBareKeyChar hc (by decide)
  simp [isBlank, hspace, htab]

theorem keyPart?_bare (h : IsBare name) (hrest : ∀ c ∈ rest.head?, isBareKeyChar c = false) :
    keyPart? (name.toList ++ rest) = some (name, rest) := by
  obtain ⟨hne, hbare⟩ := h
  have htake : (name.toList ++ rest).takeWhile isBareKeyChar = name.toList := by
    rw [List.takeWhile_append_of_pos hbare]
    match rest, hrest with
    | [], _ => simp
    | c :: rest, hrest => simp [hrest c rfl]
  have hdrop : (name.toList ++ rest).dropWhile isBareKeyChar = rest := by
    rw [List.dropWhile_append_of_pos hbare]
    match rest, hrest with
    | [], _ => rfl
    | c :: rest, hrest => simp [hrest c rfl]
  obtain ⟨c, l, hname⟩ := List.exists_cons_of_ne_nil hne
  have hc : isBareKeyChar c = true := hbare c (hname ▸ List.mem_cons_self ..)
  have hd : c ≠ '"' := ne_of_isBareKeyChar hc (by decide)
  have hs : c ≠ '\'' := ne_of_isBareKeyChar hc (by decide)
  unfold keyPart?
  split
  · rename_i heq
    rw [hname] at heq
    exact absurd (List.cons.inj heq).1 hd
  · rename_i heq
    rw [hname] at heq
    exact absurd (List.cons.inj heq).1 hs
  · simp [htake, hdrop, hne]

/-- A bare key is read up to what is no part of it. -/
theorem key?_bare (h : IsBare name) (hrest : ∀ c ∈ rest.head?, isBareKeyChar c = false)
    (hdot : (skipBlanks rest).head? ≠ some '.') :
    key? (name.toList ++ rest) = some ([name], skipBlanks rest) := by
  have hskip : skipBlanks (name.toList ++ rest) = name.toList ++ rest := by
    obtain ⟨c, l, hname⟩ := List.exists_cons_of_ne_nil h.1
    refine skipBlanks_of_head fun d hd => ?_
    rw [hname] at hd
    cases hd
    exact isBlank_of_isBareKeyChar (h.2 c (hname ▸ List.mem_cons_self ..))
  have hparts : keyParts? (name.toList ++ rest) = some ([name], skipBlanks rest) := by
    rw [keyParts?, hskip, keyPart?_bare h hrest]
    simp only
    split
    · rename_i heq
      exact absurd (congrArg List.head? heq) hdot
    · rfl
  rw [key?, hparts]
  rfl

/-! ### Values -/

theorem isBlank_head_written (l : Leaf) (rest : List Char) :
    ∀ c ∈ (l.written ++ rest).head?, isBlank c = false := by
  cases l with
  | string s =>
    obtain ⟨q, l, hl, hq⟩ := exists_head_quote s.toList
    rw [Leaf.written, hl]
    rintro _ ⟨⟩
    rcases hq with rfl | rfl <;> decide
  | boolean b =>
    cases b <;> rintro _ ⟨⟩ <;> decide

theorem value?_written (l : Leaf) (rest : List Char) :
    value? depth (l.written ++ '\n' :: rest) = some (l.toToml, '\n' :: rest) := by
  cases l with
  | string s =>
    have hquoted : quoted? (quote s.toList ++ '\n' :: rest) = some (s.toList, '\n' :: rest) :=
      quoted?_quote (by simp) (by simp) s.toList
    obtain ⟨q, l, hl, hq⟩ := exists_head_quote s.toList
    show value? depth (quote s.toList ++ '\n' :: rest) = _
    rw [hl] at hquoted ⊢
    rcases hq with rfl | rfl
    · show (quoted? ('"' :: (l ++ _))).map _ = _
      rw [show '"' :: (l ++ '\n' :: rest) = '"' :: l ++ '\n' :: rest from rfl, hquoted]
      simp [Leaf.toToml]
    · show (quoted? ('\'' :: (l ++ _))).map _ = _
      rw [show '\'' :: (l ++ '\n' :: rest) = '\'' :: l ++ '\n' :: rest from rfl, hquoted]
      simp [Leaf.toToml]
  | boolean b =>
    cases b <;> rfl

/-! ### Lines -/

theorem line?_break (rest : List Char) : line? ('\n' :: rest) = some (none, rest) := by
  rfl

theorem line?_header (h : IsBare name) (rest : List Char) :
    line? ('[' :: name.toList ++ ']' :: '\n' :: rest) = some (some (.open [name]), rest) := by
  have hkey : key? (name.toList ++ ']' :: '\n' :: rest) = some ([name], ']' :: '\n' :: rest) :=
    key?_bare h (by rintro _ ⟨⟩; decide) (by simp [skipBlanks, isBlank])
  obtain ⟨c, l, hname⟩ := List.exists_cons_of_ne_nil h.1
  have hc : c ≠ '[' := ne_of_isBareKeyChar (h.2 c (hname ▸ List.mem_cons_self ..)) (by decide)
  have hskip : skipBlanks ('[' :: name.toList ++ ']' :: '\n' :: rest) =
      '[' :: (name.toList ++ ']' :: '\n' :: rest) := rfl
  unfold line?
  rw [hskip]
  split
  · rename_i heq
    rw [hname] at heq
    exact absurd (List.cons.inj (List.cons.inj heq).2).1 hc
  · rename_i heq
    rw [← (List.cons.inj heq).2, hkey]
    rfl
  · rename_i hne
    exact absurd rfl (hne _)

/-- A line that starts as a key does is a field. -/
theorem line?_of_field {c : Char} (hc : isBareKeyChar c = true) {path : List String} {v : Toml}
    (hfield : field? (value? depth) (c :: cs) = some ((path, v), rest)) :
    line? (c :: cs) = (afterLine? rest).map fun rest => (some (.assign path v), rest) := by
  have hne (d : Char) (hd : isBareKeyChar d = false) (l : List Char) : c :: cs ≠ d :: l :=
    fun h => ne_of_isBareKeyChar hc hd (List.cons.inj h).1
  have hskip : skipBlanks (c :: cs) = c :: cs :=
    skipBlanks_of_head (by rintro _ ⟨⟩; exact isBlank_of_isBareKeyChar hc)
  have hbreak : afterBreak? (c :: cs) = none := by
    unfold afterBreak?
    split
    · rename_i h; cases h
    · rename_i h; exact absurd h (hne '\n' (by decide) _)
    · rename_i h; exact absurd h (hne '\r' (by decide) _)
    · rfl
  have hafter : afterLine? (c :: cs) = none := by
    unfold afterLine?
    rw [hskip]
    split
    · rename_i h; exact absurd h (hne '#' (by decide) _)
    · exact hbreak
  unfold line?
  rw [hskip]
  split
  · rename_i h; exact absurd h (hne '[' (by decide) _)
  · rename_i h; exact absurd h (hne '[' (by decide) _)
  · simp only [hafter, hfield]

theorem line?_field {f : String × Leaf} (h : IsBare f.1) (rest : List Char) :
    line? (writtenField f ++ rest) = some (some (.assign [f.1] f.2.toToml), rest) := by
  have hshape : writtenField f ++ rest =
      f.1.toList ++ ' ' :: '=' :: ' ' :: (f.2.written ++ '\n' :: rest) := by simp [writtenField]
  have hfield : field? (value? depth) (writtenField f ++ rest) =
      some (([f.1], f.2.toToml), '\n' :: rest) := by
    have hkey : key? (writtenField f ++ rest) =
        some ([f.1], '=' :: ' ' :: (f.2.written ++ '\n' :: rest)) := by
      rw [hshape]
      exact key?_bare h (by rintro _ ⟨⟩; decide) (by simp [skipBlanks, isBlank])
    have hskip : skipBlanks (' ' :: (f.2.written ++ '\n' :: rest)) = f.2.written ++ '\n' :: rest :=
      skipBlanks_of_head (isBlank_head_written f.2 _)
    rw [field?, hkey]
    simp only [hskip, value?_written]
    rfl
  obtain ⟨c, l, hname⟩ := List.exists_cons_of_ne_nil h.1
  have hc : isBareKeyChar c = true := h.2 c (hname ▸ List.mem_cons_self ..)
  have hcons : writtenField f ++ rest =
      c :: (l ++ ' ' :: '=' :: ' ' :: (f.2.written ++ '\n' :: rest)) := by
    rw [hshape, hname]
    rfl
  rw [hcons] at hfield ⊢
  rw [line?_of_field hc hfield]
  rfl

theorem lines?_of_line? {s : Option Statement} (h : line? cs = some (s, rest))
    (hlen : rest.length < cs.length) : lines? cs = (lines? rest).map (s.toList ++ ·) := by
  rw [lines?, h]
  · exact if_pos hlen
  · rintro rfl
    cases hlen

/-! ### Sections -/

namespace Section

/-- The names of a section need no quotes, and no key is there twice. -/
structure Ok (s : Section) : Prop where
  name : IsBare s.name
  keys : ∀ f ∈ s.fields, IsBare f.1
  nodup : (s.fields.map (·.1)).Nodup

/-- It is enough to know the keys that a section may have. -/
theorem Ok.of_sublist {s : Section} {keys : List String} (hname : IsBare s.name)
    (h : (s.fields.map (·.1)).Sublist keys) (hbare : ∀ key ∈ keys, IsBare key)
    (hnodup : keys.Nodup) : s.Ok :=
  ⟨hname, fun _ hf => hbare _ (h.subset (List.mem_map_of_mem hf)), .sublist h hnodup⟩

/-- What the lines of a section state. -/
def statements (s : Section) : List Statement :=
  .open [s.name] :: s.fields.map fun f => .assign [f.1] f.2.toToml

def entries (s : Section) : List (String × Toml) :=
  s.fields.map fun f => (f.1, f.2.toToml)

def toToml (s : Section) : Toml :=
  .table .header (Entries.ofList s.entries)

end Section

theorem lines?_fields {fields : List (String × Leaf)} (h : ∀ f ∈ fields, IsBare f.1)
    (rest : List Char) :
    lines? (fields.flatMap writtenField ++ rest) =
      (lines? rest).map ((fields.map fun f => .assign [f.1] f.2.toToml) ++ ·) := by
  induction fields with
  | nil => simp
  | cons f fields ih =>
    obtain ⟨hf, h⟩ := List.forall_mem_cons.1 h
    have hline := line?_field hf (fields.flatMap writtenField ++ rest)
    rw [List.flatMap_cons, List.append_assoc, lines?_of_line? hline (by simp [writtenField]; omega),
      ih h, Option.map_map]
    rfl

theorem lines?_section {s : Section} (h : s.Ok) (rest : List Char) :
    lines? (s.written ++ rest) = (lines? rest).map (s.statements ++ ·) := by
  have hshape : s.written ++ rest =
      '[' :: s.name.toList ++ ']' :: '\n' :: (s.fields.flatMap writtenField ++ rest) := by
    simp [Section.written]
  rw [hshape, lines?_of_line? (line?_header h.name _) (by simp; omega), lines?_fields h.keys,
    Option.map_map]
  rfl

theorem lines?_writtenSections {ss : List Section} (h : ∀ s ∈ ss, s.Ok) :
    lines? (writtenSections ss) = some (ss.flatMap Section.statements) := by
  have hend : lines? [] = some [] := by rw [lines?]
  induction ss with
  | nil => exact hend
  | cons s ss ih =>
    obtain ⟨hs, h⟩ := List.forall_mem_cons.1 h
    have ih := ih h
    cases ss with
    | nil =>
      have hshape : writtenSections [s] = s.written ++ [] := by simp [writtenSections]
      rw [hshape, lines?_section hs, hend]
      simp
    | cons s' ss =>
      -- an empty line stands between two sections
      have hshape : writtenSections (s :: s' :: ss) =
          s.written ++ '\n' :: writtenSections (s' :: ss) := by
        simp [writtenSections, List.intercalate]
      rw [hshape, lines?_section hs, lines?_of_line? (line?_break _) (by simp), ih]
      rfl

/-! ### Tables -/

theorem build?_fields {fields : List (String × Leaf)} (h : (fields.map (·.1)).Nodup)
    {sub : List (String × Toml)} (hsub : ∀ f ∈ fields, sub.lookup f.1 = none) (name : String)
    (es : List (String × Toml)) (rest : List Statement) :
    build? ((fields.map fun f => .assign [f.1] f.2.toToml) ++ rest) [name]
        (Entries.insert name (.table .header sub) es) =
      build? rest [name] (Entries.insert name
        (.table .header (Entries.insertAll sub (fields.map fun f => (f.1, f.2.toToml)))) es) := by
  induction fields generalizing sub with
  | nil => rfl
  | cons f fields ih =>
    obtain ⟨hf, h⟩ := List.nodup_cons.1 h
    obtain ⟨hnone, hsub⟩ := List.forall_mem_cons.1 hsub
    have hassign : assignAt [name] [f.1] f.2.toToml (Entries.insert name (.table .header sub) es) =
        some (Entries.insert name (.table .header (Entries.insert f.1 f.2.toToml sub)) es) := by
      simp only [assignAt, assign, Entries.lookup_insert_self, hnone, Entries.insert_insert_self,
        Option.isSome_none, Bool.false_eq_true, if_false, Option.map_some]
    have hsub' : ∀ f' ∈ fields, (Entries.insert f.1 f.2.toToml sub).lookup f'.1 = none := by
      intro f' hf'
      have hne : f'.1 ≠ f.1 := fun he => hf (List.mem_map.2 ⟨f', hf', he⟩)
      rw [Entries.lookup_insert_ne hne, hsub f' hf']
    rw [List.map_cons, List.cons_append, build?, hassign]
    exact ih h hsub'

theorem build?_section {s : Section} (h : s.Ok) {es : List (String × Toml)}
    (hname : es.lookup s.name = none) (here : List String) (rest : List Statement) :
    build? (s.statements ++ rest) here es =
      build? rest [s.name] (Entries.insert s.name s.toToml es) := by
  have hopen : descend opened? [s.name] es =
      some (Entries.insert s.name (.table .header []) es) := by
    rw [descend, hname]
    rfl
  rw [Section.statements, List.cons_append, build?, hopen]
  exact build?_fields h.nodup (fun _ _ => rfl) s.name es rest

theorem build?_sections {ss : List Section} (h : ∀ s ∈ ss, s.Ok) (hnodup : (ss.map (·.name)).Nodup)
    {es : List (String × Toml)} (hnames : ∀ s ∈ ss, es.lookup s.name = none) (here : List String) :
    build? (ss.flatMap Section.statements) here es =
      some (Entries.insertAll es (ss.map fun s => (s.name, s.toToml))) := by
  induction ss generalizing es here with
  | nil => rfl
  | cons s ss ih =>
    obtain ⟨hs, h⟩ := List.forall_mem_cons.1 h
    obtain ⟨hfresh, hnodup⟩ := List.nodup_cons.1 hnodup
    obtain ⟨hnone, hnames⟩ := List.forall_mem_cons.1 hnames
    have hnames' : ∀ s' ∈ ss, (Entries.insert s.name s.toToml es).lookup s'.name = none := by
      intro s' hs'
      have hne : s'.name ≠ s.name := fun he => hfresh (List.mem_map.2 ⟨s', hs', he⟩)
      rw [Entries.lookup_insert_ne hne, hnames s' hs']
    rw [List.flatMap_cons, build?_section hs hnone, ih h hnodup hnames']
    rfl

/-- The columns of a record that is built from a list of values. -/
theorem columns?_ofList {l : List (String × Toml)} (h : (l.map (·.1)).Nodup) (origin : TableOrigin)
    (names : List String) :
    (table origin (Entries.ofList l)).columns? names = some (names.map fun n => l.lookup n) := by
  simp only [columns?, Entries.lookup_ofList h]

theorem Section.Ok.columns?_toToml {s : Section} (h : s.Ok) (names : List String) :
    s.toToml.columns? names = some (names.map fun n => s.entries.lookup n) := by
  refine columns?_ofList ?_ .header names
  rw [Section.entries, List.map_map]
  exact h.nodup

/-- Sections that are written are read back as their tables. -/
theorem parse?_writtenSections {ss : List Section} (h : ∀ s ∈ ss, s.Ok)
    (hnodup : (ss.map (·.name)).Nodup) :
    parse? (String.ofList (writtenSections ss)) =
      some (.table .header (Entries.ofList (ss.map fun s => (s.name, s.toToml)))) := by
  have hmark : skipMark (writtenSections ss) = writtenSections ss := by
    match ss with
    | [] => rfl
    | [s] => rfl
    | s :: _ :: _ => rfl
  have hbuild : build? (ss.flatMap Section.statements) [] [] =
      some (Entries.ofList (ss.map fun s => (s.name, s.toToml))) :=
    build?_sections h hnodup (fun _ _ => rfl) []
  rw [parse?, String.toList_ofList, hmark, lines?_writtenSections h]
  simp only [hbuild, Option.map_some]

end Till.Toml
