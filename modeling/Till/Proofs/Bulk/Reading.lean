import Till.Proofs.Bulk.Denotes
import Till.Proofs.Json.Record
import Till.Proofs.Json.Shape
import Till.Proofs.Receipt.Make
import Till.Proofs.Token

/-!
# Records are read as what they denote

Each reader of a record accepts just the values that denote one, and reads that one
(`Item.ofJson_eq_ok_iff` and its siblings).
-/

namespace Till

namespace Json
variable {v : Json} {fs : List (String × Json)} {key field : String}

theorem asString_iff {s : String} : AsString v s ↔ v = .string s := by
  constructor
  · rintro ⟨⟩; rfl
  · rintro rfl; exact .of s

theorem asToken_iff {α : Type} [Token α] {a : α} : AsToken v a ↔ v = .string (Token.token a) := by
  constructor
  · rintro ⟨⟩; rfl
  · rintro rfl; exact .of a

theorem objectFor_eq_ok_iff : v.objectFor field = .ok fs ↔ v = .object fs := by
  cases v <;> simp [objectFor]

theorem arrayFor_eq_ok_iff {vs : List Json} : v.arrayFor field = .ok vs ↔ v = .array vs := by
  cases v <;> simp [arrayFor]

theorem stringFor_eq_ok_iff {s : String} : v.stringFor field = .ok s ↔ AsString v s := by
  rw [asString_iff]
  cases v <;> simp [stringFor]

theorem floatFor_eq_ok_iff {x : Float} : v.floatFor field = .ok x ↔ AsNumber v x := by
  constructor
  · intro h
    cases v with
    | number n => cases h; exact .of n
    | _ => cases h
  · rintro ⟨n⟩; rfl

theorem boolFor_eq_ok_iff {b : Bool} : v.boolFor field = .ok b ↔ AsBool v b := by
  constructor
  · intro h
    cases v with
    | bool b => cases h; exact .of b
    | _ => cases h
  · rintro ⟨b⟩; rfl

/-- A value that may be missing, by the value that is there. -/
theorem asOption_iff {α : Type} {R : Json → α → Prop} (hR : ∀ a, ¬ R .null a) {o : Option α} :
    AsOption R (fs.lookup key) o ↔
      match present? fs key with
      | none => o = none
      | some v => ∃ a, R v a ∧ o = some a := by
  unfold present?
  cases hl : fs.lookup key with
  | none =>
    constructor
    · rintro ⟨⟩; rfl
    · rintro rfl; exact .missing
  | some v =>
    have hgiven : v ≠ .null → (AsOption R (some v) o ↔ ∃ a, R v a ∧ o = some a) := by
      intro hv
      constructor
      · intro h
        cases h with
        | null => exact absurd rfl hv
        | given h => exact ⟨_, h, rfl⟩
      · rintro ⟨a, h, rfl⟩; exact .given h
    cases v with
    | null =>
      constructor
      · intro h
        cases h with
        | null => rfl
        | given h => exact absurd h (hR _)
      · rintro rfl; exact .null
    | _ => exact hgiven nofun

/-- There is something to be read if what stands there can be. -/
theorem exists_asOption_iff {α : Type} {R : Json → α → Prop} {o : Option Json} :
    (∃ a, AsOption R o a) ↔ IsOptional (fun v => ∃ a, R v a) o := by
  constructor
  · rintro ⟨a, h⟩ v hv
    cases h with
    | missing => cases hv
    | null => cases hv; exact .inl rfl
    | given h => cases hv; exact .inr ⟨_, h⟩
  · intro h
    cases o with
    | none => exact ⟨none, .missing⟩
    | some v =>
      rcases h v rfl with rfl | ⟨a, ha⟩
      · exact ⟨none, .null⟩
      · exact ⟨some a, .given ha⟩

theorem exists_asToken_iff {α : Type} [Token α] [LawfulToken α] {o : Option Json} :
    (∃ a : Option α, AsOption AsToken o a) ↔ IsOptional (IsToken α) o := by
  simp only [exists_asOption_iff, asToken_iff, ← isToken_iff]

theorem requiredString_eq_ok_iff {s : String} :
    requiredString fs key field = .ok s ↔ fs.lookup key = some (.string s) := by
  unfold requiredString present?
  constructor
  · intro h
    split at h
    · rename_i v hv
      rw [stringFor_eq_ok_iff, asString_iff] at h
      subst h
      split at hv
      · cases hv
      · exact hv
    · cases h
  · intro h
    rw [h]
    rfl

theorem optionalString_eq_ok_iff {o : Option String} :
    optionalString fs key field = .ok o ↔ AsOption AsString (fs.lookup key) o := by
  rw [asOption_iff nofun, optionalString]
  cases present? fs key with
  | none => exact ⟨fun h => (Except.ok.inj h).symm, fun h => by rw [h]⟩
  | some v =>
    simp only [Except.map_eq_ok_iff, stringFor_eq_ok_iff]
    exact exists_congr fun a => and_congr_right fun _ => eq_comm

theorem floatOr_eq_ok_iff {d x : Float} :
    floatOr fs key d = .ok x ↔ ∃ o, AsOption AsNumber (fs.lookup key) o ∧ o.getD d = x := by
  simp only [asOption_iff (R := AsNumber) nofun, floatOr]
  cases present? fs key with
  | none => simp
  | some v => simp [floatFor_eq_ok_iff]

theorem boolOrFalse_eq_ok_iff {b : Bool} :
    boolOrFalse fs key = .ok b ↔ ∃ o, AsOption AsBool (fs.lookup key) o ∧ o.getD false = b := by
  simp only [asOption_iff (R := AsBool) nofun, boolOrFalse]
  cases present? fs key with
  | none => simp
  | some v =>
    simp only [boolFor_eq_ok_iff]
    constructor
    · exact fun h => ⟨some b, ⟨b, h, rfl⟩, rfl⟩
    · rintro ⟨_, ⟨b, h, rfl⟩, rfl⟩
      exact h

theorem tokenAt_eq_ok_iff {α : Type} [Token α] [LawfulToken α] {o : Option α} :
    Item.tokenAt fs key = .ok o ↔ AsOption AsToken (fs.lookup key) o := by
  unfold Item.tokenAt
  cases fs.lookup key with
  | none =>
    constructor
    · intro h; cases h; exact .missing
    · rintro ⟨⟩; rfl
  | some v =>
    cases o with
    | none =>
      rw [Token.cast_eq_none_iff]
      constructor
      · rintro rfl; exact .null
      · rintro ⟨⟩; rfl
    | some a =>
      rw [Token.cast_eq_some_iff]
      constructor
      · rintro rfl; exact .given (.of a)
      · rintro (_ | _ | ⟨⟨⟩⟩); rfl

end Json

open Json

/-! ### Records -/

theorem Operator.ofJson_object {fs : List (String × Json)} {name : String} {inn : Option String}
    (hname : fs.lookup "name" = some (.string name))
    (hinn : AsOption AsString (fs.lookup "inn") inn) : ofJson (.object fs) = make name inn := by
  have hn : requiredString fs "name" "operator.name" = .ok name := requiredString_eq_ok_iff.2 hname
  have hi : optionalString fs "inn" "operator.inn" = .ok inn := optionalString_eq_ok_iff.2 hinn
  simp only [ofJson, objectFor, hn, hi, bind, Except.bind]

theorem Operator.exists_of_ofJson {v : Json} {o : Operator} (h : ofJson v = .ok o) :
    ∃ fs name inn, v = .object fs ∧ fs.lookup "name" = some (.string name) ∧
      AsOption AsString (fs.lookup "inn") inn := by
  obtain ⟨fs, hv, h⟩ := Except.bind_eq_ok_iff.1 h
  obtain ⟨name, hname, h⟩ := Except.bind_eq_ok_iff.1 h
  obtain ⟨inn, hinn, -⟩ := Except.bind_eq_ok_iff.1 h
  exact ⟨fs, name, inn, objectFor_eq_ok_iff.1 hv, requiredString_eq_ok_iff.1 hname,
    optionalString_eq_ok_iff.1 hinn⟩

theorem Item.ofJson_eq_ok_iff {v : Json} {i : Item} : Item.ofJson v = .ok i ↔ Item.Denotes v i := by
  simp only [ofJson, Except.bind_eq_ok_iff, objectFor_eq_ok_iff, requiredString_eq_ok_iff,
    floatOr_eq_ok_iff, tokenAt_eq_ok_iff, Except.pure_eq_ok_iff]
  constructor
  · rintro ⟨fs, rfl, title, ht, _, ⟨price, hp, rfl⟩, _, ⟨quantity, hq, rfl⟩, item, hi, tax, htax,
      unit, hunit, rfl⟩
    exact .of ht hp hq htax hunit hi
  · rintro ⟨ht, hp, hq, htax, hunit, hi⟩
    exact ⟨_, rfl, _, ht, _, ⟨_, hp, rfl⟩, _, ⟨_, hq, rfl⟩, _, hi, _, htax, _, hunit, rfl⟩

theorem Item.mapM_ofJson_eq_ok_iff {vs : List Json} {is : List Item} :
    vs.mapM ofJson = .ok is ↔ List.Forall₂ Denotes vs is := by
  have hrel : (fun v i => ofJson v = .ok i) = Denotes :=
    funext₂ fun _ _ => propext ofJson_eq_ok_iff
  rw [Except.mapM_eq_ok_iff, hrel]

theorem TextBlock.ofJson_eq_ok_iff {field : String} {v : Json} {b : TextBlock} :
    TextBlock.ofJson field v = .ok b ↔ TextBlock.Denotes v b := by
  cases v with
  | string s =>
    constructor
    · intro h; cases h; exact .string s
    · rintro ⟨⟩; rfl
  | null =>
    constructor
    · intro h; cases h; exact .null
    · rintro ⟨⟩; rfl
  | object fs =>
    simp only [ofJson, Except.bind_eq_ok_iff, optionalString_eq_ok_iff, boolOrFalse_eq_ok_iff,
      Except.pure_eq_ok_iff]
    constructor
    · rintro ⟨content, hc, _, ⟨center, hce, rfl⟩, _, ⟨magnified, hm, rfl⟩, _, ⟨separated, hs, rfl⟩,
        rfl⟩
      exact .object hc hce hm hs
    · rintro ⟨⟩
      rename_i hc hce hm hs
      exact ⟨_, hc, _, ⟨_, hce, rfl⟩, _, ⟨_, hm, rfl⟩, _, ⟨_, hs, rfl⟩, rfl⟩
  | _ =>
    constructor
    · intro h; cases h
    · rintro ⟨⟩

theorem DocumentBlock.isSeparator_iff {v : Json} :
    isSeparator v = true ↔ ∃ fs, v = .object fs ∧ fs.lookup "separator" = some (.bool true) := by
  cases v with
  | object fs => simp [isSeparator, Json.bind_asBool?_eq_some_iff]
  | _ => simp [isSeparator]

theorem DocumentBlock.ofJson_eq_ok_iff {v : Json} {b : DocumentBlock} :
    DocumentBlock.ofJson v = .ok b ↔ DocumentBlock.Denotes v b := by
  unfold ofJson
  split
  · rename_i h
    obtain ⟨fs, rfl, hs⟩ := isSeparator_iff.1 h
    constructor
    · intro h; cases h; exact .separator hs
    · intro h
      cases h with
      | separator => rfl
      | text hno => exact absurd hs (hno fs rfl)
  · rename_i h
    rw [isSeparator_iff] at h
    rw [Except.map_eq_ok_iff]
    constructor
    · rintro ⟨b, hb, rfl⟩
      exact .text (fun fs hv hs => h ⟨fs, hv, hs⟩) (TextBlock.ofJson_eq_ok_iff.1 hb)
    · intro hb
      cases hb with
      | separator hs => exact absurd ⟨_, rfl, hs⟩ h
      | text _ hb => exact ⟨_, TextBlock.ofJson_eq_ok_iff.2 hb, rfl⟩

theorem DocumentBlock.mapM_ofJson_eq_ok_iff {vs : List Json} {bs : List DocumentBlock} :
    vs.mapM ofJson = .ok bs ↔ List.Forall₂ Denotes vs bs := by
  have hrel : (fun v b => ofJson v = .ok b) = Denotes :=
    funext₂ fun _ _ => propext ofJson_eq_ok_iff
  rw [Except.mapM_eq_ok_iff, hrel]

/-! ### Records of columns -/

theorem null_or_string_of_asOption {v : Option Json} {o : Option String}
    (h : AsOption AsString v o) : ∀ x ∈ v, x = .null ∨ ∃ s, x = .string s := by
  intro x hx
  cases h with
  | missing => cases hx
  | null => cases hx; exact .inl rfl
  | given h => cases hx; cases h; exact .inr ⟨_, rfl⟩

theorem textAt_eq_iff {v : Option Json} {o : Option String}
    (h : ∀ x ∈ v, x = .null ∨ ∃ s, x = .string s) : textAt v = o ↔ AsOption AsString v o := by
  cases v with
  | none =>
    constructor
    · rintro rfl; exact .missing
    · rintro ⟨⟩; rfl
  | some x =>
    rcases h x rfl with rfl | ⟨s, rfl⟩
    · constructor
      · rintro rfl; exact .null
      · intro h
        cases h with
        | null => rfl
        | given h => cases h
    · constructor
      · rintro rfl; exact .given (.of s)
      · rintro (_ | _ | ⟨⟨⟩⟩); rfl

/-- Optional texts are read from an object if under each name there is a text or `null`. -/
theorem ofFields?_optionalText {names : List String} (hnames : names.Nodup)
    {fs : List (String × Json)} {found : List (Option Json)} :
    Shape.ofFields? (names.map .optionalText) fs = .ok found ↔
      (∀ n ∈ names, ∀ f ∈ fs, f.1 = n → f.2 = .null ∨ ∃ s, f.2 = .string s) ∧
        found = names.map fun n => fs.lookup n := by
  have hid : (names.map Shape.Column.optionalText).map (·.name) = names := by
    rw [List.map_map]
    exact List.map_id names
  rw [Shape.ofFields?_eq_ok_iff (by rwa [hid]), List.forall_mem_map, List.forall_mem_map,
    List.map_map]
  simp only [Shape.Column.optionalText_mismatch_eq_none_iff]
  constructor
  · rintro ⟨h, -, rfl⟩; exact ⟨h, rfl⟩
  · rintro ⟨h, rfl⟩
    exact ⟨h, fun n _ hr => Bool.noConfusion hr, rfl⟩

/-- Texts under their names are what the columns of the names hold. -/
theorem forall_textUnder_iff {texts : List (String × Option String)} {fs : List (String × Json)} :
    (∀ t ∈ texts, TextUnder fs t.1 t.2) ↔
      (∀ n ∈ texts.map (·.1), ∀ f ∈ fs, f.1 = n → f.2 = .null ∨ ∃ s, f.2 = .string s) ∧
        (texts.map (·.1)).map (fun n => textAt (fs.lookup n)) = texts.map (·.2) := by
  have hlookup {n : String} (h : ∀ f ∈ fs, f.1 = n → f.2 = .null ∨ ∃ s, f.2 = .string s) :
      ∀ x ∈ fs.lookup n, x = .null ∨ ∃ s, x = .string s := by
    intro x hx
    exact h (n, x) (Entries.mem_of_lookup hx) rfl
  rw [List.forall_mem_map, List.map_map, List.map_inj_left]
  constructor
  · exact fun h => ⟨fun t ht => (h t ht).1,
      fun t ht => (textAt_eq_iff (hlookup (h t ht).1)).2 (h t ht).2⟩
  · exact fun ⟨h, h'⟩ t ht => ⟨h t ht, (textAt_eq_iff (hlookup (h t ht))).1 (h' t ht)⟩

namespace Customer

theorem ofTexts_texts (c : Customer) : ofTexts (c.texts.map (·.2)) = c := rfl

theorem ofJson_eq_ok_iff {v : Json} {c : Customer} : ofJson v = .ok c ↔ Denotes v c := by
  have hnames : c.texts.map (·.1) = (({} : Customer).texts.map (·.1)) := rfl
  have hcolumns : columns = (({} : Customer).texts.map (·.1)).map .optionalText := rfl
  simp only [ofJson, Except.bind_eq_ok_iff, objectFor_eq_ok_iff]
  constructor
  · rintro ⟨fs, rfl, h⟩
    split at h
    · rename_i found hfound
      rw [Shape.columns?, hcolumns, ofFields?_optionalText (by decide)] at hfound
      obtain ⟨hform, rfl⟩ := hfound
      cases h
      refine .of (forall_textUnder_iff.2 ?_)
      rw [List.map_map]
      refine ⟨hform, ?_⟩
      rfl
    · cases h
  · rintro ⟨h⟩
    rename_i fs
    obtain ⟨hform, htexts⟩ := forall_textUnder_iff.1 h
    rw [hnames] at hform htexts
    have hfound := (ofFields?_optionalText (by decide)).2 ⟨hform, rfl⟩
    refine ⟨fs, rfl, ?_⟩
    rw [Shape.columns?, hcolumns, hfound]
    show Except.ok (ofTexts _) = _
    rw [List.map_map]
    exact congrArg Except.ok ((congrArg ofTexts htexts).trans (ofTexts_texts c))

end Customer

theorem Seller.ofJson_eq_ok_iff {v : Json} {s : Seller} :
    Seller.ofJson v = .ok s ↔ ∃ fs, v = .object fs ∧ TextUnder fs "email" s.email := by
  have htexts (fs : List (String × Json)) :=
    @forall_textUnder_iff [("email", s.email)] fs
  simp only [List.forall_mem_singleton, List.map_cons, List.map_nil, List.cons.injEq, and_true]
    at htexts
  simp only [ofJson, Except.bind_eq_ok_iff, objectFor_eq_ok_iff, htexts]
  refine exists_congr fun fs => and_congr_right fun hv => ?_
  subst hv
  rw [Shape.columns?, show [Shape.Column.optionalText "email"] = ["email"].map .optionalText from rfl]
  constructor
  · intro h
    split at h
    · rename_i found hfound
      rw [ofFields?_optionalText (by decide), List.forall_mem_singleton] at hfound
      obtain ⟨hform, rfl⟩ := hfound
      cases h
      exact ⟨hform, rfl⟩
    · cases h
  · rintro ⟨hform, he⟩
    have hfound := (ofFields?_optionalText (by decide)).2 ⟨List.forall_mem_singleton.2 hform, rfl⟩
    rw [hfound]
    exact congrArg (fun e => Except.ok (⟨e⟩ : Seller)) he

/-! ### Payments -/

namespace ElectronicInfo

/-- What the columns hold is the record, if the first two hold a number and a text. -/
theorem ofColumns_eq_iff {i : ElectronicInfo} {n : Int} {id : String} {addInfo : Option Json}
    (hn : 0 ≤ n ∧ n < UInt32.size) (h : ∀ x ∈ addInfo, x = .null ∨ ∃ s, x = .string s) :
    ofColumns [some (.number (.int n)), some (.string id), addInfo] = i ↔
      n = i.method.toNat ∧ id = i.id ∧ AsOption AsString addInfo i.addInfo := by
  have hword : n.toNat.toUInt32 = i.method ↔ n = i.method.toNat := by
    have hlt : n.toNat < UInt32.size := (Int.toNat_lt hn.1).2 hn.2
    rw [← UInt32.toNat_inj, Nat.toUInt32_eq, UInt32.toNat_ofNat_of_lt' hlt]
    have hpos := hn.1
    omega
  rw [← textAt_eq_iff h, ← hword]
  obtain ⟨method, id', addInfo'⟩ := i
  exact ElectronicInfo.mk.injEq .. ▸ Iff.rfl

theorem columns?_object {fs : List (String × Json)} {found : List (Option Json)} :
    Shape.columns? "ElectroPaymentInfo" columns (.object fs) = .ok found ↔
      (∀ f ∈ fs, f.1 = "method" → ∃ n : Int, f.2 = .number (.int n) ∧ 0 ≤ n ∧ n < UInt32.size) ∧
        (∀ f ∈ fs, f.1 = "id" → ∃ s, f.2 = .string s) ∧
        (∀ f ∈ fs, f.1 = "addInfo" → f.2 = .null ∨ ∃ s, f.2 = .string s) ∧
        (fs.lookup "method").isSome ∧ (fs.lookup "id").isSome ∧
        found = [fs.lookup "method", fs.lookup "id", fs.lookup "addInfo"] := by
  rw [Shape.columns?, Shape.ofFields?_eq_ok_iff (by decide)]
  simp only [columns, List.forall_mem_cons, List.not_mem_nil, false_imp_iff, forall_true_iff,
    and_true, Shape.Column.word_mismatch_eq_none_iff, Shape.Column.text_mismatch_eq_none_iff,
    Shape.Column.optionalText_mismatch_eq_none_iff]
  constructor
  · rintro ⟨⟨hm, hi, ha⟩, ⟨hm', hi', -⟩, rfl⟩
    exact ⟨hm, hi, ha, hm' rfl, hi' rfl, rfl⟩
  · rintro ⟨hm, hi, ha, hm', hi', rfl⟩
    exact ⟨⟨hm, hi, ha⟩, ⟨fun _ => hm', fun _ => hi', fun h => Bool.noConfusion h⟩, rfl⟩

theorem columns?_array {vs : List Json} {found : List (Option Json)} :
    Shape.columns? "ElectroPaymentInfo" columns (.array vs) = .ok found ↔
      ∃ (n : Int) (id : String) (addInfo : Option Json),
        vs = .number (.int n) :: .string id :: addInfo.toList ∧ (0 ≤ n ∧ n < UInt32.size) ∧
          (∀ x ∈ addInfo, x = .null ∨ ∃ s, x = .string s) ∧
          found = [some (.number (.int n)), some (.string id), addInfo] := by
  rw [Shape.columns?, Except.bind_eq_ok_iff]
  constructor
  · rintro ⟨found', h, hend⟩
    simp only at hend
    split at hend
    · cases hend
    rename_i hlen
    cases hend
    match vs with
    | [] => cases h
    | [m] =>
      obtain ⟨-, _, h', -⟩ := Shape.ofItems?_cons_cons_eq_ok_iff.1 h
      cases h'
    | m :: id :: rest =>
      obtain ⟨hm, _, h₁, rfl⟩ := Shape.ofItems?_cons_cons_eq_ok_iff.1 h
      obtain ⟨hid, _, h₂, rfl⟩ := Shape.ofItems?_cons_cons_eq_ok_iff.1 h₁
      obtain ⟨n, rfl, hn⟩ := Shape.Column.word_mismatch_eq_none_iff.1 hm
      obtain ⟨id, rfl⟩ := Shape.Column.text_mismatch_eq_none_iff.1 hid
      match rest with
      | [] =>
        cases h₂
        exact ⟨n, id, none, rfl, hn, nofun, rfl⟩
      | [x] =>
        obtain ⟨hx, _, h₃, rfl⟩ := Shape.ofItems?_cons_cons_eq_ok_iff.1 h₂
        cases h₃
        refine ⟨n, id, some x, rfl, hn, ?_, rfl⟩
        rintro _ ⟨⟩
        exact Shape.Column.optionalText_mismatch_eq_none_iff.1 hx
      | x :: y :: rest => exact absurd (Nat.lt_add_left rest.length (by decide : 3 < 4)) hlen
  · rintro ⟨n, id, addInfo, rfl, hn, hform, rfl⟩
    refine ⟨_, Shape.ofItems?_cons_cons_eq_ok_iff.2 ⟨?_, _,
      Shape.ofItems?_cons_cons_eq_ok_iff.2 ⟨?_, [addInfo], ?_, rfl⟩, rfl⟩, ?_⟩
    · exact Shape.Column.word_mismatch_eq_none_iff.2 ⟨n, rfl, hn⟩
    · exact Shape.Column.text_mismatch_eq_none_iff.2 ⟨id, rfl⟩
    · cases addInfo with
      | none => rfl
      | some x =>
        refine Shape.ofItems?_cons_cons_eq_ok_iff.2 ⟨?_, _, rfl, rfl⟩
        exact Shape.Column.optionalText_mismatch_eq_none_iff.2 (hform x rfl)
    · cases addInfo <;> rfl

theorem ofJson_eq_ok_iff {v : Json} {i : ElectronicInfo} : ofJson v = .ok i ↔ Denotes v i := by
  have hok : ofJson v = .ok i ↔
      ∃ found, Shape.columns? "ElectroPaymentInfo" columns v = .ok found ∧ ofColumns found = i := by
    unfold ofJson
    cases Shape.columns? "ElectroPaymentInfo" columns v <;> simp
  rw [hok]
  cases v with
  | object fs =>
    simp only [columns?_object]
    constructor
    · rintro ⟨_, ⟨hm, hi, ha, hm', hi', rfl⟩, h⟩
      obtain ⟨m, hml⟩ := Option.isSome_iff_exists.1 hm'
      obtain ⟨id, hil⟩ := Option.isSome_iff_exists.1 hi'
      obtain ⟨n, rfl, hn⟩ := hm _ (Entries.mem_of_lookup hml) rfl
      obtain ⟨id, rfl⟩ := hi _ (Entries.mem_of_lookup hil) rfl
      rw [hml, hil, ofColumns_eq_iff hn fun x hx => ha _ (Entries.mem_of_lookup hx) rfl] at h
      obtain ⟨rfl, rfl, h⟩ := h
      exact .object hm hml hi hil ⟨ha, h⟩
    · intro h
      cases h with
      | object hm hml hi hil ha =>
        refine ⟨_, ⟨hm, hi, ha.1, by rw [hml]; rfl, by rw [hil]; rfl, rfl⟩, ?_⟩
        rw [hml, hil]
        exact (ofColumns_eq_iff i.method_bounds fun x hx => ha.1 _ (Entries.mem_of_lookup hx) rfl).2
          ⟨rfl, rfl, ha.2⟩
  | array vs =>
    simp only [columns?_array]
    constructor
    · rintro ⟨_, ⟨n, id, addInfo, rfl, hn, ha, rfl⟩, h⟩
      obtain ⟨rfl, rfl, hinfo⟩ := (ofColumns_eq_iff hn ha).1 h
      exact .array hinfo
    · intro h
      cases h with
      | @array _ addInfo ha =>
        have hform := null_or_string_of_asOption ha
        exact ⟨_, ⟨_, _, addInfo, rfl, i.method_bounds, hform, rfl⟩,
          (ofColumns_eq_iff i.method_bounds hform).2 ⟨rfl, rfl, ha⟩⟩
  | _ =>
    constructor
    · rintro ⟨_, h, -⟩; cases h
    · rintro ⟨⟩

end ElectronicInfo

theorem Payment.sumAt_eq_ok_iff {fs : List (String × Json)} {o : Option Float} :
    sumAt fs = .ok o ↔ SumDenotes (fs.lookup "sum") o := by
  unfold sumAt present?
  cases fs.lookup "sum" with
  | none =>
    constructor
    · intro h; cases h; exact .missing
    · rintro ⟨⟩; rfl
  | some v =>
    cases v with
    | null =>
      constructor
      · intro h; cases h; exact .null
      · rintro ⟨⟩; rfl
    | number n =>
      constructor
      · intro h; cases h; exact .amount n
      · rintro ⟨⟩; rfl
    | string s =>
      simp only [asString?, Option.some.injEq]
      split
      · rename_i hs
        subst hs
        constructor
        · intro h; cases h; exact .auto
        · rintro ⟨⟩; rfl
      · rename_i hs
        constructor
        · intro h; cases h
        · rintro ⟨⟩; exact absurd rfl hs
    | _ =>
      constructor
      · intro h; cases h
      · rintro ⟨⟩

theorem Payment.typeAt_eq_ok_iff {fs : List (String × Json)} {type : PaymentType} :
    typeAt fs = .ok type ↔ fs.lookup "type" = some (.string (Token.token type)) := by
  have hsome : (fs.lookup "type").getD .null = .string (Token.token type) ↔
      fs.lookup "type" = some (.string (Token.token type)) := by
    cases fs.lookup "type" <;> simp
  have hcast : Token.cast ((fs.lookup "type").getD .null) false = .ok (some type) ↔ _ :=
    Token.cast_eq_some_iff
  rw [typeAt, Except.bind_eq_ok_iff, ← hsome, ← hcast]
  constructor
  · rintro ⟨o, ho, h⟩
    cases o with
    | none => cases h
    | some t => cases h; exact ho
  · exact fun h => ⟨_, h, rfl⟩

/-- The record of an electronic payment that comes with a payment, if there is one. -/
theorem Payment.exists_info_iff {fs : List (String × Json)} {o : Option ElectronicInfo} :
    AsOption ElectronicInfo.Denotes (fs.lookup "electroPaymentInfo") o ↔
      match present? fs "electroPaymentInfo" with
      | none => o = none
      | some v => ∃ i, ElectronicInfo.Denotes v i ∧ o = some i :=
  asOption_iff nofun

theorem Payment.make_withInfo_none {type : PaymentType} {sum : Option Float} {p : Payment}
    (h : make type sum = .ok p) : p.withInfo none = p := by
  obtain ⟨ok, rfl⟩ := make_eq_ok_iff.1 h
  rfl

theorem Payment.ofJson_object {fs : List (String × Json)} {type : PaymentType}
    {sum : Option Float} {o : Option ElectronicInfo}
    (htype : fs.lookup "type" = some (.string (Token.token type)))
    (hsum : SumDenotes (fs.lookup "sum") sum)
    (hinfo : AsOption ElectronicInfo.Denotes (fs.lookup "electroPaymentInfo") o) :
    ofJson (.object fs) = (make type sum).map (·.withInfo o) := by
  have ht := typeAt_eq_ok_iff.2 htype
  have hs := sumAt_eq_ok_iff.2 hsum
  rw [exists_info_iff] at hinfo
  simp only [ofJson, objectFor, ht, hs, bind, Except.bind]
  cases hm : make type sum with
  | error e => rfl
  | ok p =>
    simp only
    split
    · rename_i v hv
      rw [hv] at hinfo
      obtain ⟨i, hi, rfl⟩ := hinfo
      simp only [ElectronicInfo.ofJson_eq_ok_iff.2 hi]
      rfl
    · rename_i hv
      rw [hv] at hinfo
      subst hinfo
      exact congrArg Except.ok (make_withInfo_none hm).symm

theorem Payment.exists_of_ofJson {v : Json} {p : Payment} (h : ofJson v = .ok p) :
    ∃ fs type sum base o, v = .object fs ∧ fs.lookup "type" = some (.string (Token.token type)) ∧
      SumDenotes (fs.lookup "sum") sum ∧ make type sum = .ok base ∧
      AsOption ElectronicInfo.Denotes (fs.lookup "electroPaymentInfo") o := by
  obtain ⟨fs, hv, h⟩ := Except.bind_eq_ok_iff.1 h
  obtain ⟨type, htype, h⟩ := Except.bind_eq_ok_iff.1 h
  obtain ⟨sum, hsum, h⟩ := Except.bind_eq_ok_iff.1 h
  obtain ⟨base, hbase, h⟩ := Except.bind_eq_ok_iff.1 h
  have hinfo : ∃ o, AsOption ElectronicInfo.Denotes (fs.lookup "electroPaymentInfo") o := by
    simp only [exists_info_iff]
    split at h
    · obtain ⟨i, hi, -⟩ := Except.bind_eq_ok_iff.1 h
      rename_i hv'
      rw [hv']
      exact ⟨some i, i, ElectronicInfo.ofJson_eq_ok_iff.1 hi, rfl⟩
    · rename_i hv'
      rw [hv']
      exact ⟨none, rfl⟩
  obtain ⟨o, ho⟩ := hinfo
  exact ⟨fs, type, sum, base, o, objectFor_eq_ok_iff.1 hv, typeAt_eq_ok_iff.1 htype,
    sumAt_eq_ok_iff.1 hsum, hbase, ho⟩

end Till
