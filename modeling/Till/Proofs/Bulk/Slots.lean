import Till.Proofs.Bulk.Reading
import Till.Proofs.Kind.BulkKey

/-!
# Values under slots

A value that a slot accepts denotes calls (`Slot.exists_denotes`), and only one list of them
(`Slot.Denotes.det`); and whatever the calls do one after another, the slot does at once
(`Slot.Denotes.runAll_eq`).
-/

namespace Till
open Json

namespace Call
variable {w : World}

/-- The calls that set a slot from a checked write. -/
theorem runAll_set {s : Setter} {x : Checked Write} (h : s.accept = x) (state : Job × Trace) :
    runAll w [.set s] state = x.lift.map fun x => (Effect.write x).run w state := by
  subst h
  rw [runAll_singleton, run_eq, accept]
  cases s.accept <;> rfl

theorem runAll_pushItem (is : List Item) (state : Job × Trace) :
    runAll w (is.map fun i => .set (.pushItem i)) state =
      .ok ((Effect.write (.items is)).run w state) := by
  induction is generalizing state with
  | nil => rfl
  | cons i is ih => exact ih _

theorem runAll_documentBlock (bs : List DocumentBlock) (state : Job × Trace) :
    runAll w (bs.map fun b => .set (.documentBlock b)) state =
      .ok ((Effect.write (.document bs)).run w state) := by
  induction bs generalizing state with
  | nil => rfl
  | cons b bs ih => exact ih _

end Call

namespace Slot.Denotes
variable {w : World} {s : Slot} {v : Json} {calls calls' : List Call}

/-- What the calls do one after another, the value does at once. -/
theorem runAll_eq (h : s.Denotes v calls) (state : Job × Trace) :
    Call.runAll w calls state =
      (s.accept v).lift.map fun x => (Effect.write x).run w state := by
  cases h with
  | operator hname hinn =>
    refine Call.runAll_set ?_ state
    rw [accept, Operator.ofJson_object hname hinn]
    rfl
  | @cashSum v x h =>
    refine Call.runAll_set ?_ state
    have hx : v.floatFor "cashSum" = .ok x := floatFor_eq_ok_iff.2 h
    simp only [accept, hx]
    rfl
  | @items vs is h =>
    have hread := Item.mapM_ofJson_eq_ok_iff.2 h
    rw [Call.runAll_pushItem]
    simp only [accept, arrayFor, hread, bind, Except.bind]
    rfl
  | tax h =>
    cases h
    refine Call.runAll_set ?_ state
    rw [accept, Token.cast_eq_some_iff.2 rfl]
    rfl
  | noTax => rfl
  | @payment fs type sum htype hsum hinfo =>
    refine Call.runAll_set ?_ state
    rw [accept, Payment.ofJson_object htype hsum hinfo]
    show (do return Write.payment (← Payment.make type sum)) = _
    cases hm : Payment.make type sum with
    | error e => rfl
    | ok p => exact congrArg (fun p => Except.ok (Write.payment p)) (Payment.make_withInfo_none hm).symm
  | paymentRecord htype hsum hp hinfo =>
    refine Call.runAll_set ?_ state
    rw [accept, Payment.ofJson_object htype hsum hinfo, hp]
    rfl
  | customer h =>
    refine Call.runAll_set ?_ state
    rw [accept, Customer.ofJson_eq_ok_iff.2 h]
    rfl
  | @seller fs email h =>
    -- an empty text is written as little as a missing one
    have hwritten : (⟨some (email.getD "")⟩ : Seller).toJson = (⟨email⟩ : Seller).toJson := by
      cases email <;> rfl
    rw [Call.runAll_set rfl, accept, Seller.ofJson_eq_ok_iff.2 ⟨fs, rfl, h⟩]
    exact congrArg (fun v : Json =>
      Except.ok ({ state.1 with details := state.1.details.insert "seller" v }, state.2)) hwritten
  | text h =>
    refine Call.runAll_set ?_ state
    rw [accept, TextBlock.ofJson_eq_ok_iff.2 h]
    rfl
  | flag h =>
    refine Call.runAll_set ?_ state
    rw [accept, boolFor_eq_ok_iff.2 h]
    rfl
  | @document vs bs h =>
    have hread := DocumentBlock.mapM_ofJson_eq_ok_iff.2 h
    rw [Call.runAll_documentBlock]
    simp only [accept, arrayFor, hread, bind, Except.bind]
    rfl
  | connParams h =>
    refine Call.runAll_set ?_ state
    rw [accept, stringFor_eq_ok_iff.2 h]
    rfl

end Slot.Denotes

/-! ### One list of calls -/

namespace Slot

/-- A value that is accepted denotes calls. -/
theorem exists_denotes {s : Slot} {v : Json} {x : Write} (h : s.accept v = .ok x) :
    ∃ calls, s.Denotes v calls := by
  cases s with
  | operator =>
    obtain ⟨o, ho, -⟩ := Except.map_eq_ok_iff.1 h
    obtain ⟨fs, name, inn, rfl, hname, hinn⟩ := Operator.exists_of_ofJson ho
    exact ⟨_, .operator hname hinn⟩
  | cashSum =>
    obtain ⟨y, hy, -⟩ := Except.bind_eq_ok_iff.1 h
    exact ⟨_, .cashSum (floatFor_eq_ok_iff.1 hy)⟩
  | items =>
    obtain ⟨vs, hv, h⟩ := Except.bind_eq_ok_iff.1 h
    obtain ⟨is, his, -⟩ := Except.bind_eq_ok_iff.1 h
    cases arrayFor_eq_ok_iff.1 hv
    exact ⟨_, .items (Item.mapM_ofJson_eq_ok_iff.1 his)⟩
  | tax =>
    obtain ⟨t, ht, -⟩ := Except.map_eq_ok_iff.1 h
    cases t with
    | none =>
      cases Token.cast_eq_none_iff.1 ht
      exact ⟨_, .noTax⟩
    | some t =>
      cases Token.cast_eq_some_iff.1 ht
      exact ⟨_, .tax (.of t)⟩
  | payment =>
    obtain ⟨p, hp, -⟩ := Except.map_eq_ok_iff.1 h
    obtain ⟨fs, type, sum, base, o, rfl, htype, hsum, hbase, ho⟩ := Payment.exists_of_ofJson hp
    cases o with
    | none => exact ⟨_, .payment htype hsum ho⟩
    | some i => exact ⟨_, .paymentRecord htype hsum hbase ho⟩
  | customer =>
    obtain ⟨c, hc, -⟩ := Except.map_eq_ok_iff.1 h
    exact ⟨_, .customer (Customer.ofJson_eq_ok_iff.1 hc)⟩
  | seller =>
    obtain ⟨s, hs, -⟩ := Except.map_eq_ok_iff.1 h
    obtain ⟨fs, rfl, hemail⟩ := Seller.ofJson_eq_ok_iff.1 hs
    exact ⟨_, .seller hemail⟩
  | text slot =>
    obtain ⟨b, hb, -⟩ := Except.map_eq_ok_iff.1 h
    exact ⟨_, .text (TextBlock.ofJson_eq_ok_iff.1 hb)⟩
  | flag f =>
    obtain ⟨b, hb, -⟩ := Except.map_eq_ok_iff.1 h
    exact ⟨_, .flag (boolFor_eq_ok_iff.1 hb)⟩
  | document =>
    obtain ⟨vs, hv, h⟩ := Except.bind_eq_ok_iff.1 h
    obtain ⟨bs, hbs, -⟩ := Except.bind_eq_ok_iff.1 h
    cases arrayFor_eq_ok_iff.1 hv
    exact ⟨_, .document (DocumentBlock.mapM_ofJson_eq_ok_iff.1 hbs)⟩
  | connParams =>
    obtain ⟨t, ht, -⟩ := Except.map_eq_ok_iff.1 h
    exact ⟨_, .connParams (stringFor_eq_ok_iff.1 ht)⟩

end Slot

theorem Json.AsOption.det {α : Type} {R : Json → α → Prop} {o : Option Json} {x y : Option α}
    (hx : AsOption R o x) (hy : AsOption R o y) (hnull : ∀ a, ¬ R .null a)
    (hR : ∀ v a b, R v a → R v b → a = b) : x = y := by
  cases hx with
  | missing => cases hy; rfl
  | null =>
    cases hy with
    | null => rfl
    | given h => exact absurd h (hnull _)
  | given h =>
    cases hy with
    | null => exact absurd h (hnull _)
    | given h' => rw [hR _ _ _ h h']

theorem Json.AsString.det {v : Json} {s s' : String} (h : AsString v s) (h' : AsString v s') :
    s = s' := by
  cases h; cases h'; rfl

theorem Payment.SumDenotes.det {o : Option Json} {x y : Option Float} (hx : SumDenotes o x)
    (hy : SumDenotes o y) : x = y := by
  cases hx <;> cases hy <;> rfl

theorem Payment.type_det {o : Option Json} {type type' : PaymentType}
    (h : o = some (.string (Token.token type))) (h' : o = some (.string (Token.token type'))) :
    type = type' :=
  Token.token_injective (string.inj (Option.some.inj (h.symm.trans h')))

/-- The calls of a value are fixed by it. -/
theorem Slot.Denotes.det {s : Slot} {v : Json} {calls calls' : List Call} (h : s.Denotes v calls)
    (h' : s.Denotes v calls') : calls = calls' := by
  have hread {α : Type} {x y : α} {r : Checked α} (hx : r = .ok x) (hy : r = .ok y) : x = y :=
    Except.ok.inj (hx.symm.trans hy)
  have hstring {o : Option Json} {x y : Option String} (hx : AsOption AsString o x)
      (hy : AsOption AsString o y) : x = y :=
    hx.det hy nofun fun _ _ _ => AsString.det
  have hinfo {o : Option Json} {x y : Option ElectronicInfo}
      (hx : AsOption ElectronicInfo.Denotes o x) (hy : AsOption ElectronicInfo.Denotes o y) : x = y :=
    hx.det hy nofun fun _ _ _ h h' => hread (ElectronicInfo.ofJson_eq_ok_iff.2 h)
      (ElectronicInfo.ofJson_eq_ok_iff.2 h')
  cases h with
  | operator hname hinn =>
    cases h' with
    | operator hname' hinn' =>
      cases hname.symm.trans hname'
      rw [hstring hinn hinn']
  | cashSum h =>
    cases h' with
    | cashSum h' => cases h; cases h'; rfl
  | items h =>
    cases h' with
    | items h' =>
      rw [hread (Item.mapM_ofJson_eq_ok_iff.2 h) (Item.mapM_ofJson_eq_ok_iff.2 h')]
  | tax h =>
    cases h' with
    | tax h' =>
      rw [Token.token_injective (string.inj ((asToken_iff.1 h).symm.trans (asToken_iff.1 h')))]
    | noTax => cases h
  | noTax =>
    cases h' with
    | tax h' => cases h'
    | noTax => rfl
  | payment htype hsum ho =>
    cases h' with
    | payment htype' hsum' _ => rw [Payment.type_det htype htype', hsum.det hsum']
    | paymentRecord _ _ _ ho' => cases hinfo ho ho'
  | paymentRecord htype hsum hp ho =>
    cases h' with
    | payment _ _ ho' => cases hinfo ho ho'
    | paymentRecord htype' hsum' hp' ho' =>
      rw [Payment.type_det htype htype', hsum.det hsum'] at hp
      cases hread hp hp'
      cases hinfo ho ho'
      rfl
  | customer h =>
    cases h' with
    | customer h' =>
      rw [hread (Customer.ofJson_eq_ok_iff.2 h) (Customer.ofJson_eq_ok_iff.2 h')]
  | seller h =>
    cases h' with
    | seller h' => rw [hstring h.2 h'.2]
  | @text slot v b h =>
    cases h' with
    | text h' =>
      have hb : TextBlock.ofJson "" v = .ok b := TextBlock.ofJson_eq_ok_iff.2 h
      rw [hread hb (TextBlock.ofJson_eq_ok_iff.2 h')]
  | flag h =>
    cases h' with
    | flag h' => cases h; cases h'; rfl
  | document h =>
    cases h' with
    | document h' =>
      rw [hread (DocumentBlock.mapM_ofJson_eq_ok_iff.2 h)
        (DocumentBlock.mapM_ofJson_eq_ok_iff.2 h')]
  | connParams h =>
    cases h' with
    | connParams h' => rw [h.det h']

end Till
