import Till.Kind.Basic

/-!
# Accepted writes

A setter, typed or read from a bulk record, first checks its arguments and then changes one key of
the details. `Write` is what is left after the check: it does not look at the details, so neither
does the verdict. As an update a setter is its check and then one write (`Setter.apply_eq`,
`Slot.write_eq`), and so a refused one has changed nothing (`Setter.on_apply_of_refused`,
`Slot.on_write_of_refused`). What a write leaves under its key depends on what stood there
(`Write.after`), and nothing else changes (`Write.get?_run`).
-/

namespace Till

/-- What a setter says once its arguments have passed their checks. -/
inductive Write
  | operator (o : Operator)
  | cashSum (x : Float) (ok : Limits.checkCashSum x = .ok ())
  | items (is : List Item)
  | tax (t : Option Tax)
  | payment (p : Payment)
  | customer (c : Customer)
  | seller (s : Seller)
  | text (slot : TextSlot) (b : TextBlock)
  | flag (f : Flag) (b : Bool)
  | document (bs : List DocumentBlock)
  | connParams (s : String)
  | padding (s : String)

namespace Details

/-- The fields of the object under a key, none if something else or nothing is there. -/
def fieldsOf : Option Json → List (String × Json)
  | some (.object fs) => fs
  | _ => []

/-- The values of the list under a key, none if something else or nothing is there. -/
def valuesOf : Option Json → List Json
  | some (.array vs) => vs
  | _ => []

theorem listAt_eq (d : Details) (key : String) : d.listAt key = valuesOf (d.get? key) := by
  unfold listAt valuesOf
  split <;> simp_all

theorem listAt_append (d : Details) (key : String) (v : Json) :
    (d.append key v).listAt key = d.listAt key ++ [v] := by
  simp [append, listAt_eq, valuesOf]

theorem foldl_append (d : Details) (key : String) (vs : List Json) :
    vs.foldl (fun d v => d.append key v) d =
      if vs = [] then d else d.insert key (.array (d.listAt key ++ vs)) := by
  induction vs generalizing d with
  | nil => rfl
  | cons v vs ih =>
    rw [List.foldl_cons, ih, listAt_append]
    split
    · rename_i hvs
      simp [hvs, append]
    · refine ext_get? fun k => ?_
      by_cases hk : k = key <;> simp [append, hk]

/-- The details with the items at the end of their list. -/
def pushItems (d : Details) (is : List Item) : Details :=
  is.foldl pushItem d

def pushDocumentBlocks (d : Details) (bs : List DocumentBlock) : Details :=
  bs.foldl pushDocumentBlock d

theorem pushItems_eq (d : Details) (is : List Item) :
    d.pushItems is = (is.map Item.toJson).foldl (fun d v => d.append "items" v) d := by
  rw [List.foldl_map]; rfl

theorem pushDocumentBlocks_eq (d : Details) (bs : List DocumentBlock) :
    d.pushDocumentBlocks bs =
      (bs.map DocumentBlock.toJson).foldl (fun d v => d.append "document" v) d := by
  rw [List.foldl_map]; rfl

end Details

namespace Write
open Details

/-- The one key that the write touches. -/
def key : Write → String
  | operator _ => "operator"
  | cashSum _ _ => "cashSum"
  | items _ => "items"
  | tax _ => "tax"
  | payment _ => "payment"
  | customer _ => "customer"
  | seller _ => "seller"
  | text slot _ => slot.key
  | flag f _ => f.key
  | document _ => "document"
  | connParams _ => "connParams"
  | padding _ => "*padding*"

def run : Write → Details → Details
  | operator o, d => d.setOperator o
  | cashSum x _, d => d.insert "cashSum" (.ofFloat x)
  | items is, d => d.pushItems is
  | tax (some t), d => d.setTax t
  | tax none, d => d.clearTax
  | payment p, d => d.setPayment p
  | customer c, d => d.mergeCustomer c
  | seller s, d => d.setSeller s
  | text slot b, d => d.setText slot b
  | flag f b, d => d.setFlag f.key b
  | document bs, d => d.pushDocumentBlocks bs
  | connParams s, d => d.setConnParams s
  | padding s, d => d.setPadding s

/-- A list with values at its end; without values there need not be a list. -/
def appended (vs : List Json) (before : Option Json) : Option Json :=
  if vs = [] then before else some (.array (valuesOf before ++ vs))

/-- What stands under the key of the write afterwards, by what stood there before. -/
def after : Write → Option Json → Option Json
  | operator o, _ => some o.toJson
  | cashSum x _, _ => some (.ofFloat x)
  | items is, before => appended (is.map Item.toJson) before
  | tax t, _ => t.map Token.toJson
  | payment p, _ => some p.toJson
  | customer c, before =>
    if c.fields = [] then before else some (.object (Entries.insertAll (fieldsOf before) c.fields))
  | seller s, _ => some s.toJson
  | text _ b, _ => if b.isEmpty then none else some b.toJson
  | flag _ b, _ => some (.bool b)
  | document bs, before => appended (bs.map DocumentBlock.toJson) before
  | connParams s, _ => some (.string s)
  | padding s, _ => some (.string s)

/-- What stands under the key of writes after all of them. -/
def afterAll (xs : List Write) (before : Option Json) : Option Json :=
  xs.foldl (fun v x => x.after v) before

theorem get?_foldl_append (d : Details) (key k : String) (vs : List Json) :
    (vs.foldl (fun d v => d.append key v) d).get? k =
      if k = key then appended vs (d.get? k) else d.get? k := by
  rw [foldl_append, appended]
  split
  · simp
  · rw [get?_insert, listAt_eq]
    split
    · rename_i hk; rw [hk]
    · rfl

theorem get?_mergeCustomer (d : Details) (c : Customer) (k : String) :
    (d.mergeCustomer c).get? k =
      if k = "customer" then (customer c).after (d.get? k) else d.get? k := by
  unfold mergeCustomer
  cases hc : c.fields with
  | nil => simp [after, hc]
  | cons f fs =>
    simp only [List.isEmpty_cons, Bool.false_eq_true, if_false]
    have hafter : ∀ before, (customer c).after before =
        some (.object (Entries.insertAll (fieldsOf before) c.fields)) := by
      intro before; simp [after, hc]
    by_cases hk : k = "customer"
    · subst hk
      simp only [if_true, hafter, hc]
      split
      · rename_i h; simp [h, fieldsOf]
      · rename_i h
        have : fieldsOf (d.get? "customer") = [] := by
          unfold fieldsOf; split
          · exact absurd ‹_› (h _)
          · rfl
        simp [this, Customer.toJson, Entries.ofList, hc]
    · split <;> simp [hk]

/-- A write touches its own key only. -/
theorem get?_run (w : Write) (d : Details) (k : String) :
    (w.run d).get? k = if k = w.key then w.after (d.get? k) else d.get? k := by
  cases w with
  | items is => rw [run, pushItems_eq, get?_foldl_append]; rfl
  | document bs => rw [run, pushDocumentBlocks_eq, get?_foldl_append]; rfl
  | customer c => exact get?_mergeCustomer d c k
  | tax t =>
    cases t with
    | none => exact get?_erase ..
    | some t => exact get?_insert ..
  | text slot b =>
    simp only [run, key, after, setText]
    cases b.isEmpty
    · exact get?_insert ..
    · exact get?_erase ..
  | operator o => exact get?_insert ..
  | cashSum x _ => exact get?_insert ..
  | payment p => exact get?_insert ..
  | seller s => exact get?_insert ..
  | flag f b => exact get?_insert ..
  | connParams s => exact get?_insert ..
  | padding s => exact get?_insert ..

end Write

/-! ### Setters and bulk values as checked writes -/

namespace Update

/-- A check and then the write, if it is accepted. -/
def commit (c : Checked Write) : Update Unit := do
  let x ← c
  modify x.run

@[simp] theorem commit_map {α : Type} (c : Checked α) (f : α → Write) :
    commit (c.map f) = (do modify (f (← c)).run) := by
  cases c <;> rfl

@[simp] theorem commit_bind {α : Type} (c : Checked α) (f : α → Checked Write) :
    commit (c >>= f) = (do commit (f (← c))) := by
  cases c <;> rfl

/-- Nothing is written before the check. -/
theorem on_commit_of_refused {c : Checked Write} {d : Details} {e : FieldError}
    (h : ((commit c).on d).2 = .error e) : (commit c).on d = (d, .error e) := by
  cases c with
  | ok x => cases h
  | error e' => cases h; rfl

/-- To go over a list, one write for each member, is to write the whole list. -/
theorem forM_modify {α : Type} (f : Details → α → Details) (l : List α) :
    (l.forM fun a => (modify (f · a) : Update Unit)) = modify (l.foldl f ·) := by
  induction l with
  | nil => rfl
  | cons a l ih => exact congrArg (fun u => do modify (f · a); u) ih

theorem pushItems_eq (is : List Item) : pushItems is = modify (·.pushItems is) :=
  forM_modify Details.pushItem is

theorem pushDocumentBlocks_eq (bs : List DocumentBlock) :
    pushDocumentBlocks bs = modify (·.pushDocumentBlocks bs) :=
  forM_modify Details.pushDocumentBlock bs

end Update

namespace Limits

/-- The write of a cash sum, if the sum is within its limits. -/
def cashSumWrite (x : Float) : Checked Write :=
  match h : checkCashSum x with
  | .ok () => .ok (.cashSum x h)
  | .error e => .error e

theorem cashSumWrite_eq_ok_iff {x : Float} {w : Write} :
    cashSumWrite x = .ok w ↔ ∃ ok, .cashSum x ok = w := by
  unfold cashSumWrite
  split <;> rename_i h
  · exact ⟨fun he => ⟨h, Except.ok.inj he⟩, fun ⟨_, he⟩ => congrArg _ he⟩
  · exact ⟨fun he => (nomatch he), fun ⟨ok, _⟩ => by rw [ok] at h; cases h⟩

theorem setCashSum_eq (x : Float) : Update.setCashSum x = .commit (cashSumWrite x) := by
  unfold Update.setCashSum cashSumWrite
  split <;> rename_i h <;> simp only [h] <;> rfl

end Limits

/-- The write of a setter, if its arguments are accepted. -/
def Setter.accept : Setter → Checked Write
  | operator name inn => (Operator.make name inn).map .operator
  | operatorRecord o => .ok (.operator o)
  | cashSum x => Limits.cashSumWrite x
  | addItem title price quantity => (Item.make title price quantity).map fun i => .items [i]
  | addTaxedItem title price quantity named => do
    let rate ← named.resolve
    let item ← Item.make title price quantity
    return .items [item.withTax (some rate)]
  | pushItem i => .ok (.items [i])
  | pushItems is => .ok (.items is)
  | tax t => t.resolve.map fun t => .tax (some t)
  | payment named sum => do
    let type ← named.resolve
    return .payment (← Payment.make type sum)
  | paymentRecord p => .ok (.payment p)
  | customer account contact name => .ok (.customer { account, contact, name })
  | customerRecord c => .ok (.customer c)
  | sellerEmail email => .ok (.seller ⟨some email⟩)
  | text slot b => .ok (.text slot b)
  | flag f b => .ok (.flag f b)
  | documentBlock b => .ok (.document [b])
  | connParams s => .ok (.connParams s)
  | padding s => .ok (.padding s)

theorem Setter.apply_eq (s : Setter) : s.apply = .commit s.accept := by
  cases s with
  | cashSum x => exact Limits.setCashSum_eq x
  | pushItems is => exact Update.pushItems_eq is
  | operator | addItem | addTaxedItem | tax | payment =>
    simp only [apply, accept, Update.commit_map, Update.commit_bind]
    rfl
  | _ => rfl

theorem Setter.on_apply_of_refused {s : Setter} {d : Details} {e : FieldError}
    (h : (s.apply.on d).2 = .error e) : s.apply.on d = (d, .error e) := by
  rw [apply_eq] at h ⊢
  exact Update.on_commit_of_refused h

/-- The write of a value under a slot, if the value is accepted. -/
def Slot.accept (s : Slot) (v : Json) : Checked Write :=
  match s with
  | operator => (Operator.ofJson v).map .operator
  | cashSum => do Limits.cashSumWrite (← v.floatFor "cashSum")
  | items => do
    let vs ← v.arrayFor "items"
    return .items (← vs.mapM Item.ofJson)
  | tax => (Token.cast v true).map .tax
  | payment => (Payment.ofJson v).map .payment
  | customer => (Customer.ofJson v).map .customer
  | seller => (Seller.ofJson v).map .seller
  | text slot => (TextBlock.ofJson slot.key v).map (.text slot)
  | flag f => (v.boolFor f.key).map (.flag f)
  | document => do
    let vs ← v.arrayFor "document"
    return .document (← vs.mapM DocumentBlock.ofJson)
  | connParams => (v.stringFor "connParams").map .connParams

theorem Slot.write_eq (s : Slot) (v : Json) : s.write v = .commit (s.accept v) := by
  cases s with
  | cashSum => simp only [write, accept, Limits.setCashSum_eq, Update.commit_bind]
  | items =>
    simp only [write, accept, Update.pushItems_eq, Update.commit_bind]
    rfl
  | document =>
    simp only [write, accept, Update.pushDocumentBlocks_eq, Update.commit_bind]
    rfl
  | tax =>
    simp only [write, accept, Update.commit_map]
    refine congrArg (liftM (Token.cast v true : Checked (Option Tax)) >>= ·) (funext fun t => ?_)
    cases t <;> rfl
  | operator | payment | customer | seller | text | flag | connParams =>
    simp only [write, accept, Update.commit_map]
    rfl

theorem Slot.on_write_of_refused {s : Slot} {v : Json} {d : Details} {e : FieldError}
    (h : ((s.write v).on d).2 = .error e) : (s.write v).on d = (d, .error e) := by
  rw [write_eq] at h ⊢
  exact Update.on_commit_of_refused h

end Till
