import Till.Proofs.Bulk.Image

/-!
# Verdicts

Whether a setter or a bulk record is accepted hangs on what it brings itself: on its arguments and
the kind of the job, never on the details, the key or what was done before. `Setter.Valid` says it
of a setter's arguments (`Setter.exists_accept_iff`). Main statement: two jobs of a kind, whatever
they hold, give the same verdicts, and so does a job in the middle of a run (`Job.verdict_stateless`).
-/

namespace Till

/-! ### Arguments that are accepted -/

/-- The value is given as such, or by a token that is one. -/
def Named.Known {α : Type} [Token α] (n : Named α) : Prop :=
  ∃ a, n.resolve = .ok a

namespace Setter

/-- The arguments are within the limits of what is set. -/
def Valid : Setter → Prop
  | operator name _ => Text.isBlankText name = false
  | cashSum x => Limits.checkCashSum x = .ok ()
  | addItem title price quantity => Item.Within title price quantity
  | addTaxedItem title price quantity rate => rate.Known ∧ Item.Within title price quantity
  | tax rate => rate.Known
  | payment type sum => type.Known ∧ (PaymentSum.ofOption sum).check = .ok ()
  | _ => True

theorem exists_accept_iff (s : Setter) : (∃ x, s.accept = .ok x) ↔ s.Valid := by
  cases s with
  | operator name inn => exact Except.exists_map_eq_ok_iff.trans Operator.exists_make_iff
  | cashSum x =>
    simp only [accept, Limits.cashSumWrite_eq_ok_iff, Valid]
    constructor
    · rintro ⟨x, ok, -⟩
      exact ok
    · intro ok
      exact ⟨_, ok, rfl⟩
  | addItem title price quantity => exact Except.exists_map_eq_ok_iff.trans Item.exists_make_iff
  | addTaxedItem title price quantity rate =>
    simp only [accept, Except.bind_eq_ok_iff, Valid, Named.Known, ← Item.exists_make_iff]
    constructor
    · rintro ⟨x, a, ha, i, hi, -⟩
      exact ⟨⟨a, ha⟩, i, hi⟩
    · rintro ⟨⟨a, ha⟩, i, hi⟩
      exact ⟨_, a, ha, i, hi, rfl⟩
  | tax rate => exact Except.exists_map_eq_ok_iff
  | payment type sum =>
    simp only [accept, Except.bind_eq_ok_iff, Valid, Named.Known]
    constructor
    · rintro ⟨x, a, ha, p, hp, -⟩
      exact ⟨⟨a, ha⟩, Payment.exists_make_iff.1 ⟨p, hp⟩⟩
    · rintro ⟨⟨a, ha⟩, hsum⟩
      obtain ⟨p, hp⟩ := Payment.exists_make_iff.2 hsum
      exact ⟨_, a, ha, p, hp, rfl⟩
  | _ => exact iff_of_true ⟨_, rfl⟩ trivial

end Setter

/-! ### Verdicts of steps -/

namespace Job
variable {w w' : World} {j j' : Job}

theorem verdict_merge (bulk : Fields) (ignoreUnknown : Bool) (j : Job) (t : Trace) :
    (j.merge w bulk ignoreUnknown t).2 = (bulkEffects j.kind bulk ignoreUnknown).2 := by
  rw [merge_eq]

theorem verdict_set (s : Setter) (j : Job) :
    (j.set s).2 = Checked.lift (s.accept.map fun _ => ()) := by
  rw [set, Setter.apply_eq]
  cases s.accept <;> rfl

theorem set_eq_ok_iff (s : Setter) (j : Job) : (j.set s).2 = .ok () ↔ s.Valid := by
  rw [verdict_set, ← s.exists_accept_iff]
  cases s.accept with
  | ok x => exact iff_of_true rfl ⟨x, rfl⟩
  | error e =>
    refine iff_of_false nofun ?_
    rintro ⟨x, hx⟩
    cases hx

/-- A step that sends nothing answers with its own verdict. -/
theorem answer_of_not_sends {s : JobStep} (hs : s.sends = false) (j : Job) (t : Trace) :
    (j.step w s t).2 = (s.effects j.kind).2.map fun _ => none := by
  rw [step_eq]
  unfold conclude
  cases (s.effects j.kind).2 with
  | error e => rfl
  | ok => rw [hs]; rfl

theorem run_answers (hk : j'.kind = j.kind) (t' : Trace) (steps : List JobStep) (t : Trace) :
    List.Forall₂ (fun s answer => s.sends = false → answer = (j'.step w' s t').2) steps
      (run w steps j t).2 := by
  induction steps generalizing j t with
  | nil => exact .nil
  | cons s steps ih =>
    rw [run_cons]
    refine .cons (fun hs => ?_) (ih (by rw [step_kind, hk]) _)
    rw [answer_of_not_sends hs, answer_of_not_sends hs, hk]

/-- Two jobs of a kind accept the same bulk records and the same setters, and refuse the others for
the same reasons, whatever they hold; a setter is accepted just if its arguments are valid. So what
a job has accepted or refused before makes no difference to a step that sends nothing: it answers
as it would to any other job of the kind. -/
theorem verdict_stateless (hk : j'.kind = j.kind) (w w' : World) (t t' : Trace) :
    (∀ bulk ignoreUnknown,
      (j'.merge w' bulk ignoreUnknown t').2 = (j.merge w bulk ignoreUnknown t).2) ∧
    (∀ s : Setter, (j'.set s).2 = (j.set s).2) ∧
    (∀ s : Setter, (j.set s).2 = .ok () ↔ s.Valid) ∧
    ∀ steps : List JobStep,
      List.Forall₂ (fun s answer => s.sends = false → answer = (j'.step w' s t').2) steps
        (run w steps j t).2 := by
  refine ⟨fun bulk ignoreUnknown => ?_, fun s => ?_, fun s => j.set_eq_ok_iff s, fun steps => ?_⟩
  · rw [verdict_merge, verdict_merge, hk]
  · rw [verdict_set, verdict_set]
  · exact run_answers hk t' steps t

/-- Details in which nothing has the form that its writer expects. -/
def misshapen : Details :=
  .ofList [("cashSum", .bool true), ("customer", .null), ("items", .string "none")]

theorem verdict_stateless_sale :
    let w := World.unreachable .ofNat "down"
    let j := fresh ⟨"host", "secret", "7"⟩ (.device .sell) rfl
    let j' : Job := { j with details := misshapen, key := some "k-1" }
    j'.kind = j.kind ∧
      (∀ bulk ignoreUnknown,
        (j'.merge w bulk ignoreUnknown .start).2 = (j.merge w bulk ignoreUnknown .start).2) ∧
      (j'.set (.addItem "Tea" 12.5 2)).2.isOk = true ∧ (j.set (.addItem "" 12.5 2)).2.isOk = false := by
  intro w j j'
  have hk : j'.kind = j.kind := rfl
  exact ⟨hk, (verdict_stateless hk w w .start .start).1, by decide +kernel, by decide +kernel⟩

end Job
end Till
