/-!
# Steps one after another

Whatever has single steps, each of which leaves a state and answers, has runs: every step is taken on
what the one in front of it has left, however that one answered. What each step keeps a run keeps
(`Steps.run_invariant`), and what corresponds step by step has runs that correspond
(`Steps.run_related`, `Steps.run_map`).
-/

namespace Till

namespace Steps
variable {σ σ' α α' β β' : Type}

/-- Takes steps one after another, whatever they answer, and lists the answers. -/
def run (one : σ → α → α × β) : List σ → α → α × List β
  | [], a => (a, [])
  | s :: rest, a =>
    let (a, answer) := one s a
    let (a, answers) := run one rest a
    (a, answer :: answers)

variable {one : σ → α → α × β} {one' : σ' → α' → α' × β'}

theorem run_cons (one : σ → α → α × β) (s : σ) (steps : List σ) (a : α) :
    run one (s :: steps) a =
      ((run one steps (one s a).1).1, (one s a).2 :: (run one steps (one s a).1).2) :=
  rfl

/-- What every step keeps, a run keeps. -/
theorem run_invariant {P : α → Prop} {Q : σ → Prop}
    (hone : ∀ s a, Q s → P a → P (one s a).1) {steps : List σ} (hsteps : ∀ s ∈ steps, Q s) {a : α}
    (h : P a) : P (run one steps a).1 := by
  induction steps generalizing a with
  | nil => exact h
  | cons s steps ih =>
    obtain ⟨hs, hsteps⟩ := List.forall_mem_cons.1 hsteps
    exact ih hsteps (hone s a hs h)

/-- Steps that keep a relation and answer alike do so in every run. -/
theorem run_related {R : α → α' → Prop} {f : σ → σ'} {g : β → β'}
    (hone : ∀ s a a', R a a' →
      R (one s a).1 (one' (f s) a').1 ∧ (one' (f s) a').2 = g (one s a).2)
    (steps : List σ) {a : α} {a' : α'} (h : R a a') :
    R (run one steps a).1 (run one' (steps.map f) a').1 ∧
      (run one' (steps.map f) a').2 = (run one steps a).2.map g := by
  induction steps generalizing a a' with
  | nil => exact ⟨h, rfl⟩
  | cons s steps ih =>
    obtain ⟨hstep, hanswer⟩ := hone s a a' h
    obtain ⟨hrun, hanswers⟩ := ih hstep
    rw [List.map_cons, run_cons, run_cons, hanswer, hanswers]
    exact ⟨hrun, rfl⟩

/-- Maps that commute with single steps commute with runs. -/
theorem run_map {f : σ → σ'} {h : α → α'} {g : β → β'}
    (hone : ∀ s a, one' (f s) (h a) = (h (one s a).1, g (one s a).2)) (steps : List σ) (a : α) :
    run one' (steps.map f) (h a) = (h (run one steps a).1, (run one steps a).2.map g) := by
  have hrelated : ∀ s a a', a' = h a →
      (one' (f s) a').1 = h (one s a).1 ∧ (one' (f s) a').2 = g (one s a).2 := by
    rintro s a _ rfl
    rw [hone]
    exact ⟨rfl, rfl⟩
  obtain ⟨hstate, hanswers⟩ := run_related (R := fun a a' => a' = h a) hrelated steps rfl
  exact Prod.ext hstate hanswers

end Steps
end Till
