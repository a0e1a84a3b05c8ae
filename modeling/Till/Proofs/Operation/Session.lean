import Mathlib.Data.List.Forall2
import Till.Gateway.World
import Till.Proofs.Operation.Steps

/-!
# Sessions

A caller takes steps on an operation and on copies of it, which go their own ways from there but
reach the same gateway. `Session.run` says what that comes to for any operation that has single
steps. Main statements: two operations whose single steps correspond have sessions that correspond
(`Session.run_related`), and a map between operations that commutes with single steps commutes with
sessions (`Session.run_map`).
-/

namespace Till

/-- A step of a caller: one more copy of the operation at a place, or a step on that one. -/
inductive SessionStep (σ : Type)
  | copy (i : Nat)
  | on (i : Nat) (s : σ)

/-- The copies that a caller holds, the first one first, and what they took from the world. -/
structure Session (α : Type) where
  copies : List α
  trace : Trace

namespace Session
variable {σ α α' β β' : Type}

/-- The session of a single operation. -/
def single (a : α) (t : Trace) : Session α :=
  ⟨[a], t⟩

/-- Takes a step, if there is a copy at its place, and says what a step on a copy answers. -/
def step (one : σ → α → Trace → (α × Trace) × β) (s : SessionStep σ) (x : Session α) :
    Session α × Option β :=
  match s with
  | .copy i => (⟨x.copies ++ x.copies[i]?.toList, x.trace⟩, none)
  | .on i s =>
    match x.copies[i]? with
    | some a =>
      let ((a, t), answer) := one s a x.trace
      (⟨x.copies.set i a, t⟩, some answer)
    | none => (x, none)

def run (one : σ → α → Trace → (α × Trace) × β) (steps : List (SessionStep σ)) (x : Session α) :
    Session α × List (Option β) :=
  Steps.run (step one) steps x

theorem run_cons (one : σ → α → Trace → (α × Trace) × β) (s : SessionStep σ)
    (steps : List (SessionStep σ)) (x : Session α) :
    run one (s :: steps) x =
      ((run one steps (step one s x).1).1, (step one s x).2 :: (run one steps (step one s x).1).2) :=
  rfl

/-! ### Corresponding sessions -/

/-- As many copies, one related to the other in turn, and related traces. -/
structure Related (R : α → α' → Prop) (T : Trace → Trace → Prop) (x : Session α)
    (x' : Session α') : Prop where
  copies : List.Forall₂ R x.copies x'.copies
  trace : T x.trace x'.trace

section
variable {R : α → α' → Prop} {T : Trace → Trace → Prop}

theorem forall₂_set {l : List α} {l' : List α'} (h : List.Forall₂ R l l') (i : Nat) {a : α} {a' : α'}
    (ha : R a a') : List.Forall₂ R (l.set i a) (l'.set i a') := by
  induction h generalizing i with
  | nil => exact .nil
  | cons hb h ih =>
    cases i with
    | zero => exact .cons ha h
    | succ i => exact .cons hb (ih i)

/-- At a place there is a copy on both sides, or on neither. -/
theorem forall₂_getElem? {l : List α} {l' : List α'} (h : List.Forall₂ R l l') (i : Nat) :
    (∃ a a', l[i]? = some a ∧ l'[i]? = some a' ∧ R a a') ∨ l[i]? = none ∧ l'[i]? = none := by
  induction h generalizing i with
  | nil => exact .inr ⟨rfl, rfl⟩
  | cons ha h ih =>
    cases i with
    | zero => exact .inl ⟨_, _, rfl, rfl, ha⟩
    | succ i => exact ih i

theorem map_eq_of_forall₂ {γ : Type} {f : α → γ} {f' : α' → γ} {l : List α} {l' : List α'}
    (h : List.Forall₂ R l l') (hf : ∀ a a', R a a' → f' a' = f a) : l'.map f' = l.map f := by
  induction h with
  | nil => rfl
  | cons ha h ih => rw [List.map_cons, List.map_cons, hf _ _ ha, ih]

theorem related_single {a : α} {a' : α'} {t t' : Trace} (ha : R a a') (ht : T t t') :
    Related R T (single a t) (single a' t') :=
  ⟨.cons ha .nil, ht⟩

variable {one : σ → α → Trace → (α × Trace) × β} {one' : σ → α' → Trace → (α' × Trace) × β'}
  {g : β → β'}

theorem step_related
    (hone : ∀ s a a' t t', R a a' → T t t' →
      R (one s a t).1.1 (one' s a' t').1.1 ∧ T (one s a t).1.2 (one' s a' t').1.2 ∧
        (one' s a' t').2 = g (one s a t).2)
    (s : SessionStep σ) {x : Session α} {x' : Session α'} (h : Related R T x x') :
    Related R T (step one s x).1 (step one' s x').1 ∧
      (step one' s x').2 = (step one s x).2.map g := by
  cases s with
  | copy i =>
    rcases forall₂_getElem? h.copies i with ⟨a, a', ha, ha', hR⟩ | ⟨ha, ha'⟩
    all_goals simp only [step, ha, ha', Option.toList, List.append_nil]
    · exact ⟨⟨List.rel_append h.copies (.cons hR .nil), h.trace⟩, rfl⟩
    · exact ⟨h, rfl⟩
  | on i s =>
    rcases forall₂_getElem? h.copies i with ⟨a, a', ha, ha', hR⟩ | ⟨ha, ha'⟩
    all_goals simp only [step, ha, ha']
    · obtain ⟨hcopy, htrace, hanswer⟩ := hone s a a' x.trace x'.trace hR h.trace
      exact ⟨⟨forall₂_set h.copies i hcopy, htrace⟩, congrArg some hanswer⟩
    · exact ⟨h, rfl⟩

/-- Operations whose steps keep a relation and answer alike keep it through every session. -/
theorem run_related
    (hone : ∀ s a a' t t', R a a' → T t t' →
      R (one s a t).1.1 (one' s a' t').1.1 ∧ T (one s a t).1.2 (one' s a' t').1.2 ∧
        (one' s a' t').2 = g (one s a t).2)
    (steps : List (SessionStep σ)) {x : Session α} {x' : Session α'} (h : Related R T x x') :
    Related R T (run one steps x).1 (run one' steps x').1 ∧
      (run one' steps x').2 = (run one steps x).2.map (Option.map g) := by
  have hrun := Steps.run_related (f := id) (fun s _ _ h => step_related hone s h) steps h
  rwa [List.map_id] at hrun

/-- What each step keeps of the copy that it is taken on, and of the trace, a session keeps. -/
theorem run_invariant {P : α → Prop} {I : Trace → Prop}
    (hone : ∀ s a t, P a → I t → P (one s a t).1.1 ∧ I (one s a t).1.2)
    (steps : List (SessionStep σ)) {x : Session α} (hP : ∀ a ∈ x.copies, P a) (hI : I x.trace) :
    (∀ a ∈ (run one steps x).1.copies, P a) ∧ I (run one steps x).1.trace := by
  -- the session corresponds to itself by a relation that holds on the diagonal only
  have hself : ∀ s a a' t t', (a = a' ∧ P a) → (t = t' ∧ I t) →
      ((one s a t).1.1 = (one s a' t').1.1 ∧ P (one s a t).1.1) ∧
        ((one s a t).1.2 = (one s a' t').1.2 ∧ I (one s a t).1.2) ∧
        (one s a' t').2 = id (one s a t).2 := by
    rintro s a _ t _ ⟨rfl, ha⟩ ⟨rfl, ht⟩
    obtain ⟨hP, hI⟩ := hone s a t ha ht
    exact ⟨⟨rfl, hP⟩, ⟨rfl, hI⟩, rfl⟩
  have hstart : Related (fun a a' => a = a' ∧ P a) (fun t t' => t = t' ∧ I t) x x :=
    ⟨List.forall₂_same.2 fun a ha => ⟨rfl, hP a ha⟩, rfl, hI⟩
  obtain ⟨⟨hcopies, -, htrace⟩, -⟩ := run_related hself steps hstart
  exact ⟨fun a ha => (List.forall₂_same.1 hcopies a ha).2, htrace⟩

end

/-! ### Sessions on images -/

section
variable {f : α → α'} {g : β → β'} {one : σ → α → Trace → (α × Trace) × β}
  {one' : σ → α' → Trace → (α' × Trace) × β'}

/-- The session with the image of each copy. -/
def map (f : α → α') (x : Session α) : Session α' :=
  ⟨x.copies.map f, x.trace⟩

theorem step_map
    (hone : ∀ s a t, one' s (f a) t = ((f (one s a t).1.1, (one s a t).1.2), g (one s a t).2))
    (s : SessionStep σ) (x : Session α) :
    step one' s (x.map f) = ((step one s x).1.map f, (step one s x).2.map g) := by
  cases s with
  | copy i =>
    rcases h : x.copies[i]? with _ | a
    all_goals simp [step, map, h]
  | on i s =>
    rcases h : x.copies[i]? with _ | a
    all_goals simp [step, map, h, hone]

theorem run_map
    (hone : ∀ s a t, one' s (f a) t = ((f (one s a t).1.1, (one s a t).1.2), g (one s a t).2))
    (steps : List (SessionStep σ)) (x : Session α) :
    run one' steps (x.map f) =
      ((run one steps x).1.map f, (run one steps x).2.map (Option.map g)) := by
  have hrun := Steps.run_map (f := id) (fun s x => step_map hone s x) steps x
  rwa [List.map_id] at hrun

end

end Session
end Till
