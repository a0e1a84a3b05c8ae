import Till.Proofs.Checked
import Till.Proofs.Operation.Effect

/-!
# Calls

The setters that a caller may call one after another, each for itself. Like a step, a call is an
effect or an error (`Call.run_eq`), and a chain of calls fails with the first that does.
-/

namespace Till

inductive Call
  | set (s : Setter)
  | key (k : Option String)
  /-- What a `null` tax asks for; no setter does it. -/
  | clearTax

namespace Call
variable {w : World}

def run (w : World) : Call → Job × Trace → Result (Job × Trace)
  | set s, state => (state.1.set s).2.map fun _ => ((state.1.set s).1, state.2)
  | key k, state => .ok (state.1.pinKey k w state.2)
  | clearTax, state => .ok ({ state.1 with details := state.1.details.clearTax }, state.2)

/-- A chain of calls, which ends with the first that fails. -/
def runAll (w : World) : List Call → Job × Trace → Result (Job × Trace)
  | [], state => .ok state
  | c :: calls, state =>
    match c.run w state with
    | .ok state => runAll w calls state
    | .error e => .error e

/-- The effect of a call, if its arguments are accepted. -/
def accept : Call → Result Effect
  | set s => Checked.lift (s.accept.map .write)
  | key k => .ok (.pin k)
  | clearTax => .ok (.write (.tax none))

theorem accept_set_eq_ok_iff {s : Setter} {e : Effect} :
    (set s).accept = .ok e ↔ ∃ x, s.accept = .ok x ∧ .write x = e := by
  rw [accept, Checked.lift_eq_ok_iff, Except.map_eq_ok_iff]

theorem run_eq (c : Call) (state : Job × Trace) :
    c.run w state = c.accept.map fun e => e.run w state := by
  cases c with
  | set s =>
    simp only [run, accept, Job.set, Setter.apply_eq]
    cases s.accept <;> rfl
  | key k => rfl
  | clearTax => rfl

theorem run_eq_ok_iff {c : Call} {state state' : Job × Trace} :
    c.run w state = .ok state' ↔ ∃ e, c.accept = .ok e ∧ e.run w state = state' := by
  rw [run_eq, Except.map_eq_ok_iff]

theorem runAll_cons_eq_ok_iff {c : Call} {calls : List Call} {state state' : Job × Trace} :
    runAll w (c :: calls) state = .ok state' ↔
      ∃ state₁, c.run w state = .ok state₁ ∧ runAll w calls state₁ = .ok state' := by
  rw [runAll]
  cases c.run w state <;> simp

theorem runAll_singleton (c : Call) (state : Job × Trace) : runAll w [c] state = c.run w state := by
  rw [runAll]
  split <;> simp only [runAll, *]

theorem runAll_append (calls calls' : List Call) (state : Job × Trace) :
    runAll w (calls ++ calls') state = (runAll w calls state).bind (runAll w calls') := by
  induction calls generalizing state with
  | nil => rfl
  | cons c calls ih =>
    rw [List.cons_append, runAll, runAll]
    cases c.run w state with
    | error e => rfl
    | ok state => exact ih state

end Call
end Till
