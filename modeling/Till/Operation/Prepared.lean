import Till.Operation.Factory

/-!
# Prepared operations

An operation that was prepared for a kind has the steps that queries and jobs have in common. As which
of the two it is taken apart, and what it says of itself, are lists over the kinds, each written apart
from the others and from those of `Till.Kind.Basic`.
-/

namespace Till

/-! ### Queries and jobs told apart -/

/-- The two branches into which operations fall. -/
inductive Branch
  | query
  | job
deriving DecidableEq, Repr

namespace DeviceKind

def branch : DeviceKind → Branch
  | status => .query
  | fullStatus => .query
  | baseStatus => .query
  | cashStat => .query
  | printDemo => .job
  | printNonFiscalDoc => .job
  | printInfo => .job
  | printFnRegistrations => .job
  | printOfdExchangeStatus => .job
  | printOfdTest => .job
  | printCloseShiftReports => .job
  | printLastDocument => .job
  | cashIn => .job
  | cashOut => .job
  | closeShift => .job
  | sell => .job
  | sellReturn => .job
  | reportX => .job
  | resetState => .job

end DeviceKind

namespace ServerKind

def branch : ServerKind → Branch
  | ping => .query
  | learn => .job
  | resetRegistry => .job

end ServerKind

namespace Kind

def branch : Kind → Branch
  | device k => k.branch
  | server k => k.branch

theorem branch_eq_query_iff {k : Kind} : k.branch = .query ↔ k.isQuery = true := by
  cases k with
  | device k => cases k <;> decide
  | server k => cases k <;> decide

theorem branch_eq_job_iff {k : Kind} : k.branch = .job ↔ k.isQuery = false := by
  cases k with
  | device k => cases k <;> decide
  | server k => cases k <;> decide

end Kind

inductive PreparedStep
  | key (k : Option String)
  | merge (bulk : Fields) (ignoreUnknown : Bool)
  | perform

namespace Prepared

def kind : Prepared → Kind
  | query q => q.kind
  | job j => j.kind

def toQuery : (p : Prepared) → p.kind.isQuery = true → Query
  | query q, _ => q
  | job j, h => absurd (h.symm.trans j.isJob) nofun

def toJob : (p : Prepared) → p.kind.isQuery = false → Job
  | query q, h => absurd (h.symm.trans q.isQuery) nofun
  | job j, _ => j

/-- Answers for a query or for a job, by the branch of the kind. -/
def dispatch {α : Type} (p : Prepared) (onQuery : Query → α) (onJob : Job → α) : α :=
  match h : p.kind.branch with
  | .query => onQuery (p.toQuery (Kind.branch_eq_query_iff.1 h))
  | .job => onJob (p.toJob (Kind.branch_eq_job_iff.1 h))

@[simp] theorem dispatch_query {α : Type} (q : Query) (onQuery : Query → α) (onJob : Job → α) :
    (query q).dispatch onQuery onJob = onQuery q := by
  unfold dispatch
  split
  · rfl
  · next h => exact absurd ((Kind.branch_eq_job_iff.1 h).symm.trans q.isQuery) nofun

@[simp] theorem dispatch_job {α : Type} (j : Job) (onQuery : Query → α) (onJob : Job → α) :
    (job j).dispatch onQuery onJob = onJob j := by
  unfold dispatch
  split
  · next h => exact absurd ((Kind.branch_eq_query_iff.1 h).symm.trans j.isJob) nofun
  · rfl

/-! ### What an operation says of itself -/

def method (p : Prepared) : String :=
  match p.kind with
  | .device _ => p.dispatch (·.method) (·.method)
  | .server .ping => Kind.method (.server .ping)
  | .server .learn => Kind.method (.server .learn)
  | .server .resetRegistry => Kind.method (.server .resetRegistry)

def isQuery (p : Prepared) : Bool :=
  match p.kind with
  | .device _ => p.dispatch (fun _ => true) fun _ => false
  | .server .ping => true
  | .server _ => false

def path (p : Prepared) : String :=
  p.dispatch (·.path) (·.path)

def key (p : Prepared) : Option String :=
  p.dispatch (·.key) (·.key)

/-! ### Steps -/

def pinKey (p : Prepared) (key : Option String) (w : World) (t : Trace) : Prepared × Trace :=
  p.dispatch
    (fun q =>
      let (q, t) := q.pinKey key w t
      (.query q, t))
    fun j =>
      let (j, t) := j.pinKey key w t
      (.job j, t)

/-- A query takes no bulk record: any key but `details` is unknown to it. -/
def rejectBulk (method : String) (bulk : Fields) (ignoreUnknown : Bool) : Result Unit :=
  if ignoreUnknown then .ok ()
  else
    match bulk.keys.find? fun key => !Text.eqIgnoreAsciiCase key "details" with
    | some key => .error (.unknownKey method key)
    | none => .ok ()

def merge (w : World) (bulk : Fields) (ignoreUnknown : Bool) (p : Prepared) (t : Trace) :
    (Prepared × Trace) × Result Unit :=
  p.dispatch (fun q => ((.query q, t), rejectBulk p.method bulk ignoreUnknown)) fun j =>
    let ((j, t), verdict) := j.merge w bulk ignoreUnknown t
    ((.job j, t), verdict)

def perform (p : Prepared) (w : World) (t : Trace) : Result Envelope × Trace :=
  p.dispatch
    (fun q =>
      let (e, t) := q.perform w t
      (.ok e, t))
    fun j => j.perform w t

/-- A step with the envelope it yields, or why it failed. -/
def step (w : World) (s : PreparedStep) (p : Prepared) (t : Trace) :
    (Prepared × Trace) × Result (Option Envelope) :=
  match s with
  | .key k => (p.pinKey k w t, .ok none)
  | .merge bulk ignoreUnknown =>
    let (state, verdict) := p.merge w bulk ignoreUnknown t
    (state, verdict.map fun _ => none)
  | .perform =>
    let (verdict, t) := p.perform w t
    ((p, t), verdict.map some)

/-! ### Queries and jobs as prepared operations -/

theorem dispatch_method (p : Prepared) : p.dispatch (·.method) (·.method) = p.kind.method := by
  cases p with
  | query q => exact dispatch_query ..
  | job j => exact dispatch_job ..

theorem dispatch_isQuery (p : Prepared) :
    p.dispatch (fun _ => true) (fun _ => false) = p.kind.isQuery := by
  cases p with
  | query q => exact (dispatch_query ..).trans q.isQuery.symm
  | job j => exact (dispatch_job ..).trans j.isJob.symm

theorem method_eq (p : Prepared) : p.method = p.kind.method := by
  unfold method
  split
  · exact p.dispatch_method
  all_goals
    next h => rw [h]

theorem isQuery_eq (p : Prepared) : p.isQuery = p.kind.isQuery := by
  unfold isQuery
  split
  · exact p.dispatch_isQuery
  · next h => exact (congrArg Kind.isQuery h).symm
  · next k hping hk =>
    rw [hk]
    cases k with
    | ping => exact absurd rfl hping
    | learn | resetRegistry => rfl

variable (q : Query) (j : Job) (w : World) (t : Trace)

@[simp] theorem path_query : (query q).path = q.path := dispatch_query ..

@[simp] theorem path_job : (job j).path = j.path := dispatch_job ..

@[simp] theorem key_query : (query q).key = q.key := dispatch_query ..

@[simp] theorem key_job : (job j).key = j.key := dispatch_job ..

theorem pinKey_query (key : Option String) :
    (query q).pinKey key w t = (.query (q.pinKey key w t).1, (q.pinKey key w t).2) :=
  dispatch_query ..

theorem pinKey_job (key : Option String) :
    (job j).pinKey key w t = (.job (j.pinKey key w t).1, (j.pinKey key w t).2) :=
  dispatch_job ..

theorem merge_query (bulk : Fields) (ignoreUnknown : Bool) :
    (query q).merge w bulk ignoreUnknown t =
      ((.query q, t), rejectBulk q.method bulk ignoreUnknown) := by
  rw [merge, dispatch_query, method_eq]
  rfl

theorem merge_job (bulk : Fields) (ignoreUnknown : Bool) :
    (job j).merge w bulk ignoreUnknown t =
      ((.job (j.merge w bulk ignoreUnknown t).1.1, (j.merge w bulk ignoreUnknown t).1.2),
        (j.merge w bulk ignoreUnknown t).2) :=
  dispatch_job ..

theorem perform_query :
    (query q).perform w t = (.ok (q.perform w t).1, (q.perform w t).2) :=
  dispatch_query ..

theorem perform_job : (job j).perform w t = j.perform w t :=
  dispatch_job ..

end Prepared
end Till
