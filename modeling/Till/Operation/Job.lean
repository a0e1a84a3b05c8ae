import Till.ClientError
import Till.Gateway.Performer
import Till.Kind.Basic
import Till.Text.Lower

/-!
# Jobs

Operations that change something. A job gathers details and is sent under an idempotency key,
which has to be there and not blank. The keys of a bulk record are checked first; then it is merged
entry by entry in the order of its keys, and when an entry fails, those before it stay applied and
those after it are not looked at. What fails leaves a job behind as well.
-/

namespace Till

structure Job where
  connection : Connection
  kind : Kind
  details : Details
  key : Option String
  isJob : kind.isQuery = false

/-! ### Keys of bulk records -/

namespace Kind

/-- The keys that the kind understands, in lower case. -/
def bulkKeys (k : Kind) : List String :=
  ["details", "idempotencykey", "padding"] ++ k.slots.map Slot.foldedKey

/-- The kind understands the key, in any case of its letters. -/
def Knows (k : Kind) (key : String) : Prop :=
  Text.lower key ∈ k.bulkKeys

instance (k : Kind) (key : String) : Decidable (k.Knows key) :=
  inferInstanceAs (Decidable (Text.lower key ∈ k.bulkKeys))

end Kind

/-- What the key of a bulk record asks for. -/
inductive BulkKey
  | skipped
  | idempotencyKey
  | padding
  | slot (s : Slot)
  | unknown
deriving DecidableEq, Repr

/-- What an entry is applied for. That this is something for each key that the kind understands, and
for no other, is not written into it. -/
def Kind.bulkKey (k : Kind) (key : String) : BulkKey :=
  let folded := Text.lower key
  if folded = "details" then .skipped
  else if folded = "idempotencykey" then .idempotencyKey
  else if folded = "padding" then .padding
  else
    match k.slots.find? (·.foldedKey == folded) with
    | some s => .slot s
    | none => .unknown

inductive JobStep
  | set (s : Setter)
  | key (k : Option String)
  | merge (bulk : Fields) (ignoreUnknown : Bool)
  | perform
  | performWith (bulk : Fields)

namespace Job

/-- The job of a kind before anything is set. -/
def fresh (c : Connection) (k : Kind) (h : k.isQuery = false) : Job :=
  ⟨c, k, .empty, none, h⟩

def method (j : Job) : String :=
  j.kind.method

def path (j : Job) : String :=
  j.kind.path j.connection.serial

/-- The job with what an update leaves of its details. -/
def update (j : Job) (u : Update Unit) : Job × Result Unit :=
  let (d, verdict) := u.on j.details
  ({ j with details := d }, verdict.lift)

def set (j : Job) (s : Setter) : Job × Result Unit :=
  j.update s.apply

/-- Pins a key, or a new one if none is given. -/
def pinKey (j : Job) (key : Option String) (w : World) (t : Trace) : Job × Trace :=
  let (key, t) := w.keyOrNew key t
  ({ j with key := some key }, t)

/-! ### Bulk records -/

/-- Applies an entry of a bulk record by what its key asks for. -/
def applyBy (b : BulkKey) (w : World) (key : String) (v : Json) (j : Job) (t : Trace) :
    (Job × Trace) × Result Unit :=
  match b with
  | .skipped => ((j, t), .ok ())
  | .idempotencyKey =>
    match v with
    | .null => (j.pinKey none w t, .ok ())
    | .string s => (j.pinKey (some s) w t, .ok ())
    | _ => ((j, t), .error (.field (.unexpected key .stringOrNull)))
  | .padding =>
    let (j, verdict) := j.update do
      let s ← v.stringFor key
      modify (·.setPadding s)
    ((j, t), verdict)
  | .slot s =>
    let (j, verdict) := j.update (s.write v)
    ((j, t), verdict)
  | .unknown => ((j, t), .ok ())

def applyEntry (w : World) (key : String) (v : Json) (j : Job) (t : Trace) :
    (Job × Trace) × Result Unit :=
  j.applyBy (j.kind.bulkKey key) w key v t

/-- Applies entries until one fails. -/
def applyEntries (w : World) :
    List (String × Json) → Job → Trace → (Job × Trace) × Result Unit
  | [], j, t => ((j, t), .ok ())
  | (key, v) :: rest, j, t =>
    match j.applyEntry w key v t with
    | ((j, t), .ok ()) => applyEntries w rest j t
    | (state, .error e) => (state, .error e)

/-- The first key that the kind does not know. -/
def unknownKey? (k : Kind) (bulk : Fields) : Option String :=
  bulk.keys.find? fun key => ¬ k.Knows key

/-- Merges a bulk record. Unless they are ignored, unknown keys are refused before anything else. -/
def merge (w : World) (bulk : Fields) (ignoreUnknown : Bool) (j : Job) (t : Trace) :
    (Job × Trace) × Result Unit :=
  match if ignoreUnknown then none else unknownKey? j.kind bulk with
  | some key => ((j, t), .error (.unknownKey j.method key))
  | none => applyEntries w bulk.entries j t

/-! ### Sending -/

def perform (j : Job) (w : World) (t : Trace) : Result Envelope × Trace :=
  match j.key.filter fun k => !Text.isBlankText k with
  | some key =>
    let (e, t) := j.connection.post j.path j.details key w t
    (.ok e, t)
  | none => (.error (.missingKey j.method), t)

/-- A step with the envelope it yields, or why it failed. -/
def step (w : World) (s : JobStep) (j : Job) (t : Trace) :
    (Job × Trace) × Result (Option Envelope) :=
  match s with
  | .set s =>
    let (j, verdict) := j.set s
    ((j, t), verdict.map fun _ => none)
  | .key k => (j.pinKey k w t, .ok none)
  | .merge bulk ignoreUnknown =>
    let (state, verdict) := j.merge w bulk ignoreUnknown t
    (state, verdict.map fun _ => none)
  | .perform =>
    let (verdict, t) := j.perform w t
    ((j, t), verdict.map some)
  | .performWith bulk =>
    match j.merge w bulk false t with
    | ((j, t), .ok ()) =>
      let (verdict, t) := j.perform w t
      ((j, t), verdict.map some)
    | (state, .error e) => (state, .error e)

end Job
end Till
