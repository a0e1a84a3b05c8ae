import Till.CommandLine.Invocation
import Till.Kind.Name
import Till.Operation.Prepared

/-!
# Running an invocation

Settings, then the kind, then the device; after that the defaults, then the details that the command
line gives on top of them, then the key. Only an operation for which all of this went well is sent.
-/

namespace Till

namespace CommandLine

/-- The bulk record that a text spells. -/
def bulkRecord (text : String) : Result Fields :=
  match Json.parse? text with
  | some (.object fs) => .ok (.ofList fs)
  | _ => .error .malformedDetails

namespace Sending

/-- The bulk record on the command line, empty if there is none. -/
def bulk (a : Sending) : Result Fields :=
  match a.details with
  | some text => bulkRecord text
  | none => .ok .empty

/-- Merges the defaults, which may have keys that the operation does not know, and then the details.
A job, or anything for which a key is given, gets its key last. -/
def prepare (a : Sending) (s : Settings) (w : World) (p : Prepared) (t : Trace) :
    Result (Prepared × Trace) := do
  let defaults := if a.noDefaults then .empty else s.defaults
  let ((p, t), verdict) := p.merge w defaults true t
  verdict
  let bulk ← a.bulk
  let ((p, t), verdict) := p.merge w bulk false t
  verdict
  return if a.key.isSome || !p.isQuery then p.pinKey a.key w t else (p, t)

end Sending

/-- The operation of a task, ready to be sent. -/
def Task.prepare (task : Task) (s : Settings) (w : World) (t : Trace) :
    Result (Prepared × Trace) :=
  match task with
  | .device a => do
    let kind ← DeviceKind.parse a.kind
    let device ← s.device
    a.prepare s w (device.prepare kind) t
  | .server a => do
    let kind ← ServerKind.parse a.kind
    a.prepare s w (s.server.prepare kind) t
  | .learn connParams => do
    let (job, verdict) := s.server.learn.set (.connParams connParams)
    verdict
    let (job, t) := job.pinKey none w t
    return (.job job, t)

/-- Sends an operation `n` times, or until it cannot be sent. -/
def send (p : Prepared) (w : World) : Nat → Trace → Result (List Envelope) × Trace
  | 0, t => (.ok [], t)
  | n + 1, t =>
    match p.perform w t with
    | (.error e, t) => (.error e, t)
    | (.ok e, t) =>
      let (rest, t) := send p w n t
      (rest.map (e :: ·), t)

namespace Invocation

/-- Runs the invocation with what stands in the settings file. Whatever number is asked for,
something is sent at least once. -/
def run (i : Invocation) (file : SettingsFile) (e : Environment) (w : World) :
    Result (List Envelope) × Trace :=
  let prepared : Result (Prepared × Trace) := do
    let s ← Settings.layered file e i.overrides
    i.task.prepare s w .start
  match prepared with
  | .error e => (.error e, .start)
  | .ok (p, t) => send p w (max i.repetitions 1) t

/-- An envelope as it is printed. -/
def printed (i : Invocation) (e : Envelope) : String :=
  if i.summary then e.summary else e.pretty

end Invocation
end CommandLine
end Till
