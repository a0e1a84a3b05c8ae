import Till.Gateway.Performer
import Till.Kind.Basic

/-!
# Queries

Operations that only read. They take no details, never fail and have no effect on themselves.
-/

namespace Till

structure Query where
  connection : Connection
  kind : Kind
  key : Option String
  isQuery : kind.isQuery = true

inductive QueryStep
  | key (k : Option String)
  | perform

namespace Query

/-- The query of a kind before a key is pinned. -/
def fresh (c : Connection) (k : Kind) (h : k.isQuery = true) : Query :=
  ⟨c, k, none, h⟩

def method (q : Query) : String :=
  q.kind.method

def path (q : Query) : String :=
  q.kind.path q.connection.serial

/-- Pins a key, or a new one if none is given. -/
def pinKey (q : Query) (key : Option String) (w : World) (t : Trace) : Query × Trace :=
  let (key, t) := w.keyOrNew key t
  ({ q with key := some key }, t)

/-- Sends the request; without a pinned key each call makes up its own. -/
def perform (q : Query) (w : World) (t : Trace) : Envelope × Trace :=
  q.connection.get q.path q.key w t

/-- A step with the envelope it yields. -/
def step (w : World) (s : QueryStep) (q : Query) (t : Trace) : (Query × Trace) × Option Envelope :=
  match s with
  | .key k => (q.pinKey k w t, none)
  | .perform =>
    let (e, t) := q.perform w t
    ((q, t), some e)

end Query
end Till
