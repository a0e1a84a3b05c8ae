import Till.Connection
import Till.Details.Basic
import Till.Gateway.World
import Till.Path

/-!
# Sending

A connection turns a path into a request. Every request carries the secret and an idempotency key;
one that changes something also carries its details.
-/

namespace Till.Connection

def url (c : Connection) (path : String) : String :=
  "https://" ++ c.host ++ "/" ++ Path.normalize path

def getRequest (c : Connection) (path key : String) : Request where
  verb := .get
  url := c.url path
  headers := [("X-Secret", c.secret), ("X-Idempotency-Key", key)]
  body := none

def postRequest (c : Connection) (path : String) (details : Details) (key : String) : Request where
  verb := .post
  url := c.url path
  headers := [("X-Secret", c.secret), ("X-Idempotency-Key", key),
    ("Content-Type", "application/json")]
  body := some details.text

/-- Sends a reading request, under a new key if none is given. -/
def get (c : Connection) (path : String) (key : Option String) (w : World) (t : Trace) :
    Envelope × Trace :=
  let (key, t) := w.keyOrNew key t
  w.exchange (c.getRequest path key) t

def post (c : Connection) (path : String) (details : Details) (key : String) (w : World)
    (t : Trace) : Envelope × Trace :=
  w.exchange (c.postRequest path details key) t

/-- The sender for a reader; how it reaches the gateway is left out. -/
def performerDescription (c : Connection) : String :=
  "Performer \x7b conn: " ++ c.description ++ ", .. \x7d"

end Till.Connection
