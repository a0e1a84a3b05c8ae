import Till.Gateway.Envelope
import Till.Gateway.Request

/-!
# The world of a run

What a run cannot decide itself: the random bytes of the keys it makes up, and the outcomes of its
exchanges. A `Trace` is what the run has taken from the world so far.
-/

namespace Till

/-- The random bytes of one idempotency key. -/
structure KeySeed where
  bytes : List UInt8
  length_eq : bytes.length = 32

namespace KeySeed

def hexDigit (n : Nat) : Char :=
  "0123456789abcdef".toList.getD n '0'

/-- Two hexadecimal digits for each byte. -/
def key (s : KeySeed) : String :=
  String.ofList (s.bytes.flatMap fun b => [hexDigit (b.toNat / 16), hexDigit (b.toNat % 16)])

/-- The seed with a number at its end. -/
def ofNat (n : Nat) : KeySeed :=
  ⟨(List.range 32).map fun i => (n / Nat.pow 256 (31 - i)).toUInt8, by simp⟩

end KeySeed

structure World where
  /-- The seed of the nth key. -/
  seed : Nat → KeySeed
  /-- How the gateway answers a request, given those before it. -/
  respond : List Request → Request → Outcome

/-- How many keys were made up, and the requests that went out, the first one first. -/
structure Trace where
  drawn : Nat
  sent : List Request

namespace World

def newKey (w : World) (t : Trace) : String × Trace :=
  ((w.seed t.drawn).key, { t with drawn := t.drawn + 1 })

/-- The key that is given, or a new one. -/
def keyOrNew (w : World) (key : Option String) (t : Trace) : String × Trace :=
  match key with
  | some k => (k, t)
  | none => w.newKey t

def exchange (w : World) (r : Request) (t : Trace) : Envelope × Trace :=
  (.ofOutcome (w.respond t.sent r), { t with sent := t.sent ++ [r] })

/-- The gateway answers by a list of outcomes, the last of which repeats. Without any it agrees to
everything. -/
def scripted (seed : Nat → KeySeed) (outcomes : List Outcome) : World where
  seed := seed
  respond sent _ :=
    match outcomes[sent.length]?, outcomes.getLast? with
    | some o, _ => o
    | none, some o => o
    | none, none => .replied ⟨200, some "kkm", "\x7b\"success\":true\x7d".toUTF8, 0⟩

/-- No request gets through. -/
def unreachable (seed : Nat → KeySeed) (message : String) : World where
  seed := seed
  respond _ _ := .failed message

end World

namespace Trace

def start : Trace :=
  ⟨0, []⟩

end Trace
end Till
