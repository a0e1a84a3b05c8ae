import Till.Json.Reader
import Till.Json.Printer
import Till.Text.Quoted
import Till.Text.Trim

/-!
# Envelopes

What an exchange comes to. The object that the gateway answers with is kept and gets three fields
of bookkeeping; an exchange that fails, or an answer that is not an object, becomes an envelope
with the same fields, a message and a failure mark. The summary of an envelope is one line.
-/

namespace Till

/-- An answer of the gateway, its body undecoded, and the milliseconds it took. -/
structure Reply where
  status : UInt16
  origin : Option String
  body : ByteArray
  elapsed : Float

/-- How an exchange ends: with an answer, or with a fault on the way. -/
inductive Outcome
  | replied (r : Reply)
  | failed (message : String)

structure Envelope where
  fields : Fields

namespace Envelope

/-- The word at the start of an origin header. -/
def originWord (header : String) : String :=
  String.ofList ((header.toList.dropWhile Text.isBlank).takeWhile fun c => c.isAlphanum || c == '_')

/-- An exchange that came to nothing. -/
def failure (message origin : String) : Envelope :=
  ⟨.ofList [("!message", .string message), ("!success", .bool false),
    ("!httpStatus", .number (.int 0)), ("!origin", .string origin),
    ("!elapsedTime", .number (.int 0))]⟩

/-- The fields of an answer with its status, origin and time, whatever stood under their keys. -/
def ofFields (body : Fields) (status : UInt16) (origin : String) (elapsed : Float) : Envelope :=
  ⟨((body.insert "!httpStatus" (.number (.int status.toNat))).insert "!origin"
    (.string origin)).insert "!elapsedTime" (.ofFloat elapsed)⟩

/-- The object that bytes spell, if they spell one. -/
def object? (body : ByteArray) : Option Fields := do
  let text ← String.fromUTF8? body
  match ← Json.parse? text with
  | .object fs => return .ofList fs
  | _ => none

def ofOutcome : Outcome → Envelope
  | .failed message => failure message ""
  | .replied r =>
    let origin := (r.origin.map originWord).getD ""
    match object? r.body with
    | some body => ofFields body r.status origin r.elapsed
    | none => failure "Bad response" origin

def get? (e : Envelope) (key : String) : Option Json :=
  e.fields.get? key

/-- The status, zero if none was noted. -/
def status (e : Envelope) : UInt16 :=
  match e.get? "!httpStatus" with
  | some (.number (.int n)) => if 0 ≤ n ∧ n < UInt16.size then n.toNat.toUInt16 else 0
  | _ => 0

def origin (e : Envelope) : String :=
  ((e.get? "!origin").bind Json.asString?).getD ""

def elapsed (e : Envelope) : Float :=
  ((e.get? "!elapsedTime").bind Json.asFloat?).getD 0

def message (e : Envelope) : Option String :=
  (e.get? "!message").bind Json.asString?

/-- The failure mark is there and says so. -/
def isFailure (e : Envelope) : Bool :=
  (e.get? "!success").bind Json.asBool? == some false

def text (e : Envelope) : String :=
  e.fields.text

def pretty (e : Envelope) : String :=
  e.fields.toJson.pretty

/-- Status, origin and time on one line, and the message if there is one. -/
def summary (e : Envelope) : String :=
  let origin := if e.origin.isEmpty then "-" else e.origin
  let message :=
    match e.message with
    | some m => " message=" ++ Text.quoted m
    | none => ""
  "status=" ++ toString e.status ++ " origin=" ++ origin ++ " elapsed=" ++
    Double.tenths e.elapsed ++ "ms" ++ message

end Envelope
end Till
