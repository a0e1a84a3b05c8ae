import Till.Text.Lower
import Till.Text.Quoted

/-!
# Requests

One request to the gateway, fully resolved. Its description names the headers without their values,
since one of them is the secret.
-/

namespace Till

inductive Verb
  | get
  | post
deriving DecidableEq, Repr

namespace Verb

def name : Verb → String
  | get => "GET"
  | post => "POST"

def description : Verb → String
  | get => "Get"
  | post => "Post"

end Verb

structure Request where
  verb : Verb
  url : String
  headers : List (String × String)
  body : Option String
deriving DecidableEq, Repr

namespace Request

/-- The first header of the name, in any case of its ASCII letters. -/
def header? (r : Request) (name : String) : Option String :=
  (r.headers.find? fun h => Text.eqIgnoreAsciiCase h.1 name).map (·.2)

def description (r : Request) : String :=
  Text.record "HttpRequest" [("method", r.verb.description), ("url", Text.quoted r.url),
    ("headers", Text.quotedList (r.headers.map (·.1))),
    ("body_len", Text.optional (r.body.map fun b => toString b.utf8ByteSize))]

end Request
end Till
