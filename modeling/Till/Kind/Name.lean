import Till.ClientError
import Till.Kind.Basic
import Till.Text.Lower

/-!
# Names of kinds

A kind is recognised by its method in any case and with hyphens and underscores anywhere, so that
`full-status`, `full_status` and `FullStatus` are one name.
-/

namespace Till

/-- The name in lower case without hyphens and underscores. -/
def foldName (s : String) : String :=
  String.ofList ((s.toList.filter fun c => c ≠ '-' && c ≠ '_').flatMap Text.lowerChar)

def DeviceKind.parse (s : String) : Result DeviceKind :=
  match all.find? fun k => foldName k.method == foldName (Text.trim s) with
  | some k => .ok k
  | none => .error (.unsupportedKind s)

namespace ServerKind

/-- The text without a leading `kkm/`. -/
def bareName (s : String) : String :=
  let start := "kkm/".toList
  if start.isPrefixOf s.toList then String.ofList (s.toList.drop start.length) else s

def parse (s : String) : Result ServerKind :=
  let given := foldName (bareName (Path.normalize (Text.trim s)))
  match all.find? fun k => foldName (bareName k.method) == given with
  | some k => .ok k
  | none => .error (.unsupportedKind s)

end ServerKind
end Till
