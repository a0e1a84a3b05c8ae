import Till.CommandLine.Help
import Till.CommandLine.Run

/-!
# The command

Arguments, variables and the settings file in; envelopes or an error out. The program has no
transport of its own: every exchange ends without an answer.
-/

namespace Till.Main

open CommandLine

def settingsFile (path : String) : IO SettingsFile := do
  try
    return .text (← IO.FS.readFile path)
  catch
    | .noFileOrDirectory .. => return .absent
    | _ => return .unreadable

/-- The file that is read if no path is given. -/
def defaultFile : IO SettingsFile := do
  match ← IO.getEnv "HOME" with
  | some home => settingsFile (home ++ "/" ++ Settings.defaultPath)
  | none => return .absent

def environment : IO Environment := do
  return ⟨← IO.getEnv "KKM_HOST", ← IO.getEnv "KKM_SECRET", ← IO.getEnv "KKM_SERIAL",
    ← IO.getEnv "KKM_VERIFY_TLS"⟩

/-- A world without a gateway, its keys counted from a random number. -/
def world : IO World := do
  let bytes ← IO.getRandomBytes 32
  let first := bytes.toList.foldl (fun n b => 256 * n + b.toNat) 0
  return .unreachable (fun n => .ofNat (first + n)) "no transport"

def execute (i : Invocation) : IO UInt32 := do
  let file ← match i.config with
    | some path => settingsFile path
    | none => defaultFile
  match (i.run file (← environment) (← world)).1 with
  | .ok envelopes =>
    for e in envelopes do
      IO.println (i.printed e)
    return 0
  | .error e =>
    IO.eprintln ("Error: " ++ e.message)
    return 1

end Till.Main

def main (args : List String) : IO UInt32 := do
  let configVariable ← IO.getEnv "KKM_CONFIG"
  match Till.CommandLine.parse args configVariable with
  | .ok i => Till.Main.execute i
  | .error (.help l) =>
    IO.print (l.help configVariable)
    return 0
  | .error .version =>
    IO.println Till.CommandLine.version
    return 0
  | .error .usage =>
    IO.eprintln ("Usage: " ++ Till.CommandLine.Level.top.usage)
    return 2
