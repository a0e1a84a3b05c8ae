import Till.CommandLine.Arguments
import Till.Settings.Layers

/-!
# Invocations

What a command line asks for. An option after the command wins over the same option in front of it,
and both win over the variable that names the settings file.
-/

namespace Till.CommandLine

/-- One operation on a device or on the server. -/
structure Sending where
  kind : String
  details : Option String
  key : Option String
  noDefaults : Bool
deriving DecidableEq, Repr

inductive Task
  | device (s : Sending)
  | server (s : Sending)
  | learn (connParams : String)
deriving DecidableEq, Repr

structure Invocation where
  /-- The path of the settings file. -/
  config : Option String
  overrides : Overrides
  task : Task
  repetitions : Nat
  summary : Bool
deriving DecidableEq, Repr

/-- Where no path is given at a level, the variable has to have one that will do. -/
def checkConfig (g : Given) (configVariable : Option String) : Except Stop Unit :=
  match configVariable with
  | some path => if g.has .config || Opt.config.admits path then .ok () else .error .usage
  | none => .ok ()

/-- The invocation from what stands in front of the command and after it. -/
def Invocation.of (top within : Given) (c : Command) (argument : String)
    (configVariable : Option String) : Invocation :=
  let shared (o : Opt) : Option String := (within.get? o).or (top.get? o)
  let sending : Sending :=
    ⟨argument, within.get? .details, within.get? .key, within.has .noDefaults⟩
  { config := (shared .config).or configVariable
    overrides := ⟨shared .host, shared .secret, shared .serial, (shared .verifyTls).isSome⟩
    task :=
      match c with
      | .device => .device sending
      | .server => .server sending
      | .learn => .learn argument
    repetitions := ((within.get? .repetitions).bind repetitions?).getD 1
    summary := within.has .summary }

/-- Reads a command line; `configVariable` is the value of `KKM_CONFIG`. -/
def parse (args : List String) (configVariable : Option String) : Except Stop Invocation := do
  let (top, c, rest) ← readTop {} args
  let within ← readWithin (.within c) {} rest
  checkConfig within configVariable
  match within.argument with
  | none => .error .usage
  | some argument =>
    let top ← settle .top top
    checkConfig top configVariable
    return .of top within c argument configVariable

end Till.CommandLine
