import Till.CommandLine.Option
import Till.Text.Digits

/-!
# Reading arguments

Arguments are read from left to right, those of a command apart from those in front of it. A value
may be attached to its option (`--key=x`, `-kx`, `-k=x`) or follow it. A value that follows is
settled no sooner than the next option or argument, or at the end of its level; the options in
front of the command are settled after those of the command. So an early fault may lose to a later
request for help.
-/

namespace Till.CommandLine

/-- Why nothing is run. -/
inductive Stop
  /-- The arguments are not understood. -/
  | usage
  | help (l : Level)
  | version
deriving DecidableEq, Repr

/-- What a level has been given so far. -/
structure Given where
  /-- Options with their values, empty for those that take none. -/
  options : List (Opt × String) := []
  argument : Option String := none
  /-- An option that is not settled yet, with its value if that has been read. -/
  pending : Option (Opt × Option String) := none
  /-- No options follow. -/
  closed : Bool := false
deriving DecidableEq, Repr

/-- How often to send: a whole number of 32 bits that may have a sign. -/
def repetitions? (s : String) : Option Nat :=
  match s.toList with
  | '-' :: ds => (Text.decimal? ds).filter (· = 0)
  | '+' :: ds => (Text.decimal? ds).filter (· < UInt32.size)
  | ds => (Text.decimal? ds).filter (· < UInt32.size)

/-- The option may have the value. -/
def Opt.admits (o : Opt) (value : String) : Bool :=
  match o with
  | .config => !value.isEmpty
  | .repetitions => (repetitions? value).isSome
  | _ => true

namespace Given

def has (g : Given) (o : Opt) : Bool :=
  g.options.any fun e => e.1 = o

def get? (g : Given) (o : Opt) : Option String :=
  (g.options.find? fun e => e.1 = o).map (·.2)

/-- An option whose value is to follow. -/
def awaited (g : Given) : Option Opt :=
  match g.pending with
  | some (o, none) => some o
  | _ => none

end Given

variable (l : Level)

/-- Settles an option. Only verbosity may be asked for more than once. -/
def accept (o : Opt) (value : String) (g : Given) : Except Stop Given :=
  match o with
  | .help => .error (.help l)
  | .version => .error .version
  | .verbose => .ok g
  | o =>
    if g.has o || !o.admits value then .error .usage
    else .ok { g with options := g.options ++ [(o, value)] }

/-- Settles what is pending. -/
def settle (g : Given) : Except Stop Given :=
  match g.pending with
  | none => .ok g
  | some (_, none) => .error .usage
  | some (o, some value) => accept l o value { g with pending := none }

/-- An option at its place, with the value attached to it. -/
def readOption (o : Opt) (attached : Option String) (g : Given) : Except Stop Given :=
  if o.takesValue then
    match attached with
    | some value => (settle l g).bind (accept l o value)
    | none => (settle l g).map fun g => { g with pending := some (o, none) }
  else if attached.isSome then .error .usage
  else (settle l g).bind (accept l o "")

/-- An option by its long name, which an equals sign parts from an attached value. -/
def readLong (cs : List Char) (g : Given) : Except Stop Given :=
  let name := String.ofList (cs.takeWhile (· ≠ '='))
  let attached :=
    match cs.dropWhile (· ≠ '=') with
    | _ :: value => some (String.ofList value)
    | [] => none
  match l.options.find? (·.long = name) with
  | some o => readOption l o attached g
  | none => .error .usage

/-- Options by their letters. The first one that takes a value has the other characters attached. -/
def readShort : List Char → Given → Except Stop Given
  | [], g => .ok g
  | c :: cs, g =>
    match l.options.find? (·.short? = some c) with
    | none => .error .usage
    | some o =>
      if o.takesValue then
        match cs with
        | [] => readOption l o none g
        | '=' :: value => readOption l o (some (String.ofList value)) g
        | value => readOption l o (some (String.ofList value)) g
      else (readOption l o none g).bind (readShort cs)

/-- The argument of a command; there is only one, and none in front of the command. -/
def readArgument (s : String) (g : Given) : Except Stop Given :=
  match l with
  | .top => .error .usage
  | .within _ =>
    (settle l g).bind fun g =>
      if g.argument.isSome then .error .usage else .ok { g with argument := some s }

/-- One argument that is no command. -/
def readWord (s : String) (g : Given) : Except Stop Given :=
  if g.closed then readArgument l s g
  else
    match s.toList with
    | ['-', '-'] => .ok { g with closed := true }
    | '-' :: '-' :: cs => readLong l cs g
    | '-' :: c :: cs => readShort l (c :: cs) g
    | _ =>
      match g.awaited with
      | some o => .ok { g with pending := some (o, some s) }
      | none => readArgument l s g

/-- What the word `help` is followed by: nothing, or one command. -/
def helpAbout : List String → Stop
  | [] => .help .top
  | [name] =>
    if name = "help" then .help .top
    else
      match Command.ofName? name with
      | some c => .help (.within c)
      | none => .usage
  | _ => .usage

/-- The arguments of a command. -/
def readWithin : Given → List String → Except Stop Given
  | g, [] => settle l g
  | g, s :: rest => (readWord l s g).bind fun g => readWithin g rest

/-- The arguments up to a command, not settled yet; the command and the arguments after it. -/
def readTop : Given → List String → Except Stop (Given × Command × List String)
  | _, [] => .error .usage
  | g, s :: rest =>
    if g.closed || g.awaited.isSome then (readWord .top s g).bind fun g => readTop g rest
    else if s = "help" then .error (helpAbout rest)
    else
      match Command.ofName? s with
      | some c => .ok (g, c, rest)
      | none => (readWord .top s g).bind fun g => readTop g rest

end Till.CommandLine
