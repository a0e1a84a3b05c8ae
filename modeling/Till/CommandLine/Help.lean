import Till.CommandLine.Option

/-!
# Help

What the command line prints about itself.
-/

namespace Till.CommandLine

def version : String :=
  "kkm 0.1.0"

/-- Two columns, the second one aligned. -/
def table (rows : List (String × String)) : String :=
  let width := (rows.map (·.1.length)).foldl max 0
  String.join (rows.map fun r =>
    "  " ++ r.1 ++ String.ofList (List.replicate (width - r.1.length) ' ') ++ "  " ++ r.2 ++ "\n")

def Command.about : Command → String
  | device => "Run an operation on the configured device"
  | server => "Run a gateway-level operation"
  | learn => "Search for a device on a connection and register it"

def Command.argumentAbout : Command → String
  | device | server => "Operation kind, e.g. \"status\", \"sell\", \"report-x\", \"ping\""
  | learn => "Connection string, e.g. \"com,4\" or \"tcpip,10.0.0.5\""

namespace Opt

/-- The option in all its spellings. -/
def spelling (o : Opt) : String :=
  let short :=
    match o.short? with
    | some c => String.ofList ['-', c, ',', ' ']
    | none => "    "
  let value :=
    match o.value? with
    | some v => " <" ++ v ++ ">"
    | none => ""
  short ++ "--" ++ o.long ++ value ++ if o = verbose then "..." else ""

/-- What the option does; `configVariable` is the value of `KKM_CONFIG`. -/
def about (configVariable : Option String) : Opt → String
  | config =>
    "Config file (defaults to the platform config dir's kkm.toml) [env: KKM_CONFIG=" ++
      configVariable.getD "" ++ "]"
  | host => "Gateway host, overrides config"
  | secret => "Shared secret, overrides config"
  | serial => "Device serial number, overrides config"
  | verifyTls => "Verify the gateway's TLS certificate"
  | verbose => "Increase verbosity (-v, -vv)"
  | details => "Bulk details as a JSON object"
  | key => "Pin the idempotency key instead of generating one"
  | noDefaults => "Skip operator and customer defaults from config"
  | repetitions => "Send the same request N times (mutating requests reuse one key) [default: 1]"
  | summary => "Print the one-line summary instead of the full envelope"
  | help => "Print help"
  | version => "Print version"

end Opt

namespace Level

def usage : Level → String
  | top => "kkm [OPTIONS] <COMMAND>"
  | within c => "kkm " ++ c.name ++ " [OPTIONS] <" ++ c.argument ++ ">"

def about : Level → String
  | top => "kkm - Client for the KKM fiscal register gateway"
  | within c => c.about

/-- The commands, or the argument of the command. -/
def operands : Level → String
  | top =>
    "Commands:\n" ++ table (Command.all.map (fun c => (c.name, c.about)) ++
      [("help", "Print this message or the help of the given subcommand(s)")])
  | within c => "Arguments:\n" ++ table [("<" ++ c.argument ++ ">", c.argumentAbout)]

/-- All about a level. -/
def help (l : Level) (configVariable : Option String) : String :=
  l.about ++ "\n\nUsage: " ++ l.usage ++ "\n\n" ++ l.operands ++ "\nOptions:\n" ++
    table (l.options.map fun o => (o.spelling, o.about configVariable))

end Level

end Till.CommandLine
