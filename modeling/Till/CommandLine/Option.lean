/-!
# Options of the command line

The commands, the options, and where each option may stand: some in front of the command as well as
after it, some only after the command that they belong to.
-/

namespace Till.CommandLine

inductive Command
  | device
  | server
  | learn
deriving DecidableEq, Repr

namespace Command

def all : List Command :=
  [device, server, learn]

def name : Command → String
  | device => "device"
  | server => "server"
  | learn => "learn"

def ofName? (name : String) : Option Command :=
  all.find? (·.name = name)

/-- The name of the argument that the command takes. -/
def argument : Command → String
  | device | server => "KIND"
  | learn => "CONN_PARAMS"

end Command

inductive Opt
  | config
  | host
  | secret
  | serial
  | verifyTls
  | verbose
  | details
  | key
  | noDefaults
  | repetitions
  | summary
  | help
  | version
deriving DecidableEq, Repr

namespace Opt

def long : Opt → String
  | config => "config"
  | host => "host"
  | secret => "secret"
  | serial => "serial"
  | verifyTls => "verify-tls"
  | verbose => "verbose"
  | details => "details"
  | key => "key"
  | noDefaults => "no-defaults"
  | repetitions => "repeat"
  | summary => "summary"
  | help => "help"
  | version => "version"

def short? : Opt → Option Char
  | config => some 'c'
  | verbose => some 'v'
  | details => some 'd'
  | key => some 'k'
  | summary => some 's'
  | help => some 'h'
  | version => some 'V'
  | _ => none

/-- What the value of the option is called, if it takes one. -/
def value? : Opt → Option String
  | config => some "CONFIG"
  | host => some "HOST"
  | secret => some "SECRET"
  | serial => some "SERIAL"
  | details => some "DETAILS"
  | key => some "KEY"
  | repetitions => some "REPEAT"
  | _ => none

def takesValue (o : Opt) : Bool :=
  o.value?.isSome

end Opt

/-- Where options stand: in front of the command, or after it. -/
inductive Level
  | top
  | within (c : Command)
deriving DecidableEq, Repr

/-- The options of a level, in the order in which they are listed. -/
def Level.options : Level → List Opt
  | top => [.config, .host, .secret, .serial, .verifyTls, .verbose, .help, .version]
  | within .learn =>
    [.config, .repetitions, .host, .summary, .secret, .serial, .verifyTls, .verbose, .help]
  | within _ =>
    [.config, .details, .host, .key, .noDefaults, .secret, .repetitions, .serial, .summary,
      .verifyTls, .verbose, .help]

end Till.CommandLine
