import Till.Settings.Document

/-!
# Where settings come from

A file, over it the environment, over that the flags of a command. Each layer replaces only the
values that it gives; a file that does not exist gives none.
-/

namespace Till

/-- What stands at the path of a settings file. -/
inductive SettingsFile
  | absent
  /-- Something that is not a text. -/
  | unreadable
  | text (s : String)
deriving DecidableEq, Repr

/-- The variables that settings are taken from. -/
structure Environment where
  host : Option String := none
  secret : Option String := none
  serial : Option String := none
  verifyTls : Option String := none
deriving DecidableEq, Repr

/-- The settings that a command gives itself. -/
structure Overrides where
  host : Option String := none
  secret : Option String := none
  serial : Option String := none
  verifyTls : Bool := false
deriving DecidableEq, Repr

namespace Environment

/-- The environment by its variables. -/
def ofVariables (get : String → Option String) : Environment :=
  ⟨get "KKM_HOST", get "KKM_SECRET", get "KKM_SERIAL", get "KKM_VERIFY_TLS"⟩

/-- The truth value that a word names in any case. -/
def switch? (word : String) : Option Bool :=
  let folded := Text.lower word
  if folded ∈ ["1", "true", "yes", "on"] then some true
  else if folded ∈ ["0", "false", "no", "off"] then some false
  else none

end Environment

namespace Settings

/-- Where the file is looked for if no path is given, from the home folder. -/
def defaultPath : String :=
  ".config/kkm-client/kkm.toml"

def ofFile : SettingsFile → Result Settings
  | .absent => .ok {}
  | .unreadable => .error .unreadableConfig
  | .text s => parse s

/-- A connection with the parts that are given. -/
def replaced (c : Connection) (host secret serial : Option String) : Connection :=
  ⟨host.getD c.host, secret.getD c.secret, serial.getD c.serial⟩

def withEnvironment (s : Settings) (e : Environment) : Settings :=
  { s with
    connection := replaced s.connection e.host e.secret e.serial
    verifyTls := (e.verifyTls.bind Environment.switch?).getD s.verifyTls }

def withOverrides (s : Settings) (o : Overrides) : Settings :=
  { s with
    connection := replaced s.connection o.host o.secret o.serial
    verifyTls := o.verifyTls || s.verifyTls }

def validated (s : Settings) : Result Settings :=
  s.validate.map fun _ => s

/-- The settings of a file and the environment, not yet checked. -/
def read (file : SettingsFile) (e : Environment) : Result Settings :=
  (ofFile file).map (·.withEnvironment e)

def load (file : SettingsFile) (e : Environment) : Result Settings :=
  (read file e).bind validated

/-- Like `load`, but nothing at all counts in place of an error. -/
def loadOrDefault (file : SettingsFile) (e : Environment) : Settings :=
  match load file e with
  | .ok s => s
  | .error _ => {}

/-- The settings that a command runs with. -/
def layered (file : SettingsFile) (e : Environment) (o : Overrides) : Result Settings :=
  (read file e).bind fun s => (s.withOverrides o).validated

end Settings
end Till
