import Till.FieldError

/-!
# Errors of the client

What stops an operation before anything is sent. What goes wrong in an exchange is not among them:
that is an envelope.
-/

namespace Till

inductive ConfigFault
  | noSerial
  | noHost
  | connection (m : Mismatch)
deriving Repr

def ConfigFault.message : ConfigFault → String
  | noSerial => "device serial number is required"
  | noHost => "connection.host must not be empty"
  | connection m => "connection: " ++ m.message

inductive ClientError
  | invalidConfiguration (fault : ConfigFault)
  /-- The configuration file cannot be read, or is not one. -/
  | unreadableConfig
  | unwritableConfig
  | field (e : FieldError)
  /-- A bulk record has a key that the operation does not know. -/
  | unknownKey (method key : String)
  /-- The text of a bulk record is not that of an object. -/
  | malformedDetails
  | unsupportedKind (given : String)
  /-- A mutating operation has no idempotency key, or a blank one. -/
  | missingKey (method : String)
deriving Repr

namespace ClientError

/-- A value was not accepted. -/
def isValidation : ClientError → Bool
  | field _ => true
  | unknownKey .. => true
  | malformedDetails => true
  | _ => false

/-- The configuration is to blame. -/
def isConfig : ClientError → Bool
  | invalidConfiguration _ => true
  | unreadableConfig => true
  | unwritableConfig => true
  | _ => false

def message : ClientError → String
  | invalidConfiguration fault => "Invalid configuration: " ++ fault.message
  | unreadableConfig => "Failed to load config"
  | unwritableConfig => "Failed to save config"
  | field e => "Validation failed: " ++ e.message
  | unknownKey method key => "Unknown detail key '" ++ key ++ "' for " ++ method
  | malformedDetails => "Serialization failed: --details must be a JSON object"
  | unsupportedKind given => "Unsupported operation: '" ++ given ++ "'"
  | missingKey method => "Idempotency key is required for " ++ method

end ClientError

/-- A value, or the error that stands for it. -/
abbrev Result (α : Type) := Except ClientError α

/-- A checked value among the client's results. -/
def Checked.lift {α : Type} (c : Checked α) : Result α :=
  c.mapError .field

end Till
