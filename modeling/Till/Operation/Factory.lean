import Till.Operation.Job
import Till.Operation.Query

/-!
# Devices and the server

A device has a serial number that is not blank; the server needs none. Each offers its operations by
name, as queries and jobs that have the steps of one from the start, and for a kind that is only known
when the program runs. Which operation stands for which kind is written out, once more, in a list.
-/

namespace Till

structure Device where
  connection : Connection
  serial_ok : Text.isBlankText connection.serial = false

namespace Device

def make (c : Connection) : Result Device :=
  if h : Text.isBlankText c.serial = true then .error (.invalidConfiguration .noSerial)
  else .ok ⟨c, Bool.eq_false_iff.2 h⟩

def query (d : Device) (k : DeviceKind) (h : (Kind.device k).isQuery = true) : Query :=
  .fresh d.connection (.device k) h

def job (d : Device) (k : DeviceKind) (h : (Kind.device k).isQuery = false) : Job :=
  .fresh d.connection (.device k) h

variable (d : Device)

/-! ### Reading -/

def status : Query := d.query .status rfl

def fullStatus : Query := d.query .fullStatus rfl

def baseStatus : Query := d.query .baseStatus rfl

def cashStat : Query := d.query .cashStat rfl

/-! ### Printing -/

def printDemo : Job := d.job .printDemo rfl

def printNonFiscalDoc : Job := d.job .printNonFiscalDoc rfl

def printInfo : Job := d.job .printInfo rfl

def printFnRegistrations : Job := d.job .printFnRegistrations rfl

def printOfdExchangeStatus : Job := d.job .printOfdExchangeStatus rfl

def printOfdTest : Job := d.job .printOfdTest rfl

def printCloseShiftReports : Job := d.job .printCloseShiftReports rfl

def printLastDocument : Job := d.job .printLastDocument rfl

/-! ### Cash, receipts and shifts -/

def cashIn : Job := d.job .cashIn rfl

def cashOut : Job := d.job .cashOut rfl

def closeShift : Job := d.job .closeShift rfl

def sell : Job := d.job .sell rfl

def sellReturn : Job := d.job .sellReturn rfl

def reportX : Job := d.job .reportX rfl

def resetState : Job := d.job .resetState rfl

end Device

structure Server where
  connection : Connection

namespace Server

def query (s : Server) (k : ServerKind) (h : (Kind.server k).isQuery = true) : Query :=
  .fresh s.connection (.server k) h

def job (s : Server) (k : ServerKind) (h : (Kind.server k).isQuery = false) : Job :=
  .fresh s.connection (.server k) h

variable (s : Server)

def ping : Query := s.query .ping rfl

/-- Looks for a device on a connection and registers it. -/
def learn : Job := s.job .learn rfl

def resetRegistry : Job := s.job .resetRegistry rfl

end Server

/-! ### Operations by kind -/

inductive Prepared
  | query (q : Query)
  | job (j : Job)

/-- The operation of a kind. -/
def Device.prepare (d : Device) : DeviceKind → Prepared
  | .status => .query (d.query .status rfl)
  | .fullStatus => .query (d.query .fullStatus rfl)
  | .baseStatus => .query (d.query .baseStatus rfl)
  | .cashStat => .query (d.query .cashStat rfl)
  | .printDemo => .job (d.job .printDemo rfl)
  | .printNonFiscalDoc => .job (d.job .printNonFiscalDoc rfl)
  | .printInfo => .job (d.job .printInfo rfl)
  | .printFnRegistrations => .job (d.job .printFnRegistrations rfl)
  | .printOfdExchangeStatus => .job (d.job .printOfdExchangeStatus rfl)
  | .printOfdTest => .job (d.job .printOfdTest rfl)
  | .printCloseShiftReports => .job (d.job .printCloseShiftReports rfl)
  | .printLastDocument => .job (d.job .printLastDocument rfl)
  | .cashIn => .job (d.job .cashIn rfl)
  | .cashOut => .job (d.job .cashOut rfl)
  | .closeShift => .job (d.job .closeShift rfl)
  | .sell => .job (d.job .sell rfl)
  | .sellReturn => .job (d.job .sellReturn rfl)
  | .reportX => .job (d.job .reportX rfl)
  | .resetState => .job (d.job .resetState rfl)

def Server.prepare (s : Server) : ServerKind → Prepared
  | .ping => .query s.ping
  | .learn => .job s.learn
  | .resetRegistry => .job s.resetRegistry

end Till
