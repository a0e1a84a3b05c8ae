import Till.Details.Setter
import Till.Path

/-!
# Kinds of operation

Every operation of a device or of the server: its method on the wire, whether it only reads, and the
slots of its details. An operation says this of itself (`Kind.method`, `Kind.isQuery`); the kinds of
a device and those of the server each have lists of their own, in which it is written once more. Both
say the same (`Kind.method_device`, `Kind.isQuery_device`, and the same for the server).
-/

namespace Till

inductive DeviceKind
  | status
  | fullStatus
  | baseStatus
  | cashStat
  | printDemo
  | printNonFiscalDoc
  | printInfo
  | printFnRegistrations
  | printOfdExchangeStatus
  | printOfdTest
  | printCloseShiftReports
  | printLastDocument
  | cashIn
  | cashOut
  | closeShift
  | sell
  | sellReturn
  | reportX
  | resetState
deriving DecidableEq, Repr

namespace DeviceKind

def all : List DeviceKind :=
  [status, fullStatus, baseStatus, cashStat, printDemo, printNonFiscalDoc, printInfo,
    printFnRegistrations, printOfdExchangeStatus, printOfdTest, printCloseShiftReports,
    printLastDocument, cashIn, cashOut, closeShift, sell, sellReturn, reportX, resetState]

def slots : DeviceKind → List Slot
  | status | fullStatus | baseStatus | cashStat => []
  | printDemo | printInfo | printFnRegistrations | printOfdExchangeStatus | printOfdTest
  | printCloseShiftReports | printLastDocument => [.flag .electronically]
  | printNonFiscalDoc =>
    [.document, .flag .cliche, .flag .footer, .flag .margin, .flag .electronically]
  | cashIn | cashOut => [.operator, .cashSum, .flag .electronically]
  | sell | sellReturn =>
    [.operator, .items, .tax, .payment, .customer, .seller, .text .text, .text .header,
      .text .footer, .flag .electronically]
  | closeShift => [.operator, .flag .cashOut, .flag .electronically]
  | reportX | resetState => [.operator, .flag .closeShift, .flag .cashOut, .flag .electronically]

end DeviceKind

inductive ServerKind
  | ping
  | learn
  | resetRegistry
deriving DecidableEq, Repr

namespace ServerKind

def all : List ServerKind :=
  [ping, learn, resetRegistry]

/-- The name of the kind within the server. -/
def name : ServerKind → String
  | ping => "ping"
  | learn => "learn"
  | resetRegistry => "reset-registry"

def slots : ServerKind → List Slot
  | learn => [.connParams]
  | _ => []

end ServerKind

inductive Kind
  | device (k : DeviceKind)
  | server (k : ServerKind)
deriving DecidableEq, Repr

namespace Kind

/-- The method on the wire, as the operation itself has it. -/
def method : Kind → String
  | device .status => "status"
  | device .fullStatus => "full-status"
  | device .baseStatus => "base-status"
  | device .cashStat => "cash-stat"
  | device .printDemo => "print-demo"
  | device .printNonFiscalDoc => "print-non-fiscal-doc"
  | device .printInfo => "print-info"
  | device .printFnRegistrations => "print-fn-registrations"
  | device .printOfdExchangeStatus => "print-ofd-exchange-status"
  | device .printOfdTest => "print-ofd-test"
  | device .printCloseShiftReports => "print-close-shift-reports"
  | device .printLastDocument => "print-last-document"
  | device .cashIn => "cash-in"
  | device .cashOut => "cash-out"
  | device .closeShift => "close-shift"
  | device .sell => "sell"
  | device .sellReturn => "sell-return"
  | device .reportX => "report-x"
  | device .resetState => "reset-state"
  | server .ping => "ping"
  | server .learn => "kkm/learn"
  | server .resetRegistry => "kkm/reset-registry"

/-- The operation only reads: it has no details, and it can always be sent. -/
def isQuery : Kind → Bool
  | device .status | device .fullStatus | device .baseStatus | device .cashStat => true
  | server .ping => true
  | _ => false

def slots : Kind → List Slot
  | device k => k.slots
  | server k => k.slots

/-- The path of the operation; a device is addressed by its serial number. -/
def path (k : Kind) (serial : String) : String :=
  match k with
  | device _ => Path.join ["kkm", serial, k.method]
  | server _ => Path.normalize k.method

/-- The kind has the setter. -/
def offers (k : Kind) (s : Setter) : Bool :=
  match s.slot with
  | some slot => slot ∈ k.slots
  | none => !k.isQuery

end Kind

/-! ### The lists of devices and of the server -/

namespace DeviceKind

/-- The method of the operation that is listed for the kind. -/
def method : DeviceKind → String
  | status => Kind.method (.device .status)
  | fullStatus => Kind.method (.device .fullStatus)
  | baseStatus => Kind.method (.device .baseStatus)
  | cashStat => Kind.method (.device .cashStat)
  | printDemo => Kind.method (.device .printDemo)
  | printNonFiscalDoc => Kind.method (.device .printNonFiscalDoc)
  | printInfo => Kind.method (.device .printInfo)
  | printFnRegistrations => Kind.method (.device .printFnRegistrations)
  | printOfdExchangeStatus => Kind.method (.device .printOfdExchangeStatus)
  | printOfdTest => Kind.method (.device .printOfdTest)
  | printCloseShiftReports => Kind.method (.device .printCloseShiftReports)
  | printLastDocument => Kind.method (.device .printLastDocument)
  | cashIn => Kind.method (.device .cashIn)
  | cashOut => Kind.method (.device .cashOut)
  | closeShift => Kind.method (.device .closeShift)
  | sell => Kind.method (.device .sell)
  | sellReturn => Kind.method (.device .sellReturn)
  | reportX => Kind.method (.device .reportX)
  | resetState => Kind.method (.device .resetState)

/-- The kinds that only read. -/
def isQuery : DeviceKind → Bool
  | status | fullStatus | baseStatus | cashStat => true
  | _ => false

end DeviceKind

namespace ServerKind

def method : ServerKind → String
  | ping => Kind.method (.server .ping)
  | learn => Kind.method (.server .learn)
  | resetRegistry => Kind.method (.server .resetRegistry)

def isQuery : ServerKind → Bool
  | ping => true
  | _ => false

end ServerKind

namespace Kind

theorem method_device (k : DeviceKind) : (device k).method = k.method := by
  cases k <;> rfl

theorem method_server (k : ServerKind) : (server k).method = k.method := by
  cases k <;> rfl

theorem isQuery_device (k : DeviceKind) : (device k).isQuery = k.isQuery := by
  cases k <;> rfl

theorem isQuery_server (k : ServerKind) : (server k).isQuery = k.isQuery := by
  cases k <;> rfl

theorem path_device (k : DeviceKind) (serial : String) :
    (device k).path serial = Path.join ["kkm", serial, k.method] := by
  rw [path, method_device]

theorem path_server (k : ServerKind) (serial : String) :
    (server k).path serial = Path.normalize k.method := by
  rw [path, method_server]

end Kind
end Till
