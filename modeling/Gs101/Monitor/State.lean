import Gs101.Aidl
import Gs101.Lib.CText
import Mathlib.Data.Int.Order.Basic

/-!
# UsbDataSessionMonitor: constants and state

The fields of `UsbDataSessionMonitor` that its handlers read and write, with two ghost fields: how
often the boot clock has been read, and a log of what the monitor did.  Descriptors of the state
files are kept apart, in `StateFiles`.

Counts and elapsed seconds, which the source narrows to `int`, are unbounded here: a history of
`2 ^ 31` strings does not fit in memory, and the boot clock does not reach `2 ^ 31` seconds.
-/

namespace Gs101

namespace Monitor

/-- A reading of `boot_clock`, in nanoseconds. -/
abbrev Time := ℤ

def usbStateMaxLen : ℕ := 20
def dataRoleMaxLen : ℕ := 10
def warningSurfaceDelaySec : ℤ := 5
def enumFailDefaultCountThreshold : ℕ := 3
def deviceFlakyConnectionConfiguredCountThreshold : ℕ := 5

def kNotAttachedState : String := "not attached\n"
def kAttachedState : String := "attached\n"
def kPoweredState : String := "powered\n"
def kDefaultState : String := "default\n"
def kAddressedState : String := "addressed\n"
def kConfiguredState : String := "configured\n"
def kSuspendedState : String := "suspended\n"

def kValidStates : List String :=
  [kNotAttachedState, kAttachedState, kPoweredState, kDefaultState, kAddressedState,
    kConfiguredState, kSuspendedState]

/-- The three monitored ports: the udc, the host high-speed and the host super-speed port. -/
inductive Port
  | device
  | host1
  | host2
  deriving DecidableEq

/-- The history of a `usbDeviceState`: states reported by the state file, and when. -/
structure UsbDeviceState where
  states : List String
  timestamps : List Time
  deriving DecidableEq

/-- The arguments from which `BuildVendorUsbDataSessionEvent` builds one metrics event. -/
structure SessionEvent where
  isHost : Bool
  now : Time
  start : Time
  states : List String
  timestamps : List Time
  deriving DecidableEq

/-- What the monitor does, as the log records it. -/
inductive Action
  /-- The state file of a port was read; the time is what the boot clock answers next. -/
  | stateRead (p : Port) (text : String) (time : Time)
  /-- `handleDataRoleEvent` read the data role. -/
  | roleRead (role : PortDataRole)
  /-- `setupNewSession` ran, with these fields. -/
  | sessionStart (role : PortDataRole) (start : Time) (udcBind : Bool)
  /-- `timerfd_settime` with `WARNING_SURFACE_DELAY_SEC`. -/
  | armTimer
  /-- `reportUsbDataSessionMetrics` built these events. -/
  | report (events : List SessionEvent)
  /-- `evaluateComplianceWarning` ran. -/
  | evaluate (elapsedTimeSec : ℤ)
  /-- `mWarningSet` was written. -/
  | assign (warnings : Finset ComplianceWarning)
  /-- `mUpdatePortStatusCb` was invoked, when `mWarningSet` was this set. -/
  | updatePortStatus (warnings : Finset ComplianceWarning)
  /-- `mUdcBind` was written. -/
  | udcBind (bind : Bool)
  deriving DecidableEq

/-- What does not change while the monitor runs: the answers of the boot clock in the order in
which it is asked, the flag `enable_report_usb_data_compliance_warning`, and whether
`mUpdatePortStatusCb` holds a function. -/
structure Platform where
  bootClock : ℕ → Time
  mono : ∀ a b, a ≤ b → bootClock a ≤ bootClock b
  enableReportUsbDataComplianceWarning : Bool
  mUpdatePortStatusCb : Bool

/-- A platform with the flag on and a callback, whose clock advances by a second at each reading. -/
def Platform.secondHand : Platform where
  bootClock n := (n : ℤ) * 1000000000
  mono a b h := by
    show (a : ℤ) * 1000000000 ≤ (b : ℤ) * 1000000000
    omega
  enableReportUsbDataComplianceWarning := true
  mUpdatePortStatusCb := true

end Monitor

/-- The session fields of `UsbDataSessionMonitor`. -/
structure Monitor where
  mDeviceState : Monitor.UsbDeviceState
  mHost1State : Monitor.UsbDeviceState
  mHost2State : Monitor.UsbDeviceState
  mWarningSet : Finset ComplianceWarning
  mDataRole : PortDataRole
  mDataSessionStart : Monitor.Time
  mUdcBind : Bool
  /-- Ghost: how often `boot_clock::now` was called. -/
  reads : ℕ
  /-- Ghost: what was done so far, oldest first. -/
  log : List Monitor.Action
  deriving DecidableEq

namespace Monitor

/-- The history of a port. -/
def portState (m : Monitor) : Port → UsbDeviceState
  | .device => m.mDeviceState
  | .host1 => m.mHost1State
  | .host2 => m.mHost2State

/-- Replace the history of a port. -/
def setPortState (m : Monitor) (p : Port) (d : UsbDeviceState) : Monitor :=
  match p with
  | .device => { m with mDeviceState := d }
  | .host1 => { m with mHost1State := d }
  | .host2 => { m with mHost2State := d }

/-- `mDataRole = role`. -/
def setDataRole (m : Monitor) (role : PortDataRole) : Monitor := { m with mDataRole := role }

/-- `mUdcBind = bind`. -/
def setUdcBind (m : Monitor) (bind : Bool) : Monitor :=
  { m with mUdcBind := bind, log := m.log ++ [.udcBind bind] }

/-- Append an action to the log. -/
def logged (m : Monitor) (a : Action) : Monitor := { m with log := m.log ++ [a] }

/-- Note a call of `boot_clock::now`. -/
def ticked (m : Monitor) (n : ℕ) : Monitor := { m with reads := m.reads + n }

end Monitor

end Gs101
