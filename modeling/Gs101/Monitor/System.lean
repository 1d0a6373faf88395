import Gs101.Lib.Runs
import Gs101.Monitor.Handlers
import Gs101.Monitor.StateFiles

/-!
# UsbDataSessionMonitor: the monitor thread

`monitorThread` handles one ready descriptor after another.  A `System` is the monitor with its
state files, an `Event` is one call of a handler together with what the kernel answers in it; a
uevent message is one event for each of its fields that `handleUevent` reacts to.
-/

namespace Gs101

namespace Monitor

/-- The ports whose controller comes and goes. -/
abbrev HostPort := {p : Port // p ≠ .device}

inductive Event
  /-- The data-role file is ready. -/
  | dataRole (r : FileRead)
  /-- The state file of a port is ready. -/
  | deviceState (p : Port) (r : FileRead)
  /-- The timer is ready. -/
  | timer
  /-- A `change@` uevent of the udc, with the content of its `function` file. -/
  | udcChange (function : Option String)
  /-- A `bind@` uevent of a host port. -/
  | bind (p : HostPort) (openFile : Open) (epollCtl : Bool)
  /-- An `unbind@` uevent of a host port. -/
  | unbind (p : HostPort) (epollCtl : Bool)

end Monitor

structure System where
  monitor : Monitor
  files : Monitor.StateFiles

namespace System

open Monitor

/-- The fields after the constructor. -/
def construct (mDataRole : PortDataRole) (udc : Option String) (openFile : Port → Open)
    (epollCtl : Port → Bool) : System :=
  ⟨Monitor.construct mDataRole udc, StateFiles.construct openFile epollCtl⟩

/-- One pass through the loop of `monitorThread`. -/
def step (P : Platform) (s : System) : Event → System
  | .dataRole r => { s with monitor := handleDataRoleEvent P r s.monitor }
  | .deviceState p r => { s with monitor := handleDeviceStateEvent P p r s.monitor }
  | .timer => { s with monitor := handleTimerEvent P s.monitor }
  | .udcChange function => { s with monitor := updateUdcBindStatus P function s.monitor }
  | .bind p openFile epollCtl =>
      { s with files := s.files.addEpollFile p.val openFile epollCtl }
  | .unbind p epollCtl => { s with files := s.files.removeEpollFile p.val epollCtl }

/-- A property of the monitor's fields that every handler keeps is kept by every event. -/
theorem step_monitor {P : Platform} {I : Monitor → Prop}
    (dataRole : ∀ r m, I m → I (handleDataRoleEvent P r m))
    (deviceState : ∀ p r m, I m → I (handleDeviceStateEvent P p r m))
    (timer : ∀ m, I m → I (handleTimerEvent P m))
    (udcChange : ∀ f m, I m → I (updateUdcBindStatus P f m))
    (s : System) (e : Event) (h : I s.monitor) : I (step P s e).monitor := by
  cases e with
  | dataRole r => simp only [step]; exact dataRole r _ h
  | deviceState p r => simp only [step]; exact deviceState p r _ h
  | timer => simp only [step]; exact timer _ h
  | udcChange f => simp only [step]; exact udcChange f _ h
  | bind p openFile epollCtl => exact h
  | unbind p epollCtl => exact h

end System

end Gs101
