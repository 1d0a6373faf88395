import Gs101.Monitor.System

/-!
# UsbDataSessionMonitor: uevents and the descriptors that are ready

`monitorThread` waits for descriptors and handles each one that is ready.  A uevent message is a
list of fields; `handleUevent` looks at each field for the devices that the constructor's regexes
name.

* `Config`: the regexes and paths given to the constructor;
* `UeventField`: one field, with what the kernel answers while it is handled, by path;
* `fieldEvents`: which handlers a field calls;
* `Ready`, `handle`: one descriptor that is ready.

`regexSearch` stands for `std::regex_search` with the regex compiled from its second argument.
-/

namespace Gs101

namespace Monitor

/-- The arguments of the constructor that name the devices. -/
structure Config where
  ueventRegex : Port → String
  filePath : Port → String

def kUdcUeventRegex : String := "/devices/platform/11110000.usb/11110000.dwc3/udc/11110000.dwc3"
def kUdcStatePath : String :=
  "/sys/devices/platform/11110000.usb/11110000.dwc3/udc/11110000.dwc3/state"
def kHost1UeventRegex : String :=
  "/devices/platform/11110000.usb/11110000.dwc3/xhci-hcd-exynos.[0-9].auto/usb2/2-0:1.0"
def kHost1StatePath : String := "/sys/bus/usb/devices/usb2/2-0:1.0/usb2-port1/state"
def kHost2UeventRegex : String :=
  "/devices/platform/11110000.usb/11110000.dwc3/xhci-hcd-exynos.[0-9].auto/usb3/3-0:1.0"
def kHost2StatePath : String := "/sys/bus/usb/devices/usb3/3-0:1.0/usb3-port1/state"

/-- The arguments that `Usb` passes. -/
def Config.usb : Config where
  ueventRegex
    | .device => kUdcUeventRegex
    | .host1 => kHost1UeventRegex
    | .host2 => kHost2UeventRegex
  filePath
    | .device => kUdcStatePath
    | .host1 => kHost1StatePath
    | .host2 => kHost2StatePath

/-- A field of a uevent message.  The answers of `open`, `epoll_ctl` and `ReadFileToString` are
those for the file with a path. -/
structure UeventField where
  text : String
  openFile : String → Open
  epollCtl : String → Bool
  read : String → Option String

variable (regexSearch : String → String → Bool) (c : Config)

/-- The loop's body over the host ports. -/
def hostFieldEvents (f : UeventField) (p : HostPort) : List Event :=
  if regexSearch f.text (c.ueventRegex p) then
    if CText.startsWith f.text "bind@" then
      [.bind p (f.openFile (c.filePath p)) (f.epollCtl (c.filePath p))]
    else if CText.startsWith f.text "unbind@" then [.unbind p (f.epollCtl (c.filePath p))]
    else []
  else []

/-- The file that `updateUdcBindStatus` reads. -/
def functionPath (devname : String) : String := "/sys" ++ devname ++ "/function"

def deviceFieldEvents (f : UeventField) : List Event :=
  if regexSearch f.text (c.ueventRegex .device) then
    if CText.startsWith f.text "change@" then
      let devname := String.ofList (f.text.toList.drop "change@".length)
      [.udcChange (f.read (functionPath devname))]
    else []
  else []

/-- What `handleUevent` does about a field: the host ports first, in their order, then the udc. -/
def fieldEvents (f : UeventField) : List Event :=
  hostFieldEvents regexSearch c f ⟨.host1, by decide⟩ ++
    hostFieldEvents regexSearch c f ⟨.host2, by decide⟩ ++ deviceFieldEvents regexSearch c f

/-- A descriptor that is ready, with what is read from it. -/
inductive Ready
  | uevent (fields : List UeventField)
  | timer
  | dataRole (r : FileRead)
  | deviceState (p : Port) (r : FileRead)

/-- The handlers that `monitorThread` calls for a ready descriptor. -/
def readyEvents : Ready → List Event
  | .uevent fields => fields.flatMap (fieldEvents regexSearch c)
  | .timer => [.timer]
  | .dataRole r => [.dataRole r]
  | .deviceState p r => [.deviceState p r]

end Monitor

namespace System

open Monitor

variable (P : Platform) (regexSearch : String → String → Bool) (c : Config)

def handle (s : System) (ready : Ready) : System :=
  Runs.run (step P) s (readyEvents regexSearch c ready)

/-- The thread's loop, over descriptors in the order in which they are ready. -/
def monitorThread (s : System) (readies : List Ready) : System :=
  Runs.run (handle P regexSearch c) s readies

/-! ### What a ready descriptor does to the monitor's fields -/

variable {P regexSearch c} (s : System)

theorem monitorThread_cons (ready : Ready) (readies : List Ready) :
    monitorThread P regexSearch c s (ready :: readies) =
      monitorThread P regexSearch c (handle P regexSearch c s ready) readies :=
  Runs.run_cons ..

theorem monitor_handle_dataRole (r : FileRead) :
    (handle P regexSearch c s (.dataRole r)).monitor = handleDataRoleEvent P r s.monitor := by
  simp only [handle, readyEvents, Runs.run_cons, Runs.run_nil, step]

theorem monitor_handle_deviceState (p : Port) (r : FileRead) :
    (handle P regexSearch c s (.deviceState p r)).monitor =
      handleDeviceStateEvent P p r s.monitor := by
  simp only [handle, readyEvents, Runs.run_cons, Runs.run_nil, step]

theorem monitor_handle_timer :
    (handle P regexSearch c s .timer).monitor = handleTimerEvent P s.monitor := by
  simp only [handle, readyEvents, Runs.run_cons, Runs.run_nil, step]

/-- Binding and unbinding a host port does not touch the monitor's fields. -/
theorem monitor_hostFieldEvents (f : UeventField) (p : HostPort) :
    (Runs.run (step P) s (hostFieldEvents regexSearch c f p)).monitor = s.monitor := by
  unfold hostFieldEvents
  split_ifs <;> rfl

variable (P regexSearch c) in
theorem monitor_fieldEvents (f : UeventField) :
    ∃ t : System, t.monitor = s.monitor ∧
      Runs.run (step P) s (fieldEvents regexSearch c f) =
        Runs.run (step P) t (deviceFieldEvents regexSearch c f) := by
  refine ⟨_, ?_, by rw [fieldEvents, Runs.run_append]⟩
  rw [Runs.run_append, monitor_hostFieldEvents, monitor_hostFieldEvents]

theorem monitor_udcChange (function : Option String) :
    (Runs.run (step P) s [.udcChange function]).monitor =
      updateUdcBindStatus P function s.monitor := by
  simp only [Runs.run_cons, Runs.run_nil, step]

end System

end Gs101
