import Gs101.Aidl
import Gs101.Lib.CText
import Gs101.Monitor.Handlers

/-!
# Usb: the port status query

`queryVersionHelper` fills a vector with the status of every type-C port, from directories and
nodes of sysfs, and notifies it under `mLock`.

A step that C++ does not let through is an error, a `Fault`: an index past the end of the vector,
an exception of `std::stoi`, and `get` with another tag than the one the `PortRole` holds.

Traces are left out.  `enabledPath` is a global of the source; here it stands with the fields of
`Usb` that the query writes.
-/

namespace Gs101

namespace Usb

/-- How a call can leave the code other than by returning. -/
inductive Fault
  | outOfBounds
  | exception
  | wrongTag
  deriving DecidableEq

/-- `d_type` of a directory entry: `DT_LNK`, `DT_DIR` or another. -/
inductive DType
  | lnk
  | dir
  | other
  deriving DecidableEq

structure Dirent where
  d_name : String
  d_type : DType
  deriving DecidableEq

/-- What the query sees of the file system: `ReadFileToString` of a path, and the entries that
`readdir` returns for a directory, or `none` where the file or directory cannot be opened. -/
structure FileSystem where
  read : String → Option String
  entries : String → Option (List Dirent)

/-- What does not change from query to query: the order in which an `unordered_map` with these
pairs is traversed, the value that `PortStatus()` builds, the two flags, and the platform of the
data session monitor. -/
structure Setting where
  order : List (String × Bool) → List (String × Bool)
  perm : ∀ names, (order names).Perm names
  freshPortStatus : PortStatus
  enableUsbDataComplianceWarning : Bool
  enableInputPowerLimitedWarning : Bool
  platform : Monitor.Platform

/-- The fields of `Usb` that the query reads and writes. -/
structure Fields where
  mCallback : Bool
  mUsbDataEnabled : Bool
  mI2cBusNumber : ℤ
  mI2cClientPath : String
  enabledPath : String
  mUsbDataSessionMonitor : Monitor

def kHsi2cPath : String := "/sys/devices/platform/10d50000.hsi2c"
def kComplianceWarningsPath : String := "device/non_compliant_reasons"
def kComplianceWarningBC12 : String := "bc12"
def kComplianceWarningDebugAccessory : String := "debug-accessory"
def kComplianceWarningMissingRp : String := "missing_rp"
def kComplianceWarningOther : String := "other"
def kComplianceWarningInputPowerLimited : String := "input_power_limited"
def kMax77759TcpcDevName : String := "i2c-max77759tcpc"
/-- `0x25` as `%04x` prints it. -/
def kMax77759TcpcClientId : String := "0025"
def kContaminantDetectionPath : String := "contaminant_detection"
def kStatusPath : String := "contaminant_detection_status"
def kSinkLimitEnable : String := "usb_limit_sink_enable"
def kTypecPath : String := "/sys/class/typec"
def kPogoUsbActive : String := "/sys/devices/platform/google,pogo/pogo_usb_active"
def kPowerSupplyUsbType : String := "/sys/class/power_supply/usb/usb_type"

/-! ### The vector -/

/-- `currentPortStatus[i]`, to be read. -/
def getAt (ps : List PortStatus) (i : ℕ) : Except Fault PortStatus :=
  match ps[i]? with
  | some p => .ok p
  | none => .error .outOfBounds

/-- `currentPortStatus[i]`, to be assigned to. -/
def setAt (ps : List PortStatus) (i : ℕ) (f : PortStatus → PortStatus) :
    Except Fault (List PortStatus) :=
  if i < ps.length then .ok (ps.modify i f) else .error .outOfBounds

/-! ### The i2c client -/

/-- The loop over the entries of `kHsi2cPath`: the first directory named after a bus. -/
def findI2cBus (entries : List Dirent) : Option ℕ :=
  entries.findSome? fun ep =>
    if ep.d_type = .dir then CText.scanUnsigned "i2c-" ep.d_name else none

/-- `getI2cBusNumber`; the `unsigned int` found is stored in an `int`. -/
def getI2cBusNumber (fs : FileSystem) (u : Fields) : ℤ × Fields :=
  if u.mI2cBusNumber ≥ 0 then (u.mI2cBusNumber, u)
  else match (fs.entries kHsi2cPath).bind findI2cBus with
    | some busNumber =>
        (Int.bmod busNumber (2 ^ 32), { u with mI2cBusNumber := Int.bmod busNumber (2 ^ 32) })
    | none => (u.mI2cBusNumber, u)

/-- `getI2cClientPath`; the empty path when there is none. -/
def getI2cClientPath (fs : FileSystem) (u : Fields) : String × Fields :=
  if u.mI2cClientPath ≠ "" then (u.mI2cClientPath, u)
  else
    let (bus, u) := getI2cBusNumber fs u
    if bus < 0 then ("", u)
    else
      let labeled := kHsi2cPath ++ "/i2c-" ++ toString bus ++ "/" ++ kMax77759TcpcDevName
      let unLabeled := kHsi2cPath ++ "/i2c-" ++ toString bus ++ "/" ++ toString bus ++ "-" ++
        kMax77759TcpcClientId
      if (fs.entries labeled).isSome then (labeled, { u with mI2cClientPath := labeled })
      else if (fs.entries unLabeled).isSome then (unLabeled, { u with mI2cClientPath := unLabeled })
      else ("", u)

/-! ### The parts of the query -/

/-- `extractRole`: the word in brackets; `substr` clamps a count that wrapped around. -/
def extractRole (roleName : String) : String :=
  match roleName.toList.idxOf? '[', roleName.toList.idxOf? ']' with
  | some first, some last =>
      String.ofList
        ((roleName.toList.drop (first + 1)).take ((last + 2 ^ 64 - first - 1) % 2 ^ 64))
  | _, _ => roleName

/-- `getAccessoryConnected`; `none` is `Status::ERROR`. -/
def getAccessoryConnected (fs : FileSystem) (portName : String) : Option String :=
  (fs.read ("/sys/class/typec/" ++ portName ++ "-partner/accessory_mode")).map CText.trim

/-- The node that `getCurrentRoleHelper` reads: the mode too is taken from `data_role`. -/
def roleNode (portName : String) : PortRole → String
  | .powerRole _ => "/sys/class/typec/" ++ portName ++ "/power_role"
  | .dataRole _ | .mode _ => "/sys/class/typec/" ++ portName ++ "/data_role"

/-- The role reset to `NONE`, under its tag. -/
def resetRole : PortRole → PortRole
  | .powerRole _ => .powerRole .none
  | .dataRole _ => .dataRole .none
  | .mode _ => .mode .none

/-- The last part of `getCurrentRoleHelper`, on the word that was read. -/
def assignRole (currentRole : PortRole) (roleName : String) : Status × PortRole :=
  if roleName = "source" then (.success, .powerRole .source)
  else if roleName = "sink" then (.success, .powerRole .sink)
  else if roleName = "host" then
    match currentRole with
    | .dataRole _ => (.success, .dataRole .host)
    | _ => (.success, .mode .dfp)
  else if roleName = "device" then
    match currentRole with
    | .dataRole _ => (.success, .dataRole .device)
    | _ => (.success, .mode .ufp)
  else if roleName ≠ "none" then (.unrecognizedRole, currentRole)
  else (.success, currentRole)

/-- `getCurrentRoleHelper`: the status and what `currentRole` then holds. -/
def getCurrentRoleHelper (fs : FileSystem) (portName : String) (connected : Bool)
    (currentRole : PortRole) : Status × PortRole :=
  let currentRole := resetRole currentRole
  if !connected then (.success, currentRole)
  else
    let readRole : Status × PortRole :=
      match fs.read (roleNode portName currentRole) with
      | none => (.error, currentRole)
      | some roleName => assignRole currentRole (extractRole (CText.trim roleName))
    match currentRole with
    | .mode _ =>
        match getAccessoryConnected fs portName with
        | none => (.error, currentRole)
        | some accessory =>
            if accessory = "analog_audio" then (.success, .mode .audioAccessory)
            else if accessory = "debug" then (.success, .mode .debugAccessory)
            else readRole
    | _ => readRole

/-- `get<PortRole::powerRole>()`. -/
def getPowerRole : PortRole → Except Fault PortPowerRole
  | .powerRole r => .ok r
  | _ => .error .wrongTag

/-- `get<PortRole::dataRole>()`. -/
def getDataRole : PortRole → Except Fault PortDataRole
  | .dataRole r => .ok r
  | _ => .error .wrongTag

/-- `get<PortRole::mode>()`. -/
def getMode : PortRole → Except Fault PortMode
  | .mode m => .ok m
  | _ => .error .wrongTag

/-- One entry of `kTypecPath`: a port, not connected unless its partner says so, or a partner. -/
def addTypeCName (names : List (String × Bool)) (ep : Dirent) : List (String × Bool) :=
  if ep.d_type ≠ .lnk then names
  else if !CText.contains ep.d_name "-partner" then
    if ep.d_name ∈ names.map Prod.fst then names else names ++ [(ep.d_name, false)]
  else
    let port := CText.strtok ep.d_name '-'
    if port ∈ names.map Prod.fst then
      names.map fun name => if name.1 = port then (port, true) else name
    else names ++ [(port, true)]

/-- `getTypeCPortNamesHelper`: the pairs of the map, or `none` for `Status::ERROR`. -/
def getTypeCPortNamesHelper (fs : FileSystem) : Option (List (String × Bool)) :=
  (fs.entries kTypecPath).map fun entries => entries.foldl addTypeCName []

def canSwitchRoleHelper (fs : FileSystem) (portName : String) : Bool :=
  match fs.read ("/sys/class/typec/" ++ portName ++ "-partner/supports_usb_power_delivery") with
  | some supportsPD => CText.trim supportsPD = "yes"
  | none => false

/-- The test of `kPogoUsbActive`; a node that cannot be read counts as not docked. -/
def pogoUsbActive (fs : FileSystem) : Except Fault Bool :=
  match fs.read kPogoUsbActive with
  | none => .ok false
  | some text =>
      match CText.stoi (CText.trim text) with
      | some n => .ok (n = 1)
      | none => .error .exception

/-- What is pushed to `usbDataStatus`. -/
def usbDataStatuses (docked mUsbDataEnabled : Bool) : List UsbDataStatus :=
  (if docked then [.disabledDock] else []) ++ (if !mUsbDataEnabled then [.disabledForce] else []) ++
    (if !docked && mUsbDataEnabled then [.enabled] else [])

/-- The `powerBrickStatus` of a port with this status; left as it is when `usb_type` cannot be
read. -/
def powerBrick (fs : FileSystem) (connected : Bool) (p : PortStatus) : PowerBrickStatus :=
  if !connected then .notConnected
  else if p.currentPowerRole = .source then .notConnected
  else match fs.read kPowerSupplyUsbType with
    | none => p.powerBrickStatus
    | some usbType =>
        let text := CText.cString usbType.toList
        if CText.contains text "[D" then .connected
        else if CText.contains text "[U" then .unknown
        else .notConnected

/-- One of the three steps of `getPortStatusHelper` that ask for a role; a status other than
SUCCESS stands for `goto done`. -/
def portRole {α : Type} (fs : FileSystem) (i : ℕ) (port : String × Bool) (currentRole : PortRole)
    (get : PortRole → Except Fault α) (put : α → PortStatus → PortStatus) (ps : List PortStatus) :
    Except Fault (Status × List PortStatus) :=
  match getCurrentRoleHelper fs port.1 port.2 currentRole with
  | (.success, currentRole) => do
      let role ← get currentRole
      let ps ← setAt ps i (put role)
      return (.success, ps)
  | _ => .ok (.error, ps)

def portPowerRole (fs : FileSystem) (i : ℕ) (port : String × Bool) :
    List PortStatus → Except Fault (Status × List PortStatus) :=
  portRole fs i port (.powerRole .none) getPowerRole fun r p => { p with currentPowerRole := r }

def portDataRole (fs : FileSystem) (i : ℕ) (port : String × Bool) :
    List PortStatus → Except Fault (Status × List PortStatus) :=
  portRole fs i port (.dataRole .none) getDataRole fun r p => { p with currentDataRole := r }

def portMode (fs : FileSystem) (i : ℕ) (port : String × Bool) :
    List PortStatus → Except Fault (Status × List PortStatus) :=
  portRole fs i port (.mode .none) getMode fun r p => { p with currentMode := r }

/-- The rest of the loop's body, once the roles are known. -/
def portDetails (fs : FileSystem) (u : Fields) (i : ℕ) (port : String × Bool)
    (ps : List PortStatus) : Except Fault (List PortStatus) := do
  let canSwitch := port.2 && canSwitchRoleHelper fs port.1
  let ps ← setAt ps i fun p =>
    { p with
      canChangeMode := true
      canChangeDataRole := canSwitch
      canChangePowerRole := canSwitch
      supportedModes := p.supportedModes ++ [.drp] }
  let docked ← pogoUsbActive fs
  let ps ← setAt ps i fun p =>
    { p with usbDataStatus := p.usbDataStatus ++ usbDataStatuses docked u.mUsbDataEnabled }
  setAt ps i fun p => { p with powerBrickStatus := powerBrick fs port.2 p }

/-- Go on after SUCCESS, and leave with any other status: `goto done`. -/
def orDone (step : Except Fault (Status × List PortStatus))
    (next : List PortStatus → Except Fault (Status × List PortStatus)) :
    Except Fault (Status × List PortStatus) := do
  let (result, ps) ← step
  if result = .success then next ps else return (result, ps)

/-- The loop's body. -/
def portBody (fs : FileSystem) (u : Fields) (i : ℕ) (port : String × Bool)
    (ps : List PortStatus) : Except Fault (Status × List PortStatus) := do
  let ps ← setAt ps i fun p => { p with portName := port.1 }
  orDone (portPowerRole fs i port ps) fun ps =>
    orDone (portDataRole fs i port ps) fun ps =>
      orDone (portMode fs i port ps) fun ps => do
        let ps ← portDetails fs u i port ps
        return (.success, ps)

/-- The loop over the ports, from index `i` on. -/
def portLoop (fs : FileSystem) (u : Fields) :
    ℕ → List (String × Bool) → List PortStatus → Except Fault (Status × List PortStatus)
  | _, [], ps => .ok (.success, ps)
  | i, port :: ports, ps => orDone (portBody fs u i port ps) (portLoop fs u (i + 1) ports)

/-- `getPortStatusHelper`, called with an empty vector. -/
def getPortStatusHelper (S : Setting) (fs : FileSystem) (u : Fields) :
    Except Fault (Status × List PortStatus) :=
  match getTypeCPortNamesHelper fs with
  | none => .ok (.error, [])
  | some names =>
      portLoop fs u 0 (S.order names) (List.replicate names.length S.freshPortStatus)

def queryMoistureDetectionStatus (fs : FileSystem) (u : Fields) (ps : List PortStatus) :
    Except Fault (Status × Fields × List PortStatus) := do
  let ps ← setAt ps 0 fun p =>
    { p with
      supportedContaminantProtectionModes :=
        p.supportedContaminantProtectionModes ++ [.forceDisable]
      contaminantProtectionStatus := .none
      contaminantDetectionStatus := .disabled
      supportsEnableContaminantPresenceDetection := true
      supportsEnableContaminantPresenceProtection := false }
  let (i2cPath, u) := getI2cClientPath fs u
  if i2cPath = "" then return (.error, u, ps)
  let u := { u with enabledPath := i2cPath ++ "/" ++ kContaminantDetectionPath }
  match fs.read u.enabledPath with
  | none => return (.error, u, ps)
  | some enabled =>
      if CText.trim enabled ≠ "1" then return (.success, u, ps)
      match fs.read (i2cPath ++ "/" ++ kStatusPath) with
      | none => return (.error, u, ps)
      | some status =>
          let ps ← setAt ps 0 fun p =>
            if CText.trim status = "1" then
              { p with
                contaminantDetectionStatus := .detected
                contaminantProtectionStatus := .forceDisable }
            else { p with contaminantDetectionStatus := .notDetected }
          return (.success, u, ps)

def queryPowerTransferStatus (fs : FileSystem) (u : Fields) (ps : List PortStatus) :
    Except Fault (Status × Fields × List PortStatus) := do
  let (i2cPath, u) := getI2cClientPath fs u
  if i2cPath = "" then return (.error, u, ps)
  match fs.read (i2cPath ++ "/" ++ kSinkLimitEnable) with
  | none => return (.error, u, ps)
  | some enabled =>
      let ps ← setAt ps 0 fun p => { p with powerTransferLimited := CText.trim enabled = "1" }
      return (.success, u, ps)

/-- The warning that a reason stands for. -/
def complianceWarning (S : Setting) (reason : String) : Option ComplianceWarning :=
  if CText.startsWith reason kComplianceWarningDebugAccessory then some .debugAccessory
  else if CText.startsWith reason kComplianceWarningBC12 then some .bc12
  else if CText.startsWith reason kComplianceWarningMissingRp then some .missingRp
  else if CText.startsWith reason kComplianceWarningOther ||
      CText.startsWith reason kComplianceWarningInputPowerLimited then
    if S.enableUsbDataComplianceWarning && S.enableInputPowerLimitedWarning then
      some .inputPowerLimited
    else some .other
  else none

/-- The body of the loop of `queryNonCompliantChargerStatus`, on `currentPortStatus[i]`. -/
def nonCompliantCharger (S : Setting) (fs : FileSystem) (p : PortStatus) : PortStatus :=
  let p := { p with supportsComplianceWarnings := true }
  match fs.read (kTypecPath ++ "/" ++ p.portName ++ "/" ++ kComplianceWarningsPath) with
  | none => p
  | some reasons =>
      let reasonsList :=
        CText.tokenize (CText.cString reasons.toList) ['[', ']', ',', ' ', '\n']
      let p := { p with
        complianceWarnings := p.complianceWarnings ++ reasonsList.filterMap (complianceWarning S) }
      if p.complianceWarnings ≠ [] ∧ p.currentPowerRole = .none then
        { p with
          currentMode := .ufp
          currentPowerRole := .sink
          currentDataRole := .none
          powerBrickStatus := .connected }
      else p

/-- `queryNonCompliantChargerStatus`: the loop stays below `size()`. -/
def queryNonCompliantChargerStatus (S : Setting) (fs : FileSystem) (ps : List PortStatus) :
    List PortStatus :=
  ps.map (nonCompliantCharger S fs)

def queryUsbDataSession (S : Setting) (u : Fields) (ps : List PortStatus) :
    Except Fault (List PortStatus) := do
  let port ← getAt ps 0
  let warnings := u.mUsbDataSessionMonitor.getComplianceWarnings S.platform port.currentDataRole
  setAt ps 0 fun p => { p with complianceWarnings := p.complianceWarnings ++ warnings }

/-- The part of `queryVersionHelper` up to the callback. -/
def queryPorts (S : Setting) (fs : FileSystem) (u : Fields) :
    Except Fault (Status × Fields × List PortStatus) := do
  let (status, ps) ← getPortStatusHelper S fs u
  let (_, u, ps) ← queryMoistureDetectionStatus fs u ps
  let (_, u, ps) ← queryPowerTransferStatus fs u ps
  let ps ← queryUsbDataSession S u (queryNonCompliantChargerStatus S fs ps)
  return (status, u, ps)

/-- What a call of `queryVersionHelper` leaves behind: the fault that ended it, whether `mLock` is
still held, and the arguments of `notifyPortStatusChange`, if it was reached. -/
structure Outcome where
  fault : Option Fault
  mLock : Bool
  notified : Option (List PortStatus × Status)
  deriving DecidableEq

def queryVersionHelper (S : Setting) (fs : FileSystem) (u : Fields) : Outcome :=
  match queryPorts S fs u with
  -- nothing on the way out unlocks `mLock`
  | .error f => { fault := some f, mLock := true, notified := none }
  | .ok (status, _, ps) =>
      { fault := none
        mLock := false
        notified := if u.mCallback then some (ps, status) else none }

end Usb

end Gs101
