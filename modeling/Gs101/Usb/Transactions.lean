import Gs101.Lib.Logged
import Gs101.Usb.DataSignal
import Gs101.Usb.PortFaults

/-!
# Usb: operations that answer with a transaction id

Seven operations of the HAL write nodes of sysfs and notify a result that carries the transaction
id of the request.  `Answers` is what the kernel answers in one call; the log of the call holds the
attempted writes, the result, and the port status that `queryVersionHelper` notifies.

* `Reported`: one result is notified, with the id, and it is SUCCESS only if the writes succeeded
  and, for `queryPortStatus`, `getPortStatusHelper` returned SUCCESS;
* `Accountable`: the condition on what the kernel answers under which an operation is reported;
* `reported_iff`: an operation is reported if and only if it is accountable.

A `FILE` is buffered: what `fputs` takes reaches the node when `fclose` flushes it, and
`switchRole` passes over the result of `fclose`.
-/

namespace Gs101

namespace Usb

open Fallible

namespace Transaction

/-- What happens to one `FILE` that is opened for writing: whether `fopen` returns one, whether
`fputs` takes the text, and whether the flush of `fclose` succeeds. -/
structure Stream where
  fopen : Bool
  fputs : Bool
  fclose : Bool

/-- What the rest of the system answers in one call.  The writes are told apart by their path and
text: no operation writes the same text twice to one path. -/
structure Answers where
  /-- The file system, as the operation itself reads it. -/
  fs : FileSystem
  /-- `WriteStringToFile`, by path and text. -/
  writes : String → String → Bool
  /-- `fopen`, `fputs` and `fclose`, by path and text. -/
  stream : String → String → Stream
  /-- Whether `open` of `KPogoMoveDataToUsb` returns a descriptor. -/
  moveDataToUsb : Bool
  /-- `mPartnerUp` after each wait of `switchMode` that ends otherwise than by its timeout; the
  wait after the last of them times out. -/
  wakes : List Bool
  /-- The property `kDisableContatminantDetection`. -/
  contaminantDisable : String
  /-- The file system, as `queryVersionHelper` reads it. -/
  later : FileSystem

/-- The calls of `mCallback` that carry a transaction id. -/
inductive Notification
  | notifyEnableUsbDataStatus (portName : String) (enable : Bool) (retval : Status)
      (transactionId : ℤ)
  | notifyEnableUsbDataWhileDockedStatus (portName : String) (retval : Status)
      (transactionId : ℤ)
  | notifyResetUsbPortStatus (portName : String) (retval : Status) (transactionId : ℤ)
  | notifyRoleSwitchStatus (portName : String) (newRole : PortRole) (retval : Status)
      (transactionId : ℤ)
  | notifyLimitPowerTransferStatus (portName : String) (limit : Bool) (retval : Status)
      (transactionId : ℤ)
  | notifyQueryPortStatus (portName : String) (retval : Status) (transactionId : ℤ)
  | notifyContaminantEnabledStatus (portName : String) (enable : Bool) (retval : Status)
      (transactionId : ℤ)
  deriving DecidableEq

namespace Notification

def retval : Notification → Status
  | notifyEnableUsbDataStatus _ _ r _ | notifyEnableUsbDataWhileDockedStatus _ r _
  | notifyResetUsbPortStatus _ r _ | notifyRoleSwitchStatus _ _ r _
  | notifyLimitPowerTransferStatus _ _ r _ | notifyQueryPortStatus _ r _
  | notifyContaminantEnabledStatus _ _ r _ => r

def transactionId : Notification → ℤ
  | notifyEnableUsbDataStatus _ _ _ id | notifyEnableUsbDataWhileDockedStatus _ _ id
  | notifyResetUsbPortStatus _ _ id | notifyRoleSwitchStatus _ _ _ id
  | notifyLimitPowerTransferStatus _ _ _ id | notifyQueryPortStatus _ _ id
  | notifyContaminantEnabledStatus _ _ _ id => id

end Notification

/-- What an operation does, as its log records it. -/
inductive Effect
  /-- A write was attempted. -/
  | write (path text : String) (ok : Bool)
  | result (n : Notification)
  | notifyPortStatusChange (currentPortStatus : List PortStatus) (status : Status)
  deriving DecidableEq

/-- A part of an operation. -/
abbrev Step := Logged Effect Fault

def KPogoMoveDataToUsb : String := "/sys/devices/platform/google,pogo/move_data_to_usb"
def kSourceLimitEnable : String := "usb_limit_source_enable"
def kSinkLimitCurrent : String := "usb_limit_sink_current"

/-- `PULLUP_PATH`, `ID_PATH`, `VBUS_PATH` and `USB_DATA_PATH`. -/
def nodePath : Node → String
  | .pullup => "/config/usb_gadget/g1/UDC"
  | .id => "/sys/devices/platform/11110000.usb/dwc3_exynos_otg_id"
  | .vbus => "/sys/devices/platform/11110000.usb/dwc3_exynos_otg_b_sess"
  | .usbData => "/sys/devices/platform/11110000.usb/usb_data_enabled"

def toStatus (result : Bool) : Status := if result then .success else .error

variable (S : Setting) (A : Answers) (u : Fields)

def writeStringToFile (text path : String) : Step Bool :=
  .emit (.write path text (A.writes path text)) (A.writes path text)

/-- `mCallback`, if it is set. -/
def notify (n : Notification) : Step Unit :=
  if u.mCallback then .emit (.result n) () else pure ()

/-- `queryVersionHelper` with its notification logged: the fields that it leaves. -/
def queryVersionHelper : Step Fields :=
  match queryPorts S A.later u with
  | .error f => ⟨[], .error f⟩
  | .ok (status, fields, ps) =>
      ⟨if u.mCallback then [.notifyPortStatusChange ps status] else [], .ok fields⟩

/-! ### The operations -/

/-- Read the pull-up node, and write `text` if the content calls for it. -/
def setPullup (text : String) (ifRead : String → Bool) : Step Bool :=
  match A.fs.read (nodePath .pullup) with
  | some pullup =>
      if ifRead (CText.trim pullup) then writeStringToFile A text (nodePath .pullup)
      else pure true
  | none => pure true

def turnOn : Step Bool :=
  if u.mUsbDataEnabled then pure true
  else do
    let pulled ← setPullup A kGadgetName fun pullup => pullup ≠ kGadgetName
    let data ← writeStringToFile A "1" (nodePath .usbData)
    return pulled && data

def turnOff : Step Bool := do
  let pulled ← setPullup A "none" fun pullup => pullup = kGadgetName
  let id ← writeStringToFile A "1" (nodePath .id)
  let vbus ← writeStringToFile A "0" (nodePath .vbus)
  let data ← writeStringToFile A "0" (nodePath .usbData)
  return pulled && id && vbus && data

def enableUsbData (in_portName : String) (in_enable : Bool) (in_transactionId : ℤ) :
    Step Fields := do
  let result ← (if in_enable then turnOn A u else turnOff A)
  let u := if result then { u with mUsbDataEnabled := in_enable } else u
  notify u (.notifyEnableUsbDataStatus in_portName in_enable (toStatus result) in_transactionId)
  queryVersionHelper S A u

/-- Write `move_data_to_usb`, if it can be opened. -/
def moveData : Step Status :=
  if A.moveDataToUsb then do
    let success ← writeStringToFile A "1" KPogoMoveDataToUsb
    return toStatus success
  else pure .notSupported

def enableUsbDataWhileDocked (in_portName : String) (in_transactionId : ℤ) : Step Fields := do
  let status ← moveData A
  notify u (.notifyEnableUsbDataWhileDockedStatus in_portName status in_transactionId)
  queryVersionHelper S A u

def resetUsbPort (in_portName : String) (in_transactionId : ℤ) : Step Fields := do
  let result ← writeStringToFile A "none" (nodePath .pullup)
  notify u (.notifyResetUsbPortStatus in_portName (toStatus result) in_transactionId)
  return u

def appendRoleNodeHelper (portName : String) : PortRole → String
  | .dataRole _ => "/sys/class/typec/" ++ portName ++ "/data_role"
  | .powerRole _ => "/sys/class/typec/" ++ portName ++ "/power_role"
  | .mode _ => "/sys/class/typec/" ++ portName ++ "/port_type"

def convertRoletoString : PortRole → String
  | .powerRole .source => "source"
  | .powerRole .sink => "sink"
  | .dataRole .host => "host"
  | .dataRole .device => "device"
  | .mode .ufp => "sink"
  | .mode .dfp => "source"
  | _ => "none"

/-- The node of `string(portName.c_str())`. -/
def roleFile (portName : String) (role : PortRole) : String :=
  appendRoleNodeHelper (CText.cString portName.toList) role

/-- `fopen`, `fputs` and `fclose`: `none` without a `FILE`, else whether `fputs` took the text. -/
def putFile (filename text : String) : Step (Option Bool) :=
  let s := A.stream filename text
  .emit (.write filename text (s.fopen && s.fputs && s.fclose))
    (if s.fopen then some s.fputs else none)

def switchToDrp (portName : String) : Step Unit := do
  let _ ← putFile A (roleFile portName (.mode .none)) "dual"
  return ()

/-- The label `wait_again`: wait until the partner is up, or until a wait times out. -/
def waitAgain : List Bool → Bool
  | [] => false
  | mPartnerUp :: wakes => if mPartnerUp then true else waitAgain wakes

def switchMode (portName : String) (in_role : PortRole) : Step Bool := do
  let written ← putFile A (roleFile portName in_role) (convertRoletoString in_role)
  let roleSwitch := match written with
    | some true => waitAgain A.wakes
    | _ => false
  if roleSwitch then return true
  else do
    switchToDrp A portName
    return false

/-- What is read back is the role that was asked for. -/
def readBack (filename : String) (in_role : PortRole) : Bool :=
  match A.fs.read filename with
  | some written => extractRole (CText.trim written) = convertRoletoString in_role
  | none => false

/-- The branch of the power role and the data role. -/
def writeRole (portName : String) (in_role : PortRole) : Step Bool := do
  let written ← putFile A (roleFile portName in_role) (convertRoletoString in_role)
  return match written with
    | some true => readBack A (roleFile portName in_role) in_role
    | _ => false

/-- Every tag of a `PortRole` has a node, so `filename` is never empty. -/
def switchRole (in_portName : String) (in_role : PortRole) (in_transactionId : ℤ) :
    Step Fields := do
  let roleSwitch ← (match in_role with
    | .mode _ => switchMode A in_portName in_role
    | _ => writeRole A in_portName in_role)
  notify u (.notifyRoleSwitchStatus in_portName in_role (toStatus roleSwitch) in_transactionId)
  return u

/-- The writes of `limitPowerTransfer`, below the path of the client. -/
def writeLimits (i2cPath : String) (in_limit : Bool) : Step Bool := do
  let current ← (if in_limit then writeStringToFile A "0" (i2cPath ++ "/" ++ kSinkLimitCurrent)
    else pure true)
  let sink ← writeStringToFile A (if in_limit then "1" else "0")
    (i2cPath ++ "/" ++ kSinkLimitEnable)
  let source ← writeStringToFile A (if in_limit then "1" else "0")
    (i2cPath ++ "/" ++ kSourceLimitEnable)
  return current && sink && source

def limitPowerTransfer (in_portName : String) (in_limit : Bool) (in_transactionId : ℤ) :
    Step Fields := do
  let (i2cPath, u) := getI2cClientPath A.fs u
  let success ← (if i2cPath ≠ "" then writeLimits A i2cPath in_limit else pure false)
  (if in_transactionId ≥ 0 then
    notify u (.notifyLimitPowerTransferStatus in_portName in_limit (toStatus success)
      in_transactionId)
  else pure ())
  queryVersionHelper S A u

def queryPortStatus (in_transactionId : ℤ) : Step Fields := do
  let u ← queryVersionHelper S A u
  notify u (.notifyQueryPortStatus "all" .success in_transactionId)
  return u

def enableContaminantPresenceDetection (in_portName : String) (in_enable : Bool)
    (in_transactionId : ℤ) : Step Fields := do
  let success ← (if A.contaminantDisable ≠ "true" then
      writeStringToFile A (if in_enable then "1" else "0") u.enabledPath
    else pure true)
  notify u (.notifyContaminantEnabledStatus in_portName in_enable (toStatus success)
    in_transactionId)
  queryVersionHelper S A u

/-- A request of one of the seven operations. -/
inductive Operation
  | enableUsbData (in_portName : String) (in_enable : Bool)
  | enableUsbDataWhileDocked (in_portName : String)
  | resetUsbPort (in_portName : String)
  | switchRole (in_portName : String) (in_role : PortRole)
  | limitPowerTransfer (in_portName : String) (in_limit : Bool)
  | queryPortStatus
  | enableContaminantPresenceDetection (in_portName : String) (in_enable : Bool)
  deriving DecidableEq

def Operation.run (in_transactionId : ℤ) : Operation → Step Fields
  | enableUsbData portName enable =>
      Transaction.enableUsbData S A u portName enable in_transactionId
  | enableUsbDataWhileDocked portName =>
      Transaction.enableUsbDataWhileDocked S A u portName in_transactionId
  | resetUsbPort portName => Transaction.resetUsbPort A u portName in_transactionId
  | switchRole portName role => Transaction.switchRole A u portName role in_transactionId
  | limitPowerTransfer portName limit =>
      Transaction.limitPowerTransfer S A u portName limit in_transactionId
  | queryPortStatus => Transaction.queryPortStatus S A u in_transactionId
  | enableContaminantPresenceDetection portName enable =>
      Transaction.enableContaminantPresenceDetection S A u portName enable in_transactionId

/-! ### What the log says -/

/-- The result that an effect notifies, if it notifies one. -/
def Effect.notification : Effect → Option Notification
  | .result n => some n
  | _ => none

/-- A write that was attempted succeeded. -/
def Effect.Done : Effect → Prop
  | .write _ _ ok => ok = true
  | _ => True

/-- The status given to `notifyPortStatusChange`. -/
def Effect.portStatus : Effect → Option Status
  | .notifyPortStatusChange _ status => some status
  | _ => none

def results (l : List Effect) : List Notification := l.filterMap Effect.notification

def AllDone (l : List Effect) : Prop := ∀ e ∈ l, e.Done

def portStatuses (l : List Effect) : List Status := l.filterMap Effect.portStatus

/-- One result is notified, with the id of the request.  If it is SUCCESS, every write that was
attempted succeeded, and `queryPortStatus` agrees with the status that `getPortStatusHelper`
returned. -/
def Reported (op : Operation) (in_transactionId : ℤ) : Prop :=
  ∃ n, results (op.run S A u in_transactionId).log = [n] ∧ n.transactionId = in_transactionId ∧
    (n.retval = .success →
      AllDone (op.run S A u in_transactionId).log ∧
        (op = .queryPortStatus →
          (∃ ps, getPortStatusHelper S A.later u = .ok (.success, ps)) ∧
            ∀ status ∈ portStatuses (op.run S A u in_transactionId).log, status = .success))

/-- The switch is taken for done: the partner came up, or the role is read back. -/
def Confirmed (portName : String) (role : PortRole) : Prop :=
  match role with
  | .mode _ => true ∈ A.wakes
  | _ => readBack A (roleFile portName role) role = true

/-- The text did not reach the node when `fclose` flushed it, and still the switch is taken for
done. -/
structure Unflushed (portName : String) (role : PortRole) : Prop where
  fopen : (A.stream (roleFile portName role) (convertRoletoString role)).fopen = true
  fputs : (A.stream (roleFile portName role) (convertRoletoString role)).fputs = true
  fclose : (A.stream (roleFile portName role) (convertRoletoString role)).fclose = false
  confirmed : Confirmed A portName role

/-- The query is answered, with the roles of every port. -/
structure Answered (fs : FileSystem) : Prop where
  answerable : Answerable S fs
  rolesRead : ∀ names, getTypeCPortNamesHelper fs = some names →
    ∀ port ∈ names, RolesRead fs port

/-- What the answers have to be for an operation to be reported. -/
def Accountable : Operation → Prop
  | .queryPortStatus => Answered S A.later
  | .switchRole portName role => ¬ Unflushed A portName role
  | _ => True

@[simp] theorem results_nil : results [] = [] := rfl

@[simp] theorem results_append (l l' : List Effect) :
    results (l ++ l') = results l ++ results l' := List.filterMap_append

@[simp] theorem results_write (path text : String) (ok : Bool) (l : List Effect) :
    results (.write path text ok :: l) = results l := rfl

@[simp] theorem results_result (n : Notification) (l : List Effect) :
    results (.result n :: l) = n :: results l := rfl

@[simp] theorem allDone_nil : AllDone [] := List.forall_mem_nil _

@[simp] theorem allDone_append {l l' : List Effect} :
    AllDone (l ++ l') ↔ AllDone l ∧ AllDone l' := List.forall_mem_append

@[simp] theorem allDone_write {path text : String} {ok : Bool} {l : List Effect} :
    AllDone (.write path text ok :: l) ↔ ok = true ∧ AllDone l := List.forall_mem_cons

@[simp] theorem allDone_result {n : Notification} {l : List Effect} :
    AllDone (.result n :: l) ↔ AllDone l :=
  List.forall_mem_cons.trans (and_iff_right trivial)

/-- Neither a result nor a write that failed. -/
structure Quiet (l : List Effect) : Prop where
  results : results l = []
  allDone : AllDone l

variable {S A u}

theorem toStatus_success {result : Bool} : toStatus result = .success ↔ result = true := by
  cases result <;> simp [toStatus]

theorem queryVersionHelper_quiet : Quiet (queryVersionHelper S A u).log := by
  unfold queryVersionHelper
  split
  · exact ⟨rfl, allDone_nil⟩
  · split_ifs
    · exact ⟨rfl, List.forall_mem_singleton.2 trivial⟩
    · exact ⟨rfl, allDone_nil⟩

/-- After a result there is nothing more to report. -/
theorem results_notify {α : Type} {n : Notification} {rest : Step α} (h : Quiet rest.log) :
    results (notify u n >>= fun _ => rest).log = if u.mCallback then [n] else [] := by
  unfold notify
  split_ifs
  · rw [Logged.bind_of_ok rfl]
    exact congrArg (n :: ·) h.results
  · rw [Logged.bind_of_ok rfl]
    exact h.results

/-- The rule of the operations: one part writes and decides on the result, and after the result
there is nothing more to report. -/
theorem notified_iff {α β : Type} {own : Step α} (n : α → Notification) (fields : α → Fields)
    {rest : α → Step β} {id : ℤ} {c : Prop} (hc : ∀ a, (fields a).mCallback = true)
    (hid : ∀ a, (n a).transactionId = id)
    (hown : own.Ends fun l a =>
      results l = [] ∧ (((n a).retval = .success → AllDone l) ↔ c))
    (hrest : ∀ a, Quiet (rest a).log) :
    (∃ m, results (own >>= fun a => notify (fields a) (n a) >>= fun _ => rest a).log = [m] ∧
      m.transactionId = id ∧
      (m.retval = .success →
        AllDone (own >>= fun a => notify (fields a) (n a) >>= fun _ => rest a).log)) ↔ c := by
  obtain ⟨a, ⟨hnone, hiff⟩, hlog⟩ :=
    hown.log_bind fun a => notify (fields a) (n a) >>= fun _ => rest a
  have hnotify : (notify (fields a) (n a) >>= fun _ => rest a).log =
      .result (n a) :: (rest a).log := by
    rw [notify, if_pos (hc a), Logged.bind_of_ok rfl]
    rfl
  rw [hlog, hnotify]
  simp only [results_append, results_result, hnone, (hrest a).results, List.nil_append,
    allDone_append, allDone_result, (hrest a).allDone, and_true]
  constructor
  · rintro ⟨m, hm, -, hs⟩
    cases hm
    exact hiff.1 hs
  · intro h
    exact ⟨n a, rfl, hid a, hiff.2 h⟩

/-! ### The parts that write -/

/-- A part that writes, and answers true only if every write that it attempts succeeds, and the
parts before it answered true. -/
def Careful (before : Prop) (own : Step Bool) : Prop :=
  own.Ends fun l ok => results l = [] ∧ (ok = true → before ∧ AllDone l)

theorem Careful.pure {before : Prop} {ok : Bool} (h : ok = true → before) :
    Careful before (pure ok) := by
  simpa [Careful] using h

theorem Careful.bind {before : Prop} {x : Step Bool} {f : Bool → Step Bool} (hx : Careful True x)
    (hf : ∀ a, Careful (before ∧ a = true) (f a)) : Careful before (x >>= f) := by
  refine Logged.ends_bind.2 (hx.mono fun l a ha => (hf a).mono fun l' b hb => ?_)
  simp only [results_append, ha.1, hb.1, List.append_nil, allDone_append, true_and]
  intro h
  obtain ⟨⟨hbefore, hok⟩, hdone⟩ := hb.2 h
  exact ⟨hbefore, (ha.2 hok).2, hdone⟩

theorem writeStringToFile_careful (text path : String) :
    Careful True (writeStringToFile A text path) := by
  simp [Careful, writeStringToFile]

theorem setPullup_careful (text : String) (ifRead : String → Bool) :
    Careful True (setPullup A text ifRead) := by
  unfold setPullup
  split
  · split_ifs
    · exact writeStringToFile_careful _ _
    · exact .pure fun _ => trivial
  · exact .pure fun _ => trivial

theorem turnOn_careful : Careful True (turnOn A u) := by
  unfold turnOn
  split_ifs
  · exact .pure fun _ => trivial
  · refine (setPullup_careful _ _).bind fun pulled =>
      (writeStringToFile_careful _ _).bind fun data => .pure ?_
    simp only [Bool.and_eq_true, true_and, imp_self]

theorem turnOff_careful : Careful True (turnOff A) := by
  refine (setPullup_careful _ _).bind fun pulled =>
    (writeStringToFile_careful _ _).bind fun id =>
      (writeStringToFile_careful _ _).bind fun vbus =>
        (writeStringToFile_careful _ _).bind fun data => .pure ?_
  simp only [Bool.and_eq_true, true_and, imp_self]

theorem writeLimits_careful (i2cPath : String) (in_limit : Bool) :
    Careful True (writeLimits A i2cPath in_limit) := by
  unfold writeLimits
  refine Careful.bind ?_ fun current =>
    (writeStringToFile_careful _ _).bind fun sink =>
      (writeStringToFile_careful _ _).bind fun source => .pure ?_
  · split_ifs
    · exact writeStringToFile_careful _ _
    · exact .pure fun _ => trivial
  · simp only [Bool.and_eq_true, true_and, imp_self]

/-- The result of an operation that writes carefully. -/
theorem Careful.notified {own : Step Bool} (h : Careful True own) {n : Bool → Notification}
    (hn : ∀ ok, (n ok).retval = .success → ok = true) :
    own.Ends fun l ok => results l = [] ∧ (((n ok).retval = .success → AllDone l) ↔ True) :=
  h.mono fun _ ok hok => ⟨hok.1, iff_true_intro fun hs => (hok.2 (hn ok hs)).2⟩

/-! ### The operations one by one -/

variable {id : ℤ} {op : Operation}

/-- Only the query of the port status has to agree with `getPortStatusHelper`. -/
theorem reported_iff_of_ne (h : op ≠ .queryPortStatus) :
    Reported S A u op id ↔ ∃ n, results (op.run S A u id).log = [n] ∧ n.transactionId = id ∧
      (n.retval = .success → AllDone (op.run S A u id).log) := by
  simp only [Reported, h, false_imp_iff, and_true]

theorem enableUsbData_reported (hc : u.mCallback = true) (portName : String) (enable : Bool) :
    Reported S A u (.enableUsbData portName enable) id := by
  have hown : Careful True (if enable then turnOn A u else turnOff A) := by
    split_ifs
    · exact turnOn_careful
    · exact turnOff_careful
  refine (reported_iff_of_ne (by nofun)).2 ((notified_iff
    (fun result => .notifyEnableUsbDataStatus portName enable (toStatus result) id)
    (fun result => if result then { u with mUsbDataEnabled := enable } else u)
    (fun result => ?_) (fun _ => rfl)
    (hown.notified fun _ => toStatus_success.1) fun _ => queryVersionHelper_quiet).2 trivial)
  cases result
  · exact hc
  · exact hc

theorem moveData_ends : (moveData A).Ends fun l status =>
    results l = [] ∧ ((status = .success → AllDone l) ↔ True) := by
  unfold moveData
  split_ifs
  · rw [Logged.ends_bind]
    refine (writeStringToFile_careful (A := A) _ _).mono fun l ok h => ?_
    rw [Logged.ends_pure, toStatus_success, List.append_nil]
    exact ⟨h.1, iff_true_intro fun hok => (h.2 hok).2⟩
  · simp

theorem enableUsbDataWhileDocked_reported (hc : u.mCallback = true) (portName : String) :
    Reported S A u (.enableUsbDataWhileDocked portName) id :=
  (reported_iff_of_ne (by nofun)).2 ((notified_iff
    (fun status => .notifyEnableUsbDataWhileDockedStatus portName status id) (fun _ => u)
    (fun _ => hc) (fun _ => rfl) moveData_ends fun _ => queryVersionHelper_quiet).2 trivial)

theorem resetUsbPort_reported (hc : u.mCallback = true) (portName : String) :
    Reported S A u (.resetUsbPort portName) id :=
  (reported_iff_of_ne (by nofun)).2 ((notified_iff
    (fun result => .notifyResetUsbPortStatus portName (toStatus result) id) (fun _ => u)
    (fun _ => hc) (fun _ => rfl)
    ((writeStringToFile_careful _ _).notified fun _ => toStatus_success.1)
    fun _ => ⟨rfl, allDone_nil⟩).2 trivial)

/-- Looking for the bus changes nothing but its number. -/
theorem getI2cBusNumber_keeps (fs : FileSystem) (u : Fields) :
    ∃ n, (getI2cBusNumber fs u).2 = { u with mI2cBusNumber := n } := by
  unfold getI2cBusNumber
  split_ifs
  · exact ⟨u.mI2cBusNumber, rfl⟩
  · cases (fs.entries kHsi2cPath).bind findI2cBus with
    | none => exact ⟨u.mI2cBusNumber, rfl⟩
    | some n => exact ⟨_, rfl⟩

theorem getI2cClientPath_mCallback (fs : FileSystem) (u : Fields) :
    (getI2cClientPath fs u).2.mCallback = u.mCallback := by
  unfold getI2cClientPath
  obtain ⟨n, hn⟩ := getI2cBusNumber_keeps fs u
  simp only [hn]
  split_ifs <;> rfl

theorem limitPowerTransfer_reported (hc : u.mCallback = true) (hid : 0 ≤ id) (portName : String)
    (limit : Bool) : Reported S A u (.limitPowerTransfer portName limit) id := by
  have hcallback := (getI2cClientPath_mCallback A.fs u).trans hc
  have hown : Careful True (if (getI2cClientPath A.fs u).1 ≠ "" then
      writeLimits A (getI2cClientPath A.fs u).1 limit else pure false) := by
    split_ifs
    · exact writeLimits_careful _ _
    · exact .pure fun _ => trivial
  refine (reported_iff_of_ne (by nofun)).2 ?_
  simp only [Operation.run, limitPowerTransfer, if_pos hid.ge]
  exact (notified_iff
    (fun success => .notifyLimitPowerTransferStatus portName limit (toStatus success) id)
    (fun _ => (getI2cClientPath A.fs u).2) (fun _ => hcallback) (fun _ => rfl)
    (hown.notified fun _ => toStatus_success.1)
    fun _ => queryVersionHelper_quiet).2 trivial

theorem enableContaminantPresenceDetection_reported (hc : u.mCallback = true) (portName : String)
    (enable : Bool) :
    Reported S A u (.enableContaminantPresenceDetection portName enable) id := by
  have hown : Careful True (if A.contaminantDisable ≠ "true" then
      writeStringToFile A (if enable then "1" else "0") u.enabledPath else pure true) := by
    by_cases h : A.contaminantDisable ≠ "true"
    · rw [if_pos h]
      exact writeStringToFile_careful _ _
    · rw [if_neg h]
      exact .pure fun _ => trivial
  exact (reported_iff_of_ne (by nofun)).2 ((notified_iff
    (fun success => .notifyContaminantEnabledStatus portName enable (toStatus success) id)
    (fun _ => u) (fun _ => hc) (fun _ => rfl) (hown.notified fun _ => toStatus_success.1)
    fun _ => queryVersionHelper_quiet).2 trivial)

/-! ### The role switch -/

theorem waitAgain_iff (wakes : List Bool) : waitAgain wakes = true ↔ true ∈ wakes := by
  induction wakes with
  | nil => simp [waitAgain]
  | cons up wakes ih => cases up <;> simp [waitAgain, ih]

/-- The write of the role, and what the caller learns of it. -/
theorem putFile_ends {filename text : String} {Q : List Effect → Option Bool → Prop} :
    (putFile A filename text).Ends Q ↔
      Q [.write filename text ((A.stream filename text).fopen &&
          (A.stream filename text).fputs && (A.stream filename text).fclose)]
        (if (A.stream filename text).fopen then some (A.stream filename text).fputs
          else none) := Logged.ends_emit

theorem unflushed_iff {portName : String} {role : PortRole} :
    Unflushed A portName role ↔
      (A.stream (roleFile portName role) (convertRoletoString role)).fopen = true ∧
      (A.stream (roleFile portName role) (convertRoletoString role)).fputs = true ∧
      (A.stream (roleFile portName role) (convertRoletoString role)).fclose = false ∧
      Confirmed A portName role :=
  ⟨fun h => ⟨h.fopen, h.fputs, h.fclose, h.confirmed⟩, fun h => ⟨h.1, h.2.1, h.2.2.1, h.2.2.2⟩⟩

theorem writeRole_ends (portName : String) {role : PortRole}
    (hrole : Confirmed A portName role ↔ readBack A (roleFile portName role) role = true) :
    (writeRole A portName role).Ends fun l ok =>
      results l = [] ∧ ((ok = true → AllDone l) ↔ ¬ Unflushed A portName role) := by
  unfold writeRole
  rw [Logged.ends_bind, putFile_ends, Logged.ends_pure, unflushed_iff, hrole]
  generalize A.stream (roleFile portName role) (convertRoletoString role) = s
  obtain ⟨fopen, fputs, fclose⟩ := s
  cases fopen <;> cases fputs <;> cases fclose <;> simp

theorem switchMode_ends (portName : String) {role : PortRole}
    (hrole : Confirmed A portName role ↔ true ∈ A.wakes) :
    (switchMode A portName role).Ends fun l ok =>
      results l = [] ∧ ((ok = true → AllDone l) ↔ ¬ Unflushed A portName role) := by
  unfold switchMode switchToDrp
  rw [Logged.ends_bind, putFile_ends, unflushed_iff, hrole, ← waitAgain_iff]
  generalize A.stream (roleFile portName role) (convertRoletoString role) = s
  obtain ⟨fopen, fputs, fclose⟩ := s
  cases hw : waitAgain A.wakes <;> cases fopen <;> cases fputs <;> cases fclose <;>
    simp [Logged.ends_bind, putFile_ends]

theorem switchRole_reported_iff (hc : u.mCallback = true) (portName : String) (role : PortRole) :
    Reported S A u (.switchRole portName role) id ↔ ¬ Unflushed A portName role := by
  have hown : (match role with
      | .mode _ => switchMode A portName role
      | _ => writeRole A portName role).Ends fun l ok =>
        results l = [] ∧ ((ok = true → AllDone l) ↔ ¬ Unflushed A portName role) := by
    cases role with
    | mode m => exact switchMode_ends portName Iff.rfl
    | powerRole r => exact writeRole_ends portName Iff.rfl
    | dataRole r => exact writeRole_ends portName Iff.rfl
  refine (reported_iff_of_ne (by nofun)).trans (notified_iff
    (fun roleSwitch => .notifyRoleSwitchStatus portName role (toStatus roleSwitch) id)
    (fun _ => u) (fun _ => hc) (fun _ => rfl) (hown.mono fun l ok h => ?_)
    fun _ => ⟨rfl, allDone_nil⟩)
  refine ⟨h.1, ?_⟩
  rw [← h.2]
  exact imp_congr_left toStatus_success

/-! ### The query -/

/-- With every port's roles read, and only then, `getPortStatusHelper` returns SUCCESS. -/
theorem getPortStatusHelper_success (fs : FileSystem) :
    (∃ ps, getPortStatusHelper S fs u = .ok (.success, ps)) ↔
      ∃ names, getTypeCPortNamesHelper fs = some names ∧ PortsRight fs (S.order names) ∧
        ∀ port ∈ names, RolesRead fs port := by
  unfold getPortStatusHelper
  cases h : getTypeCPortNamesHelper fs with
  | none => simp
  | some names =>
    have hlen := (S.perm names).length_eq
    have hloop : Yields (portLoop fs u 0 (S.order names)
        (List.replicate names.length S.freshPortStatus)) _ _ _ :=
      portLoop_yields (by simp [hlen])
    simp only [Option.some.injEq, exists_eq_left']
    have hall : (∀ port ∈ S.order names, RolesRead fs port) ↔
        ∀ port ∈ names, RolesRead fs port := by
      simp only [(S.perm names).mem_iff]
    constructor
    · rintro ⟨ps, hps⟩
      exact ⟨hloop.returns.1 ⟨_, hps, trivial⟩, hall.1 ((hloop.success _ hps).1 rfl)⟩
    · rintro ⟨hright, hread⟩
      obtain ⟨⟨status, ps⟩, hps, -⟩ := hloop.returns.2 hright
      obtain rfl : status = .success := (hloop.success _ hps).2 (hall.2 hread)
      exact ⟨ps, hps⟩

theorem queryMoistureDetectionStatus_mCallback {fs : FileSystem} {ps : List PortStatus}
    {r : Status × Fields × List PortStatus}
    (h : queryMoistureDetectionStatus fs u ps = .ok r) : r.2.1.mCallback = u.mCallback := by
  have hpath := getI2cClientPath_mCallback fs u
  obtain ⟨qs, -, h⟩ := of_bind_eq_ok h
  generalize getI2cClientPath fs u = client at h hpath
  dsimp only at h
  split_ifs at h
  · cases h
    exact hpath
  · split at h
    · cases h
      exact hpath
    · split_ifs at h
      · cases h
        exact hpath
      · split at h
        · cases h
          exact hpath
        · obtain ⟨rs, -, h⟩ := of_bind_eq_ok h
          cases h
          exact hpath

theorem queryPowerTransferStatus_mCallback {fs : FileSystem} {ps : List PortStatus}
    {r : Status × Fields × List PortStatus}
    (h : queryPowerTransferStatus fs u ps = .ok r) : r.2.1.mCallback = u.mCallback := by
  have hpath := getI2cClientPath_mCallback fs u
  unfold queryPowerTransferStatus at h
  generalize getI2cClientPath fs u = client at h hpath
  dsimp only at h
  split_ifs at h
  · cases h
    exact hpath
  · split at h
    · cases h
      exact hpath
    · obtain ⟨rs, -, h⟩ := of_bind_eq_ok h
      cases h
      exact hpath

/-- The status that the query notifies is the one that `getPortStatusHelper` returned. -/
theorem of_queryPorts {status : Status} {fields : Fields} {ps : List PortStatus}
    {fs : FileSystem} (h : queryPorts S fs u = .ok (status, fields, ps)) :
    (∃ qs, getPortStatusHelper S fs u = .ok (status, qs)) ∧ fields.mCallback = u.mCallback := by
  obtain ⟨⟨status', qs⟩, hget, h⟩ := of_bind_eq_ok h
  obtain ⟨⟨_, u₁, _⟩, h₁, h⟩ := of_bind_eq_ok h
  obtain ⟨⟨_, u₂, _⟩, h₂, h⟩ := of_bind_eq_ok h
  obtain ⟨_, -, h⟩ := of_bind_eq_ok h
  cases h
  exact ⟨⟨qs, hget⟩, (queryPowerTransferStatus_mCallback h₂).trans
    (queryMoistureDetectionStatus_mCallback h₁)⟩

/-- What a query does that returns. -/
theorem queryPortStatus_log (id : ℤ) {status : Status} {fields : Fields} {ps : List PortStatus}
    (hc : u.mCallback = true) (h : queryPorts S A.later u = .ok (status, fields, ps)) :
    (queryPortStatus S A u id).log =
      [.notifyPortStatusChange ps status, .result (.notifyQueryPortStatus "all" .success id)] := by
  have hquery : queryVersionHelper S A u = ⟨[.notifyPortStatusChange ps status], .ok fields⟩ := by
    rw [queryVersionHelper, h]
    simp only [hc, if_true]
  have hnotify : notify fields (.notifyQueryPortStatus "all" .success id) =
      .emit (.result (.notifyQueryPortStatus "all" .success id)) () := by
    rw [notify, if_pos ((of_queryPorts h).2.trans hc)]
  unfold queryPortStatus
  rw [hquery, Logged.bind_of_ok rfl, hnotify]
  rfl

theorem queryPortStatus_reported_iff (hc : u.mCallback = true) :
    Reported S A u .queryPortStatus id ↔ Answered S A.later := by
  cases h : queryPorts S A.later u with
  | error f =>
    have hlog : (queryPortStatus S A u id).log = [] := by
      unfold queryPortStatus
      rw [queryVersionHelper, h, Logged.bind_of_error rfl]
    refine iff_of_false ?_ fun hans => ?_
    · rintro ⟨n, hn, -⟩
      rw [Operation.run, hlog] at hn
      cases hn
    · have hreturns := (queryPorts_returns S A.later u).2 hans.answerable
      rw [h] at hreturns
      exact returns_error hreturns
  | ok r =>
    obtain ⟨status, fields, ps⟩ := r
    have hlog := queryPortStatus_log id hc h
    obtain ⟨⟨qs, hget⟩, -⟩ := of_queryPorts h
    have hans : Answerable S A.later := (queryPorts_returns S A.later u).1 ⟨_, h, trivial⟩
    have hsuccess := getPortStatusHelper_success (S := S) (u := u) A.later
    constructor
    · rintro ⟨n, hn, -, hs⟩
      rw [Operation.run, hlog] at hn
      cases hn
      obtain ⟨hport, -⟩ := (hs rfl).2 rfl
      obtain ⟨names, hnames, -, hread⟩ := hsuccess.1 hport
      refine ⟨hans, fun names' hnames' => ?_⟩
      rw [hnames] at hnames'
      cases hnames'
      exact hread
    · intro hanswered
      obtain ⟨entries, hentries, -, hright⟩ := hans
      have hnames : getTypeCPortNamesHelper A.later = some (entries.foldl addTypeCName []) := by
        rw [getTypeCPortNamesHelper, hentries, Option.map_some]
      obtain ⟨rs, hrs⟩ := hsuccess.2 ⟨_, hnames, hright, hanswered.rolesRead _ hnames⟩
      have hstatus : status = .success := by
        rw [hget] at hrs
        cases hrs
        rfl
      refine ⟨_, by rw [Operation.run, hlog]; rfl, rfl, fun _ => ⟨?_, fun _ => ⟨⟨rs, hrs⟩, ?_⟩⟩⟩
      · rw [Operation.run, hlog]
        exact List.forall_mem_cons.2 ⟨trivial, List.forall_mem_singleton.2 trivial⟩
      · rw [Operation.run, hlog, hstatus]
        exact List.forall_mem_singleton.2 rfl

/-- **An operation reports its result** if and only if it is accountable. -/
theorem reported_iff (S : Setting) (A : Answers) (u : Fields) (op : Operation) {id : ℤ}
    (hid : 0 ≤ id) (hc : u.mCallback = true) : Reported S A u op id ↔ Accountable S A op := by
  cases op with
  | enableUsbData portName enable => exact iff_of_true (enableUsbData_reported hc _ _) trivial
  | enableUsbDataWhileDocked portName =>
    exact iff_of_true (enableUsbDataWhileDocked_reported hc _) trivial
  | resetUsbPort portName => exact iff_of_true (resetUsbPort_reported hc _) trivial
  | switchRole portName role => exact switchRole_reported_iff hc portName role
  | limitPowerTransfer portName limit =>
    exact iff_of_true (limitPowerTransfer_reported hc hid _ _) trivial
  | queryPortStatus => exact queryPortStatus_reported_iff hc
  | enableContaminantPresenceDetection portName enable =>
    exact iff_of_true (enableContaminantPresenceDetection_reported hc _ _) trivial

/-- Every write succeeds, and no file can be read. -/
def Answers.unread : Answers where
  fs := .bare
  writes _ _ := true
  stream _ _ := ⟨true, true, true⟩
  moveDataToUsb := true
  wakes := []
  contaminantDisable := ""
  later := .bare

theorem reported_resetUsbPort :
    Reported .plain .unread .plain (.resetUsbPort "port0") 7 :=
  (reported_iff .plain .unread .plain _ (by decide) rfl).2 trivial

/-- A port with a partner, whose roles cannot be read. -/
def roleless : FileSystem where
  read _ := none
  entries path :=
    if path = kTypecPath then some [⟨"port0", .lnk⟩, ⟨"port0-partner", .lnk⟩] else none

/-- The query notifies the port status with ERROR, and then its own result with SUCCESS. -/
theorem roleless_not_reported :
    ¬ Reported .plain { Answers.unread with later := roleless } .plain .queryPortStatus 7 := by
  rintro ⟨n, hn, -, hs⟩
  have hresults : results (Operation.run .plain { Answers.unread with later := roleless } .plain 7
      .queryPortStatus).log = [.notifyQueryPortStatus "all" .success 7] := by decide
  rw [hresults] at hn
  cases hn
  have herror := ((hs rfl).2 rfl).2 .error (by decide)
  cases herror

/-! ### The same calls in the other models -/

/-- The log of the query is what its outcome notifies. -/
theorem log_queryVersionHelper (S : Setting) (A : Answers) (u : Fields) :
    (queryVersionHelper S A u).log =
      (Usb.queryVersionHelper S A.later u).notified.toList.map fun r =>
        .notifyPortStatusChange r.1 r.2 := by
  unfold queryVersionHelper Usb.queryVersionHelper
  cases queryPorts S A.later u with
  | error f => rfl
  | ok r => cases hc : u.mCallback <;> simp

/-- The answers are those that the call `c` meets when the nodes are as in `s`. -/
structure Meets (A : Answers) (c : EnableUsbData) (s : DataSignal) : Prop where
  reads : A.fs.read (nodePath .pullup) =
    if c.reads .pullup then some (s.cells .pullup) else none
  writes : ∀ n text, A.writes (nodePath n) text = c.writes n

theorem setPullup_meets {c : EnableUsbData} {s : DataSignal} (h : Meets A c s) (text : String)
    {ifRead : String → Bool} (unlessRead : String → Bool)
    (hif : ∀ pullup, ifRead pullup = !unlessRead pullup) :
    (setPullup A text ifRead).Ends fun _ ok => ok = (s.setPullup c text unlessRead).2 := by
  unfold setPullup DataSignal.setPullup
  rw [h.reads]
  by_cases hr : c.reads .pullup = true
  · simp only [if_pos hr, hif]
    cases hu : unlessRead (CText.trim (s.cells .pullup)) <;> simp [writeStringToFile, h.writes]
  · simp [hr]

theorem write_meets {c : EnableUsbData} {s : DataSignal} (h : Meets A c s) (text : String)
    (n : Node) : (writeStringToFile A text (nodePath n)).Ends fun _ ok => ok = c.writes n := by
  simp [writeStringToFile, h.writes]

theorem turn_meets {c : EnableUsbData} {s : DataSignal} (h : Meets A c s)
    (hu : u.mUsbDataEnabled = s.mUsbDataEnabled) :
    (if c.in_enable then turnOn A u else turnOff A).Ends fun _ ok =>
      ok = (if c.in_enable then s.turnOn c else s.turnOff c).2 := by
  split_ifs with hen
  · unfold turnOn DataSignal.turnOn
    rw [hu]
    split_ifs
    · simp
    · refine Logged.ends_bind.2 ((setPullup_meets h kGadgetName
        (fun pullup => pullup = kGadgetName) fun _ => ?_).mono fun _ a ha => ?_)
      · simp
      refine Logged.ends_bind.2 ((write_meets h "1" .usbData).mono fun _ b hb => ?_)
      simp [ha, hb]
  · unfold turnOff DataSignal.turnOff
    refine Logged.ends_bind.2 ((setPullup_meets h "none" (fun pullup => pullup ≠ kGadgetName)
      fun _ => ?_).mono fun _ a ha => ?_)
    · simp
    refine Logged.ends_bind.2 ((write_meets h "1" .id).mono fun _ b hb => ?_)
    refine Logged.ends_bind.2 ((write_meets h "0" .vbus).mono fun _ d hd => ?_)
    refine Logged.ends_bind.2 ((write_meets h "0" .usbData).mono fun _ e he => ?_)
    simp [ha, hb, hd, he]

/-- `enableUsbData` notifies what its model in `DataSignal` notifies. -/
theorem results_enableUsbData (S : Setting) {c : EnableUsbData} {s : DataSignal}
    (h : Meets A c s) (hu : u.mUsbDataEnabled = s.mUsbDataEnabled)
    (hc : u.mCallback = c.mCallback) :
    results (enableUsbData S A u c.in_portName c.in_enable c.in_transactionId).log =
      (s.enableUsbData c).2.toList.map fun n =>
        .notifyEnableUsbDataStatus n.portName n.enable n.retval n.transactionId := by
  have hown : Careful True (if c.in_enable then turnOn A u else turnOff A) := by
    split_ifs
    · exact turnOn_careful
    · exact turnOff_careful
  obtain ⟨result, hvalue, hresult⟩ := turn_meets (u := u) h hu
  obtain ⟨ok, hok, hnone, -⟩ := hown
  obtain rfl : ok = result := by
    rw [hok] at hvalue
    exact Except.ok.inj hvalue
  set fields := if ok then { u with mUsbDataEnabled := c.in_enable } else u with hfields
  have hcallback : fields.mCallback = c.mCallback := by
    rw [hfields]
    split_ifs
    · exact hc
    · exact hc
  have hlog : (enableUsbData S A u c.in_portName c.in_enable c.in_transactionId).log =
      (if c.in_enable then turnOn A u else turnOff A).log ++
      (notify fields (.notifyEnableUsbDataStatus c.in_portName c.in_enable (toStatus ok)
        c.in_transactionId) >>= fun _ => queryVersionHelper S A fields).log := by
    rw [enableUsbData, Logged.bind_of_ok hok]
  rw [hlog, results_append, hnone, results_notify queryVersionHelper_quiet, hcallback,
    DataSignal.enableUsbData, List.nil_append]
  generalize (if c.in_enable then s.turnOn c else s.turnOff c) = turned at hresult
  subst hresult
  cases c.mCallback with
  | true => simp [toStatus]
  | false => simp

end Transaction

end Usb

end Gs101
