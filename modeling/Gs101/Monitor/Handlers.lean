import Gs101.Monitor.State

/-!
# UsbDataSessionMonitor: the handlers

One definition for each member function, as the source computes it.  A function that reads the
boot clock takes the next answer of the platform's clock; the upload of metrics that follows the
building of the events, and the log messages, are left out: nothing reads their outcome.
-/

namespace Gs101

namespace Monitor

/-! ### Metrics -/

/-- The loop of `reportUsbDataSessionMetrics` over the host ports; `n` counts the clock reads. -/
def hostEvents (P : Platform) (start : Time) : ℕ → List UsbDeviceState → List SessionEvent
  | _, [] => []
  | n, e :: es =>
      if 1 < e.states.length then
        ⟨true, P.bootClock n, start, e.states, e.timestamps⟩ :: hostEvents P start (n + 1) es
      else hostEvents P start n es

/-- The events that `reportUsbDataSessionMetrics` builds. -/
def sessionEvents (P : Platform) (m : Monitor) : List SessionEvent :=
  match m.mDataRole with
  | .device =>
      [⟨false, P.bootClock m.reads, m.mDataSessionStart, m.mDeviceState.states,
        m.mDeviceState.timestamps⟩]
  | .host =>
      let events := hostEvents P m.mDataSessionStart m.reads [m.mHost1State, m.mHost2State]
      if events.isEmpty then
        [⟨true, P.bootClock m.reads, m.mDataSessionStart, m.mHost1State.states,
          m.mHost1State.timestamps⟩]
      else events
  | _ => []

/-- A role other than DEVICE and HOST returns before anything is built. -/
def reportUsbDataSessionMetrics (P : Platform) (m : Monitor) : Monitor :=
  match m.mDataRole with
  | .device | .host =>
      (m.ticked (sessionEvents P m).length).logged (.report (sessionEvents P m))
  | _ => m

/-! ### Warnings -/

/-- What `getComplianceWarnings` appends to the caller's vector. -/
def getComplianceWarnings (P : Platform) (m : Monitor) (role : PortDataRole) :
    List ComplianceWarning :=
  if !P.enableReportUsbDataComplianceWarning then []
  else if role ≠ m.mDataRole ∨ role = .none then []
  else ComplianceWarning.all.filter (· ∈ m.mWarningSet)

def notifyComplianceWarning (P : Platform) (m : Monitor) : Monitor :=
  if !P.enableReportUsbDataComplianceWarning then m
  else if P.mUpdatePortStatusCb then m.logged (.updatePortStatus m.mWarningSet)
  else m

/-- The set that `evaluateComplianceWarning` computes once the delay has passed. -/
def warningsAfterDelay (mDataRole : PortDataRole) (mUdcBind : Bool)
    (device host1 host2 : List String) : Finset ComplianceWarning :=
  if mDataRole = .device ∧ mUdcBind then
    let configuredCount := device.count kConfiguredState
    let defaultCount := device.count kDefaultState
    (if configuredCount = 0 ∧ defaultCount > enumFailDefaultCountThreshold then
      {.enumerationFail} else ∅) ∪
    (if configuredCount > deviceFlakyConnectionConfiguredCountThreshold then
      {.flakyConnection} else ∅)
  else if mDataRole = .host then
    let host1ConfiguredCount := host1.count kConfiguredState
    let host1DefaultCount := host1.count kDefaultState
    let host2ConfiguredCount := host2.count kConfiguredState
    let host2DefaultCount := host2.count kDefaultState
    (if host1ConfiguredCount = 0 ∧ host2ConfiguredCount = 0 ∧
        (host1DefaultCount > enumFailDefaultCountThreshold ∨
          host2DefaultCount > enumFailDefaultCountThreshold) then
      {.enumerationFail} else ∅) ∪
    (if host1.length = 1 ∧ host1.head? = some kNotAttachedState ∧
        host2.length = 1 ∧ host2.head? = some kNotAttachedState then
      {.missingDataLines} else ∅)
  else ∅

/-- `warningsAfterDelay` of the current fields. -/
def currentWarnings (m : Monitor) : Finset ComplianceWarning :=
  warningsAfterDelay m.mDataRole m.mUdcBind m.mDeviceState.states m.mHost1State.states
    m.mHost2State.states

/-- Whole seconds since the session started, at the next reading of the boot clock. -/
def elapsedTimeSec (P : Platform) (m : Monitor) : ℤ :=
  (P.bootClock m.reads - m.mDataSessionStart).tdiv 1000000000

def evaluateComplianceWarning (P : Platform) (m : Monitor) : Monitor :=
  let newWarningSet :=
    if elapsedTimeSec P m ≥ warningSurfaceDelaySec then m.currentWarnings else ∅
  let m := (m.ticked 1).logged (.evaluate (elapsedTimeSec P m))
  if newWarningSet ≠ m.mWarningSet then
    notifyComplianceWarning P
      ({ m with mWarningSet := newWarningSet }.logged (.assign newWarningSet))
  else m

/-! ### States and sessions -/

/-- What one `read` of a sysfs file may leave behind: the content, `none` if the read fails, and
the bytes that lie past the caller's buffer. -/
structure FileRead where
  content : Option String
  past : List Char
  deriving DecidableEq

/-- A file with this content, read into a buffer that is followed by a NUL. -/
def FileRead.of (content : String) : FileRead := ⟨some content, []⟩

/-- The text that the caller sees in its zeroed buffer of `n` bytes. -/
def FileRead.text (n : ℕ) (r : FileRead) : String :=
  CText.cString (CText.bufferAfterRead n ((r.content.getD "").toList) r.past)

def clearDeviceStateEvents (p : Port) (m : Monitor) : Monitor := m.setPortState p ⟨[], []⟩

/-- The two `push_back`s of `handleDeviceStateEvent`. -/
def recordState (P : Platform) (p : Port) (state : String) (m : Monitor) : Monitor :=
  (m.setPortState p
    ⟨(m.portState p).states ++ [state], (m.portState p).timestamps ++ [P.bootClock m.reads]⟩).ticked 1

def handleDeviceStateEvent (P : Platform) (p : Port) (r : FileRead) (m : Monitor) : Monitor :=
  let state := r.text usbStateMaxLen
  let m := m.logged (.stateRead p state (P.bootClock m.reads))
  if state ∈ kValidStates then evaluateComplianceWarning P (recordState P p state m) else m

def setupNewSession (P : Platform) (m : Monitor) : Monitor :=
  let m := { m with mWarningSet := ∅ }.logged (.assign ∅)
  let m := { m with mDataSessionStart := P.bootClock m.reads }.ticked 1
  let m := m.logged (.sessionStart m.mDataRole m.mDataSessionStart m.mUdcBind)
  let m := match m.mDataRole with
    | .device => clearDeviceStateEvents .device m
    | .host => clearDeviceStateEvents .host2 (clearDeviceStateEvents .host1 m)
    | _ => m
  if m.mDataRole ≠ .none then m.logged .armTimer else m

/-- The role named by the text of the data-role file. -/
def newDataRole (r : FileRead) : PortDataRole :=
  let role := r.text dataRoleMaxLen
  if role = "host" then .host else if role = "device" then .device else .none

def handleDataRoleEvent (P : Platform) (r : FileRead) (m : Monitor) : Monitor :=
  let m := m.logged (.roleRead (newDataRole r))
  if newDataRole r ≠ m.mDataRole then
    let m := if m.mDataRole = .host ∨ (m.mDataRole = .device ∧ m.mUdcBind) then
      reportUsbDataSessionMetrics P m else m
    setupNewSession P (m.setDataRole (newDataRole r))
  else m

/-- `function` is the content of the udc's `function` file, `none` if it cannot be read. -/
def updateUdcBindStatus (P : Platform) (function : Option String) (m : Monitor) : Monitor :=
  match function with
  | none => m
  | some function =>
      let newUdcBind : Bool := function ≠ ""
      if newUdcBind = m.mUdcBind then m
      else
        let m := if m.mDataRole = .device then
            if m.mUdcBind ∧ !newUdcBind then
              evaluateComplianceWarning P (reportUsbDataSessionMetrics P m)
            else if !m.mUdcBind ∧ newUdcBind then setupNewSession P m
            else m
          else m
        m.setUdcBind newUdcBind

/-- A short read of the timer or an expiration count other than one is only logged. -/
def handleTimerEvent (P : Platform) (m : Monitor) : Monitor := evaluateComplianceWarning P m

/-- The fields after the constructor: `mDataRole` keeps whatever the memory held, and `udc` is the
content of the configfs `UDC` file, `none` if it cannot be read. -/
def construct (mDataRole : PortDataRole) (udc : Option String) : Monitor where
  mDeviceState := ⟨[], []⟩
  mHost1State := ⟨[], []⟩
  mHost2State := ⟨[], []⟩
  mWarningSet := ∅
  mDataRole := mDataRole
  mDataSessionStart := 0
  mUdcBind := match udc with
    | some udc => udc ≠ ""
    | none => false
  reads := 0
  log := []

/-! ### What each function changes

Each equation gives the whole state after the function, so that later proofs read its fields off
and never unfold it. -/

/-- What `reportUsbDataSessionMetrics` logs. -/
def reportLog (P : Platform) (m : Monitor) : List Action :=
  if m.mDataRole = .device ∨ m.mDataRole = .host then [.report (sessionEvents P m)] else []

theorem reportUsbDataSessionMetrics_eq (P : Platform) (m : Monitor) :
    reportUsbDataSessionMetrics P m =
      { m with
        reads := m.reads + (sessionEvents P m).length
        log := m.log ++ reportLog P m } := by
  obtain ⟨dev, h1, h2, ws, role, start, bind, reads, log⟩ := m
  cases role <;> simp [reportUsbDataSessionMetrics, reportLog, sessionEvents, ticked, logged]

/-- The set that `evaluateComplianceWarning` leaves in `mWarningSet`. -/
def evaluatedWarnings (P : Platform) (m : Monitor) : Finset ComplianceWarning :=
  if elapsedTimeSec P m ≥ warningSurfaceDelaySec then m.currentWarnings else ∅

/-- What `evaluateComplianceWarning` logs. -/
def evaluateLog (P : Platform) (m : Monitor) : List Action :=
  .evaluate (elapsedTimeSec P m) ::
    if evaluatedWarnings P m = m.mWarningSet then []
    else .assign (evaluatedWarnings P m) ::
      if P.enableReportUsbDataComplianceWarning ∧ P.mUpdatePortStatusCb then
        [.updatePortStatus (evaluatedWarnings P m)]
      else []

theorem evaluateComplianceWarning_eq (P : Platform) (m : Monitor) :
    evaluateComplianceWarning P m =
      { m with
        mWarningSet := evaluatedWarnings P m
        reads := m.reads + 1
        log := m.log ++ evaluateLog P m } := by
  by_cases h : evaluatedWarnings P m = m.mWarningSet
  · have h' : (if elapsedTimeSec P m ≥ warningSurfaceDelaySec then m.currentWarnings else ∅) =
        m.mWarningSet := h
    simp [evaluateComplianceWarning, evaluateLog, h, h', ticked, logged]
  · have h' : ¬ (if elapsedTimeSec P m ≥ warningSurfaceDelaySec then m.currentWarnings else ∅) =
        m.mWarningSet := h
    have hset : (if elapsedTimeSec P m ≥ warningSurfaceDelaySec then m.currentWarnings else ∅) =
        evaluatedWarnings P m := rfl
    cases hf : P.enableReportUsbDataComplianceWarning <;> cases hc : P.mUpdatePortStatusCb <;>
      simp [evaluateComplianceWarning, evaluateLog, h, hset, ticked, logged,
        notifyComplianceWarning, hf, hc]

/-- What `setupNewSession` logs. -/
def setupLog (P : Platform) (m : Monitor) : List Action :=
  .assign ∅ :: .sessionStart m.mDataRole (P.bootClock m.reads) m.mUdcBind ::
    if m.mDataRole ≠ .none then [.armTimer] else []

theorem setupNewSession_eq (P : Platform) (m : Monitor) :
    setupNewSession P m =
      { m with
        mDeviceState := if m.mDataRole = .device then ⟨[], []⟩ else m.mDeviceState
        mHost1State := if m.mDataRole = .host then ⟨[], []⟩ else m.mHost1State
        mHost2State := if m.mDataRole = .host then ⟨[], []⟩ else m.mHost2State
        mWarningSet := ∅
        mDataSessionStart := P.bootClock m.reads
        reads := m.reads + 1
        log := m.log ++ setupLog P m } := by
  cases h : m.mDataRole <;>
    simp [setupNewSession, setupLog, h, ticked, logged, clearDeviceStateEvents, setPortState]

/-- Whether a role change ends a session that is still to be reported. -/
def ReportsOnRoleChange (m : Monitor) : Prop :=
  m.mDataRole = .host ∨ (m.mDataRole = .device ∧ m.mUdcBind = true)

instance (m : Monitor) : Decidable m.ReportsOnRoleChange := by
  unfold ReportsOnRoleChange; infer_instance

/-- A data-role event does nothing, or ends one session and opens the next. -/
theorem handleDataRoleEvent_cases (P : Platform) (r : FileRead) (m : Monitor) :
    (newDataRole r = m.mDataRole ∧
      handleDataRoleEvent P r m = m.logged (.roleRead (newDataRole r))) ∨
    (newDataRole r ≠ m.mDataRole ∧ m.ReportsOnRoleChange ∧
      handleDataRoleEvent P r m =
        setupNewSession P ((reportUsbDataSessionMetrics P
          (m.logged (.roleRead (newDataRole r)))).setDataRole (newDataRole r))) ∨
    (newDataRole r ≠ m.mDataRole ∧ ¬ m.ReportsOnRoleChange ∧
      handleDataRoleEvent P r m =
        setupNewSession P
          ((m.logged (.roleRead (newDataRole r))).setDataRole (newDataRole r))) := by
  unfold ReportsOnRoleChange handleDataRoleEvent
  by_cases hr : newDataRole r = m.mDataRole
  · left; simp [hr, logged]
  · right
    by_cases hc : m.mDataRole = .host ∨ (m.mDataRole = .device ∧ m.mUdcBind = true)
    · left; simp [hr, hc, logged]
    · right; simp [hr, hc, logged]

/-- A change of the udc does nothing, is a soft pulldown or a soft pullup of the gadget, or only
sets the flag. -/
theorem updateUdcBindStatus_cases (P : Platform) (function : Option String) (m : Monitor) :
    ((∀ f, function = some f → m.mUdcBind = decide (f ≠ "")) ∧
      updateUdcBindStatus P function m = m) ∨
    (function = some "" ∧ m.mUdcBind = true ∧ m.mDataRole = .device ∧
      updateUdcBindStatus P function m =
        (evaluateComplianceWarning P (reportUsbDataSessionMetrics P m)).setUdcBind false) ∨
    ((∃ f, function = some f ∧ f ≠ "") ∧ m.mUdcBind = false ∧ m.mDataRole = .device ∧
      updateUdcBindStatus P function m = (setupNewSession P m).setUdcBind true) ∨
    (∃ b, b ≠ m.mUdcBind ∧ m.mDataRole ≠ .device ∧
      updateUdcBindStatus P function m = m.setUdcBind b) := by
  cases function with
  | none => left; exact ⟨by simp, rfl⟩
  | some f =>
    by_cases hd : m.mDataRole = .device <;> by_cases hf : f = "" <;> cases hb : m.mUdcBind <;>
      simp [updateUdcBindStatus, hd, hf, hb]

end Monitor

end Gs101
