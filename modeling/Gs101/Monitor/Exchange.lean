import Gs101.Monitor.Notifications
import Gs101.Monitor.Sessions
import Gs101.Monitor.Uevents

/-!
# UsbDataSessionMonitor: exchanging the host ports

The constructor leaves it open which of the two host ports is `host1` and which is `host2`.

* `Exchanged`: two monitors whose host ports are exchanged, and that agree in everything else that
  the warnings depend on, the invocations of the callback included;
* `exchanged_run`: they stay so in every run, so the warnings do not depend on the assignment;
* `SameMetrics`: two reports build the same events, in any order, whatever
  `BuildVendorUsbDataSessionEvent` makes of its arguments;
* `sameHostMetrics_iff`: the reports at the end of the HOST sessions of a run are the same if and
  only if each of these sessions ends `Level`: the fallback of `reportUsbDataSessionMetrics` names
  `host1`, and each event reads the boot clock anew.
-/

namespace Gs101

namespace Monitor

/-- The port of the other monitor. -/
def Port.exchanged : Port → Port
  | .device => .device
  | .host1 => .host2
  | .host2 => .host1

@[simp] theorem Port.exchanged_exchanged (p : Port) : p.exchanged.exchanged = p := by
  cases p <;> rfl

def Config.exchanged (c : Config) : Config where
  ueventRegex p := c.ueventRegex p.exchanged
  filePath p := c.filePath p.exchanged

/-- The event that the other monitor handles.  A uevent message is the same for both: its answers
are those for a path. -/
def Ready.exchanged : Ready → Ready
  | .deviceState p r => .deviceState p.exchanged r
  | ready => ready

/-- The monitor with the histories of the host ports exchanged. -/
def exchanged (m : Monitor) : Monitor :=
  { m with mHost1State := m.mHost2State, mHost2State := m.mHost1State }

/-- The sets of warnings that invocations of the callback showed. -/
def Action.invoked : Action → Option (Finset ComplianceWarning)
  | .updatePortStatus ws => some ws
  | _ => none

def invocations (l : List Action) : List (Finset ComplianceWarning) :=
  l.filterMap Action.invoked

/-- `m'` is `m` with the host ports exchanged; the logs agree in the invocations of the
callback. -/
structure Exchanged (m m' : Monitor) : Prop where
  ports : ∀ p : Port, m'.portState p = m.portState p.exchanged
  mWarningSet : m'.mWarningSet = m.mWarningSet
  mDataRole : m'.mDataRole = m.mDataRole
  mDataSessionStart : m'.mDataSessionStart = m.mDataSessionStart
  mUdcBind : m'.mUdcBind = m.mUdcBind
  reads : m'.reads = m.reads
  invocations : invocations m'.log = invocations m.log

theorem exchanged_self (m : Monitor) : Exchanged m m.exchanged where
  ports p := by cases p <;> rfl
  mWarningSet := rfl
  mDataRole := rfl
  mDataSessionStart := rfl
  mUdcBind := rfl
  reads := rfl
  invocations := rfl

variable {P : Platform} {m m' : Monitor}

theorem Exchanged.device (h : Exchanged m m') : m'.mDeviceState = m.mDeviceState := h.ports .device

theorem Exchanged.host1 (h : Exchanged m m') : m'.mHost1State = m.mHost2State := h.ports .host1

theorem Exchanged.host2 (h : Exchanged m m') : m'.mHost2State = m.mHost1State := h.ports .host2

/-! ### The warnings -/

/-- The conditions on the host ports are symmetric. -/
theorem warningsAfterDelay_comm (role : PortDataRole) (bind : Bool)
    (device host1 host2 : List String) :
    warningsAfterDelay role bind device host1 host2 =
      warningsAfterDelay role bind device host2 host1 := by
  have hfail : (host1.count kConfiguredState = 0 ∧ host2.count kConfiguredState = 0 ∧
      (host1.count kDefaultState > enumFailDefaultCountThreshold ∨
        host2.count kDefaultState > enumFailDefaultCountThreshold)) ↔
      (host2.count kConfiguredState = 0 ∧ host1.count kConfiguredState = 0 ∧
      (host2.count kDefaultState > enumFailDefaultCountThreshold ∨
        host1.count kDefaultState > enumFailDefaultCountThreshold)) := by tauto
  have hmissing : (host1.length = 1 ∧ host1.head? = some kNotAttachedState ∧
      host2.length = 1 ∧ host2.head? = some kNotAttachedState) ↔
      (host2.length = 1 ∧ host2.head? = some kNotAttachedState ∧
      host1.length = 1 ∧ host1.head? = some kNotAttachedState) := by tauto
  simp only [warningsAfterDelay, hfail, hmissing]

theorem Exchanged.currentWarnings (h : Exchanged m m') :
    m'.currentWarnings = m.currentWarnings := by
  unfold Monitor.currentWarnings
  rw [h.mDataRole, h.mUdcBind, h.device, h.host1, h.host2, warningsAfterDelay_comm]

theorem Exchanged.elapsedTimeSec (h : Exchanged m m') :
    elapsedTimeSec P m' = elapsedTimeSec P m := by
  unfold Monitor.elapsedTimeSec
  rw [h.reads, h.mDataSessionStart]

theorem Exchanged.evaluatedWarnings (h : Exchanged m m') :
    evaluatedWarnings P m' = evaluatedWarnings P m := by
  unfold Monitor.evaluatedWarnings
  rw [h.elapsedTimeSec, h.currentWarnings]

theorem Exchanged.evaluateLog (h : Exchanged m m') : evaluateLog P m' = evaluateLog P m := by
  unfold Monitor.evaluateLog
  rw [h.elapsedTimeSec, h.evaluatedWarnings, h.mWarningSet]

/-! ### One lemma for each part of a handler -/

theorem invocations_append (l l' : List Action) :
    Monitor.invocations (l ++ l') = Monitor.invocations l ++ Monitor.invocations l' :=
  List.filterMap_append

theorem Exchanged.evaluate (h : Exchanged m m') :
    Exchanged (evaluateComplianceWarning P m) (evaluateComplianceWarning P m') := by
  rw [evaluateComplianceWarning_eq, evaluateComplianceWarning_eq]
  refine ⟨fun p => ?_, h.evaluatedWarnings, h.mDataRole, h.mDataSessionStart, h.mUdcBind,
    congrArg (· + 1) h.reads, ?_⟩
  · exact (by cases p <;> rfl : _ = m'.portState p).trans
      ((h.ports p).trans (by cases p <;> rfl))
  · rw [invocations_append, invocations_append, h.invocations, h.evaluateLog]

/-- Logging, where neither action is an invocation of the callback. -/
theorem Exchanged.logged (h : Exchanged m m') {a a' : Action} (ha : a.invoked = none)
    (ha' : a'.invoked = none) : Exchanged (m.logged a) (m'.logged a') where
  ports := h.ports
  mWarningSet := h.mWarningSet
  mDataRole := h.mDataRole
  mDataSessionStart := h.mDataSessionStart
  mUdcBind := h.mUdcBind
  reads := h.reads
  invocations := by
    have hl : ∀ (l : List Action) (b : Action), b.invoked = none →
        Monitor.invocations (l ++ [b]) = Monitor.invocations l := by
      intro l b hb
      rw [invocations_append]
      simp [Monitor.invocations, hb]
    exact (hl _ _ ha').trans (h.invocations.trans (hl _ _ ha).symm)

/-- Two reports read the clock equally often. -/
theorem Exchanged.length_sessionEvents (h : Exchanged m m') :
    (sessionEvents P m').length = (sessionEvents P m).length := by
  unfold sessionEvents
  rw [h.mDataRole, h.device, h.host1, h.host2, h.mDataSessionStart, h.reads]
  cases m.mDataRole with
  | host =>
    by_cases h₁ : 1 < m.mHost1State.states.length <;>
      by_cases h₂ : 1 < m.mHost2State.states.length <;> simp [hostEvents, h₁, h₂]
  | _ => rfl

theorem Exchanged.ticked (h : Exchanged m m') {n n' : ℕ} (hn : n' = n) :
    Exchanged (m.ticked n) (m'.ticked n') where
  ports := h.ports
  mWarningSet := h.mWarningSet
  mDataRole := h.mDataRole
  mDataSessionStart := h.mDataSessionStart
  mUdcBind := h.mUdcBind
  reads := hn ▸ congrArg (· + n) h.reads
  invocations := h.invocations

theorem Exchanged.report (h : Exchanged m m') :
    Exchanged (reportUsbDataSessionMetrics P m) (reportUsbDataSessionMetrics P m') := by
  have hreport : Exchanged ((m.ticked (sessionEvents P m).length).logged
      (.report (sessionEvents P m))) ((m'.ticked (sessionEvents P m').length).logged
      (.report (sessionEvents P m'))) := (h.ticked h.length_sessionEvents).logged rfl rfl
  unfold reportUsbDataSessionMetrics
  rw [h.mDataRole]
  cases m.mDataRole with
  | device => exact hreport
  | host => exact hreport
  | none => exact h
  | unnamed byte => exact h

theorem Exchanged.setDataRole (h : Exchanged m m') (role : PortDataRole) :
    Exchanged (m.setDataRole role) (m'.setDataRole role) where
  ports := h.ports
  mWarningSet := h.mWarningSet
  mDataRole := rfl
  mDataSessionStart := h.mDataSessionStart
  mUdcBind := h.mUdcBind
  reads := h.reads
  invocations := h.invocations

theorem Exchanged.setUdcBind (h : Exchanged m m') (b : Bool) :
    Exchanged (m.setUdcBind b) (m'.setUdcBind b) := by
  have hlog : Exchanged (m.logged (.udcBind b)) (m'.logged (.udcBind b)) := h.logged rfl rfl
  exact ⟨hlog.ports, hlog.mWarningSet, hlog.mDataRole, hlog.mDataSessionStart, rfl, hlog.reads,
    hlog.invocations⟩

theorem Exchanged.setup (h : Exchanged m m') :
    Exchanged (setupNewSession P m) (setupNewSession P m') := by
  rw [setupNewSession_eq, setupNewSession_eq]
  refine ⟨fun p => ?_, rfl, h.mDataRole, ?_, h.mUdcBind, congrArg (· + 1) h.reads, ?_⟩
  · cases p <;> simp only [portState, Port.exchanged, h.mDataRole, h.device, h.host1, h.host2]
  · rw [h.reads]
  · have hlog : setupLog P m' = setupLog P m := by
      unfold setupLog
      rw [h.mDataRole, h.reads, h.mUdcBind]
    rw [invocations_append, invocations_append, h.invocations, hlog]

theorem Exchanged.recordState (h : Exchanged m m') (p : Port) (state : String) :
    Exchanged (recordState P p state m) (recordState P p.exchanged state m') := by
  have hports : ∀ q, (Monitor.recordState P p.exchanged state m').portState q =
      (Monitor.recordState P p state m).portState q.exchanged := by
    intro q
    rw [portState_recordState, portState_recordState, h.ports, h.ports, h.reads,
      Port.exchanged_exchanged]
    cases p <;> cases q <;> rfl
  cases p <;>
    exact ⟨hports, h.mWarningSet, h.mDataRole, h.mDataSessionStart, h.mUdcBind,
      congrArg (· + 1) h.reads, h.invocations⟩

/-! ### The handlers -/

theorem Exchanged.handleDeviceStateEvent (h : Exchanged m m') (p : Port) (r : FileRead) :
    Exchanged (handleDeviceStateEvent P p r m) (handleDeviceStateEvent P p.exchanged r m') := by
  simp only [Monitor.handleDeviceStateEvent]
  split_ifs
  · exact ((h.logged rfl rfl).recordState p _).evaluate
  · exact h.logged rfl rfl

theorem Exchanged.handleDataRoleEvent (h : Exchanged m m') (r : FileRead) :
    Exchanged (handleDataRoleEvent P r m) (handleDataRoleEvent P r m') := by
  have hread : Exchanged (m.logged (.roleRead (newDataRole r)))
      (m'.logged (.roleRead (newDataRole r))) := h.logged rfl rfl
  simp only [Monitor.handleDataRoleEvent, hread.mDataRole, hread.mUdcBind]
  split_ifs
  · exact (hread.report.setDataRole _).setup
  · exact (hread.setDataRole _).setup
  · exact hread

theorem Exchanged.updateUdcBindStatus (h : Exchanged m m') (function : Option String) :
    Exchanged (updateUdcBindStatus P function m) (updateUdcBindStatus P function m') := by
  cases function with
  | none => exact h
  | some f =>
    simp only [Monitor.updateUdcBindStatus, h.mUdcBind, h.mDataRole]
    split_ifs
    · exact h
    · exact h.report.evaluate.setUdcBind _
    · exact h.setup.setUdcBind _
    · exact h.setUdcBind _
    · exact h.setUdcBind _

/-- A new HOST session's predecessor ends: a role other than HOST is read. -/
def EndsHost (m : Monitor) (ready : Ready) : Prop :=
  ∃ r, ready = .dataRole r ∧ m.mDataRole = .host ∧ newDataRole r ≠ .host

/-- The report of a HOST session does not depend on which port is `host1`: one port alone has more
than one state, or the histories are the same, or both have more than one state and the clock gives
both events the same time. -/
def Level (P : Platform) (m : Monitor) : Prop :=
  (1 < m.mHost1State.states.length ↔ ¬ 1 < m.mHost2State.states.length) ∨
    m.mHost1State = m.mHost2State ∨
    (1 < m.mHost1State.states.length ∧ 1 < m.mHost2State.states.length ∧
      P.bootClock m.reads = P.bootClock (m.reads + 1))

/-- The reports are made of the same events, whatever is built from their arguments. -/
def SameMetrics (l l' : List (List SessionEvent)) : Prop :=
  List.Forall₂ (fun events events' => ∀ {β : Type} (build : SessionEvent → β),
    (events'.map build).Perm (events.map build)) l l'

/-- The reports made between two states. -/
def newReports (m m' : Monitor) : List (List SessionEvent) := reports (newActions m m')

/-- The event of a host port. -/
def hostEvent (P : Platform) (m : Monitor) (n : ℕ) (d : UsbDeviceState) : SessionEvent :=
  ⟨true, P.bootClock n, m.mDataSessionStart, d.states, d.timestamps⟩

theorem hostEvent_inj {n n' : ℕ} {d d' : UsbDeviceState} :
    hostEvent P m n d = hostEvent P m n' d' ↔ P.bootClock n = P.bootClock n' ∧ d = d' := by
  cases d
  cases d'
  simp [hostEvent]

theorem sessionEvents_host (h : m.mDataRole = .host) :
    sessionEvents P m =
      if 1 < m.mHost1State.states.length then
        if 1 < m.mHost2State.states.length then
          [hostEvent P m m.reads m.mHost1State, hostEvent P m (m.reads + 1) m.mHost2State]
        else [hostEvent P m m.reads m.mHost1State]
      else if 1 < m.mHost2State.states.length then [hostEvent P m m.reads m.mHost2State]
      else [hostEvent P m m.reads m.mHost1State] := by
  by_cases h₁ : 1 < m.mHost1State.states.length <;>
    by_cases h₂ : 1 < m.mHost2State.states.length <;>
    simp [sessionEvents, h, hostEvents, hostEvent, h₁, h₂]

theorem Exchanged.hostEvent (h : Exchanged m m') (n : ℕ) (d : UsbDeviceState) :
    hostEvent P m' n d = hostEvent P m n d := by
  unfold Monitor.hostEvent
  rw [h.mDataSessionStart]

theorem perm_pair_iff {α : Type*} {a b c d : α} :
    [a, b].Perm [c, d] ↔ (a = c ∧ b = d) ∨ (a = d ∧ b = c) := by
  constructor
  · intro h
    rcases (List.mem_pair.1 (h.mem_iff.1 List.mem_cons_self) : a = c ∨ a = d) with rfl | rfl
    · exact .inl ⟨rfl, by simpa using h⟩
    · have hswap : [a, b].Perm [a, c] := h.trans (.swap a c [])
      exact .inr ⟨rfl, by simpa using hswap⟩
  · rintro (⟨rfl, rfl⟩ | ⟨rfl, rfl⟩)
    · exact .refl _
    · exact .swap _ _ _

/-- The events of a HOST session are those of the exchanged monitor if and only if the session
ends level. -/
theorem Exchanged.sessionEvents_perm_iff (h : Exchanged m m') (hhost : m.mDataRole = .host) :
    (sessionEvents P m').Perm (sessionEvents P m) ↔ Level P m := by
  rw [sessionEvents_host hhost, sessionEvents_host (h.mDataRole.trans hhost), h.host1, h.host2,
    h.reads]
  simp only [h.hostEvent]
  unfold Level
  by_cases h₁ : 1 < m.mHost1State.states.length <;>
    by_cases h₂ : 1 < m.mHost2State.states.length
  · -- two events each, built one after the other
    simp only [if_pos h₁, if_pos h₂]
    rw [perm_pair_iff]
    simp only [h₁, h₂, hostEvent_inj, true_and, not_true_eq_false, iff_false, false_or]
    grind
  · simp [h₁, h₂]
  · simp [h₁, h₂]
  · -- the fallback
    simp [h₁, h₂, hostEvent_inj, eq_comm]

end Monitor

namespace System

open Monitor

def exchanged (s : System) : System where
  monitor := s.monitor.exchanged
  files := { s.files with fd := fun p => s.files.fd p.exchanged }

/-! ### Runs of the two monitors -/

variable {P : Platform} {regexSearch : String → String → Bool} {c : Config} {s t : System}

/-- The udc is the same device for both monitors. -/
theorem exchanged_deviceFieldEvents (h : Exchanged s.monitor t.monitor) (f : UeventField) :
    Exchanged (Runs.run (step P) s (deviceFieldEvents regexSearch c f)).monitor
      (Runs.run (step P) t (deviceFieldEvents regexSearch c.exchanged f)).monitor := by
  have hc : c.exchanged.ueventRegex .device = c.ueventRegex .device := rfl
  unfold deviceFieldEvents
  rw [hc]
  split_ifs
  · rw [monitor_udcChange, monitor_udcChange]
    exact h.updateUdcBindStatus _
  · exact h
  · exact h

theorem exchanged_handle (s t : System) (ready : Ready) (h : Exchanged s.monitor t.monitor) :
    Exchanged (handle P regexSearch c s ready).monitor
      (handle P regexSearch c.exchanged t ready.exchanged).monitor := by
  cases ready with
  | timer =>
    simp only [Ready.exchanged, monitor_handle_timer]
    exact h.evaluate
  | dataRole r =>
    simp only [Ready.exchanged, monitor_handle_dataRole]
    exact h.handleDataRoleEvent r
  | deviceState p r =>
    simp only [Ready.exchanged, monitor_handle_deviceState]
    exact h.handleDeviceStateEvent p r
  | uevent fields =>
    simp only [handle, Ready.exchanged, readyEvents]
    induction fields generalizing s t with
    | nil => exact h
    | cons f fields ih =>
      rw [List.flatMap_cons, List.flatMap_cons, Runs.run_append, Runs.run_append]
      obtain ⟨s₁, hs, hsf⟩ := monitor_fieldEvents P regexSearch c s f
      obtain ⟨t₁, ht, htf⟩ := monitor_fieldEvents P regexSearch c.exchanged t f
      rw [hsf, htf]
      exact ih _ _ (exchanged_deviceFieldEvents (hs ▸ ht ▸ h) f)

theorem exchanged_monitorThread (h : Exchanged s.monitor t.monitor) (readies : List Ready) :
    Exchanged (monitorThread P regexSearch c s readies).monitor
      (monitorThread P regexSearch c.exchanged t (readies.map Ready.exchanged)).monitor :=
  Runs.run_related (R := fun s t : System => Exchanged s.monitor t.monitor) exchanged_handle h
    readies

/-- **The host ports are interchangeable for the warnings.**  Two monitors that differ in nothing
but the assignment of the host ports agree after every step, each host event being handled for the
exchanged port in the second one. -/
theorem exchanged_run (P : Platform) (regexSearch : String → String → Bool) (c : Config)
    (s : System) (readies : List Ready) :
    Exchanged (monitorThread P regexSearch c s readies).monitor
      (monitorThread P regexSearch c.exchanged s.exchanged
        (readies.map Ready.exchanged)).monitor :=
  exchanged_monitorThread (exchanged_self s.monitor) readies

/-! ### The reports of HOST sessions -/

/-- Nothing is reported, and the role stays. -/
structure Quiet (m m' : Monitor) : Prop where
  log : ∃ l, m'.log = m.log ++ l ∧ reports l = []
  mDataRole : m'.mDataRole = m.mDataRole

theorem Quiet.trans {m₁ m₂ m₃ : Monitor} (h : Quiet m₁ m₂) (h' : Quiet m₂ m₃) : Quiet m₁ m₃ := by
  obtain ⟨l, hl, hr⟩ := h.log
  obtain ⟨l', hl', hr'⟩ := h'.log
  refine ⟨⟨l ++ l', by rw [hl', hl, List.append_assoc], ?_⟩, h'.mDataRole.trans h.mDataRole⟩
  rw [reports, List.filterMap_append, ← reports, ← reports, hr, hr', List.append_nil]

theorem Quiet.refl (m : Monitor) : Quiet m m := ⟨⟨[], (List.append_nil _).symm, rfl⟩, rfl⟩

theorem Quiet.newReports {m m' : Monitor} (h : Quiet m m') : newReports m m' = [] := by
  obtain ⟨l, hl, hr⟩ := h.log
  rw [Monitor.newReports, newActions_eq hl, hr]

theorem quiet_evaluate (m : Monitor) : Quiet m (evaluateComplianceWarning P m) := by
  rw [evaluateComplianceWarning_eq]
  refine ⟨⟨evaluateLog P m, rfl, List.filterMap_eq_nil_iff.2 fun a ha => ?_⟩, rfl⟩
  exact (evaluateLog_inert P m a ha).reported

theorem quiet_handleDeviceStateEvent (m : Monitor) (p : Port) (r : FileRead) :
    Quiet m (handleDeviceStateEvent P p r m) := by
  simp only [handleDeviceStateEvent]
  set state := r.text usbStateMaxLen
  have hread : Quiet m (m.logged (.stateRead p state (P.bootClock m.reads))) :=
    ⟨⟨[.stateRead p state (P.bootClock m.reads)], rfl, rfl⟩, rfl⟩
  have hrecord : ∀ m₁ : Monitor, Quiet m₁ (recordState P p state m₁) := by
    intro m₁
    cases p <;> exact ⟨⟨[], (List.append_nil _).symm, rfl⟩, rfl⟩
  split_ifs
  · exact (hread.trans (hrecord _)).trans (quiet_evaluate _)
  · exact hread

/-- In the HOST role the udc's changes are only noted. -/
theorem quiet_updateUdcBindStatus {m : Monitor} (h : m.mDataRole = .host)
    (function : Option String) : Quiet m (updateUdcBindStatus P function m) := by
  rcases updateUdcBindStatus_cases P function m with ⟨-, he⟩ | ⟨-, -, hd, -⟩ | ⟨-, -, hd, -⟩ |
    ⟨b, -, -, he⟩
  · rw [he]
    exact .refl m
  · rw [h] at hd
    cases hd
  · rw [h] at hd
    cases hd
  · rw [he]
    exact ⟨⟨[.udcBind b], rfl, rfl⟩, rfl⟩

theorem quiet_uevent (s : System) (h : s.monitor.mDataRole = .host) (fields : List UeventField) :
    Quiet s.monitor (handle P regexSearch c s (.uevent fields)).monitor := by
  simp only [handle, readyEvents]
  induction fields generalizing s with
  | nil => exact .refl _
  | cons f fields ih =>
    rw [List.flatMap_cons, Runs.run_append]
    obtain ⟨s₁, hs, hsf⟩ := monitor_fieldEvents P regexSearch c s f
    have hfield : Quiet s.monitor
        (Runs.run (step P) s (fieldEvents regexSearch c f)).monitor := by
      rw [hsf, ← hs]
      unfold deviceFieldEvents
      split_ifs
      · rw [monitor_udcChange]
        exact quiet_updateUdcBindStatus (hs ▸ h) _
      · exact .refl _
      · exact .refl _
    exact hfield.trans (ih _ (hfield.mDataRole.trans h))

/-- A step in the HOST role that does not end it reports nothing. -/
theorem quiet_handle (h : s.monitor.mDataRole = .host) {ready : Ready}
    (hends : ¬ EndsHost s.monitor ready) :
    Quiet s.monitor (handle P regexSearch c s ready).monitor := by
  cases ready with
  | timer =>
    rw [monitor_handle_timer]
    exact quiet_evaluate _
  | deviceState p r =>
    rw [monitor_handle_deviceState]
    exact quiet_handleDeviceStateEvent _ p r
  | uevent fields => exact quiet_uevent s h fields
  | dataRole r =>
    have hr : newDataRole r = s.monitor.mDataRole := by
      by_contra hne
      exact hends ⟨r, rfl, h, h ▸ hne⟩
    rcases handleDataRoleEvent_cases P r s.monitor with ⟨-, he⟩ | ⟨hne, -⟩ | ⟨hne, -⟩
    · rw [monitor_handle_dataRole, he]
      exact ⟨⟨[.roleRead (newDataRole r)], rfl, rfl⟩, rfl⟩
    · exact absurd hr hne
    · exact absurd hr hne

/-- The end of a HOST session makes one report. -/
theorem newReports_endsHost {ready : Ready} (h : EndsHost s.monitor ready) :
    newReports s.monitor (handle P regexSearch c s ready).monitor =
      [sessionEvents P s.monitor] := by
  obtain ⟨r, rfl, hhost, hr⟩ := h
  have hguard : s.monitor.ReportsOnRoleChange := .inl hhost
  rcases handleDataRoleEvent_cases P r s.monitor with ⟨he, -⟩ | ⟨-, -, he⟩ | ⟨-, hn, -⟩
  · exact absurd (he.trans hhost) hr
  · rw [monitor_handle_dataRole]
    set m₁ := s.monitor.logged (.roleRead (newDataRole r)) with hm₁
    set m₂ := (reportUsbDataSessionMetrics P m₁).setDataRole (newDataRole r) with hm₂
    have hlog : (handleDataRoleEvent P r s.monitor).log =
        s.monitor.log ++ ([.roleRead (newDataRole r)] ++ reportLog P m₁ ++ setupLog P m₂) := by
      have hlog₂ : m₂.log = s.monitor.log ++ [.roleRead (newDataRole r)] ++ reportLog P m₁ := by
        rw [hm₂, reportUsbDataSessionMetrics_eq]; rfl
      rw [he, setupNewSession_eq, hlog₂]
      simp only [List.append_assoc]
    have hsetup : reports (setupLog P m₂) = [] := by
      rw [setupLog_eq]
      refine List.filterMap_eq_nil_iff.2 fun a ha => ?_
      simp only [List.mem_cons] at ha
      rcases ha with rfl | rfl | ha
      · rfl
      · rfl
      · rw [armLog_plain ha]
        rfl
    rw [Monitor.newReports, newActions_eq hlog, reportLog_of_guard (m := m₁) hguard,
      reports_append (List.filterMap_eq_nil_iff.1 hsetup)]
    rfl
  · exact absurd hguard hn

theorem sameMetrics_singleton {events events' : List SessionEvent} :
    SameMetrics [events] [events'] ↔ events'.Perm events := by
  constructor
  · rintro (_ | ⟨h, -⟩)
    simpa using h id
  · exact fun h => .cons (fun build => h.map build) .nil

/-- The reports of one step in the HOST role. -/
theorem sameMetrics_handle_iff (h : Exchanged s.monitor t.monitor) (ready : Ready) :
    (s.monitor.mDataRole = .host →
      SameMetrics (newReports s.monitor (handle P regexSearch c s ready).monitor)
        (newReports t.monitor (handle P regexSearch c.exchanged t ready.exchanged).monitor)) ↔
      (EndsHost s.monitor ready → Level P s.monitor) := by
  by_cases hhost : s.monitor.mDataRole = .host
  swap
  · exact iff_of_true (fun hh => absurd hh hhost) fun ⟨_, _, hh, _⟩ => absurd hh hhost
  rw [forall_prop_of_true hhost]
  have hends : EndsHost t.monitor ready.exchanged ↔ EndsHost s.monitor ready := by
    unfold EndsHost
    rw [h.mDataRole]
    cases ready <;> simp [Ready.exchanged]
  by_cases he : EndsHost s.monitor ready
  · rw [newReports_endsHost he, newReports_endsHost (hends.2 he), sameMetrics_singleton,
      h.sessionEvents_perm_iff hhost, forall_prop_of_true he]
  · rw [(quiet_handle hhost he).newReports,
      (quiet_handle (h.mDataRole.trans hhost) (hends.not.2 he)).newReports]
    exact iff_of_true .nil fun he' => absurd he' he

/-- In every step of the run that starts in a HOST session, the other monitor reports the same. -/
def SameHostMetrics (P : Platform) (regexSearch : String → String → Bool) (c : Config)
    (s : System) (readies : List Ready) : Prop :=
  ∀ pre ready post, readies = pre ++ ready :: post →
    let before := monitorThread P regexSearch c s pre
    let before' := monitorThread P regexSearch c.exchanged s.exchanged (pre.map Ready.exchanged)
    before.monitor.mDataRole = .host →
      SameMetrics (newReports before.monitor (handle P regexSearch c before ready).monitor)
        (newReports before'.monitor
          (handle P regexSearch c.exchanged before' ready.exchanged).monitor)

/-- If the step ends a HOST session, the session ends level. -/
def LevelEnd (P : Platform) (s : System) (ready : Ready) : Prop :=
  EndsHost s.monitor ready → Level P s.monitor

/-- **The host ports are interchangeable for the metrics** of a run if and only if its HOST
sessions end level. -/
theorem sameHostMetrics_iff (P : Platform) (regexSearch : String → String → Bool) (c : Config)
    (s : System) (readies : List Ready) :
    SameHostMetrics P regexSearch c s readies ↔
      Runs.Meets (handle P regexSearch c) (LevelEnd P) s readies := by
  rw [Runs.meets_iff]
  refine forall_congr' fun pre => forall_congr' fun ready => forall_congr' fun post =>
    forall_congr' fun _ => ?_
  exact sameMetrics_handle_iff (exchanged_monitorThread (exchanged_self s.monitor) pre) ready

/-- A HOST session in which one port is attached to nothing, and the other is not heard of. -/
def quietHost : List Ready :=
  [.dataRole (.of "host"), .deviceState .host1 (.of "not attached\n"), .dataRole (.of "none")]

/-- The fallback event shows the one state, or none, depending on which port is `host1`. -/
theorem quietHost_differs :
    ¬ SameHostMetrics .secondHand (fun _ _ => false) .usb
      (construct .none none (fun _ _ => none) (fun _ => true)) quietHost := by
  intro h
  have hsame := h (quietHost.take 2) (.dataRole (.of "none")) [] rfl
  have hlevel := (sameMetrics_handle_iff (exchanged_monitorThread (exchanged_self _) _) _).1 hsame
    ⟨_, rfl, by decide, by decide⟩
  revert hlevel
  unfold Level
  decide

end System

end Gs101
