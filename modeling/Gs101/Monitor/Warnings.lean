import Gs101.Monitor.System

/-!
# UsbDataSessionMonitor: compliance warnings

`mWarningSet` is a cache of `currentWarnings`, refreshed by `evaluateComplianceWarning` and emptied
by `setupNewSession`.

* `InStep`: once the delay of the session has passed in an evaluation, the cache is up to date.
  `always_inStep_iff` says which runs keep it so: those in which no soft pulldown of the gadget
  comes while the device port has a warning, because `updateUdcBindStatus` evaluates before it
  assigns `mUdcBind`.
* `Ripe`: an evaluation past the delay stays past the delay, by the monotone clock; with it one
  evaluation brings the cache in step, whatever it held.
-/

namespace Gs101

namespace Monitor

/-! ### Elapsed time -/

/-- Within a session the elapsed seconds do not decrease. -/
theorem elapsedTimeSec_mono {P : Platform} {m m' : Monitor}
    (hstart : m'.mDataSessionStart = m.mDataSessionStart) (hreads : m.reads ≤ m'.reads) :
    elapsedTimeSec P m ≤ elapsedTimeSec P m' := by
  unfold elapsedTimeSec
  rw [hstart]
  exact Int.tdiv_le_tdiv (by decide) (Int.sub_le_sub_right (P.mono _ _ hreads) _)

/-! ### Warnings in step with their inputs -/

/-- One action's effect on the answer to: has the set been evaluated, past the delay, since the
last session began? -/
def evaluatedStep (b : Bool) : Action → Bool
  | .sessionStart .. => false
  | .evaluate t => b || decide (warningSurfaceDelaySec ≤ t)
  | _ => b

/-- `evaluateComplianceWarning` has run, with at least `WARNING_SURFACE_DELAY_SEC` elapsed, since
the last `setupNewSession`. -/
def evaluated (log : List Action) : Bool := log.foldl evaluatedStep false

theorem evaluated_append (l l' : List Action) :
    evaluated (l ++ l') = l'.foldl evaluatedStep (evaluated l) := List.foldl_append

/-- The warnings shown are those of the current fields. -/
def InStep (m : Monitor) : Prop :=
  evaluated m.log = true → m.mWarningSet = m.currentWarnings

/-- An evaluation past the delay stays past the delay. -/
def Ripe (P : Platform) (m : Monitor) : Prop :=
  evaluated m.log = true → warningSurfaceDelaySec ≤ elapsedTimeSec P m

/-- Logging anything but a session start or an evaluation, and reading the clock, keep `Ripe`. -/
theorem Ripe.later {P : Platform} {m m' : Monitor} (h : Ripe P m)
    (hstart : m'.mDataSessionStart = m.mDataSessionStart) (hreads : m.reads ≤ m'.reads)
    (hlog : evaluated m'.log = evaluated m.log) : Ripe P m' := fun he =>
  (h (hlog ▸ he)).trans (elapsedTimeSec_mono hstart hreads)

theorem evaluated_evaluate (P : Platform) (m : Monitor) :
    evaluated (evaluateComplianceWarning P m).log =
      (evaluated m.log || decide (warningSurfaceDelaySec ≤ elapsedTimeSec P m)) := by
  simp only [evaluateComplianceWarning_eq, evaluated_append, evaluateLog]
  split_ifs <;> rfl

theorem evaluated_report (P : Platform) (m : Monitor) :
    evaluated (reportUsbDataSessionMetrics P m).log = evaluated m.log := by
  simp only [reportUsbDataSessionMetrics_eq, evaluated_append, reportLog]
  split_ifs <;> rfl

theorem evaluated_setup (P : Platform) (m : Monitor) :
    evaluated (setupNewSession P m).log = false := by
  simp only [setupNewSession_eq, evaluated_append, setupLog]
  split_ifs <;> rfl

theorem Ripe.evaluate {P : Platform} {m : Monitor} (h : Ripe P m) :
    Ripe P (evaluateComplianceWarning P m) := by
  intro he
  have hle : elapsedTimeSec P m ≤ elapsedTimeSec P (evaluateComplianceWarning P m) :=
    elapsedTimeSec_mono (by rw [evaluateComplianceWarning_eq])
      (by rw [evaluateComplianceWarning_eq]; exact Nat.le_succ _)
  rw [evaluated_evaluate, Bool.or_eq_true, decide_eq_true_eq] at he
  exact (he.elim h id).trans hle

/-- An evaluation brings the warnings in step, whatever they were. -/
theorem inStep_evaluate {P : Platform} {m : Monitor} (h : Ripe P m) :
    InStep (evaluateComplianceWarning P m) := by
  intro he
  rw [evaluated_evaluate, Bool.or_eq_true, decide_eq_true_eq] at he
  have hdelay : elapsedTimeSec P m ≥ warningSurfaceDelaySec := he.elim h id
  simp only [evaluateComplianceWarning_eq, evaluatedWarnings, if_pos hdelay]
  rfl

theorem Ripe.report {P : Platform} {m : Monitor} (h : Ripe P m) :
    Ripe P (reportUsbDataSessionMetrics P m) :=
  h.later (by rw [reportUsbDataSessionMetrics_eq])
    (by rw [reportUsbDataSessionMetrics_eq]; exact Nat.le_add_right _ _) (evaluated_report P m)

/-- A new session starts out with nothing evaluated. -/
theorem ripe_setup (P : Platform) (m : Monitor) : Ripe P (setupNewSession P m) := by
  intro he
  rw [evaluated_setup] at he
  cases he

theorem inStep_setup (P : Platform) (m : Monitor) : InStep (setupNewSession P m) := by
  intro he
  rw [evaluated_setup] at he
  cases he

theorem evaluated_logged {m : Monitor} {a : Action}
    (ha : ∀ b, evaluatedStep b a = b) : evaluated (m.logged a).log = evaluated m.log := by
  simp only [logged, evaluated_append, List.foldl_cons, List.foldl_nil, ha]

theorem evaluated_setUdcBind (m : Monitor) (b : Bool) :
    evaluated (m.setUdcBind b).log = evaluated m.log := by
  simp only [setUdcBind, evaluated_append, List.foldl_cons, List.foldl_nil, evaluatedStep]

theorem Ripe.setUdcBind {P : Platform} {m : Monitor} (h : Ripe P m) (b : Bool) :
    Ripe P (m.setUdcBind b) :=
  h.later rfl le_rfl (evaluated_setUdcBind m b)

theorem Ripe.logged {P : Platform} {m : Monitor} (h : Ripe P m) {a : Action}
    (ha : ∀ b, evaluatedStep b a = b) : Ripe P (m.logged a) :=
  h.later rfl le_rfl (evaluated_logged ha)

theorem InStep.logged {m : Monitor} (h : InStep m) {a : Action}
    (ha : ∀ b, evaluatedStep b a = b) : InStep (m.logged a) := fun he =>
  h (evaluated_logged ha ▸ he)

theorem Ripe.recordState {P : Platform} {m : Monitor} (h : Ripe P m) (p : Port) (state : String) :
    Ripe P (recordState P p state m) := by
  cases p <;> exact h.later rfl (Nat.le_succ _) rfl

theorem handleDeviceStateEvent_ripe {P : Platform} {m : Monitor} (h : Ripe P m) (p : Port)
    (r : FileRead) : Ripe P (handleDeviceStateEvent P p r m) := by
  simp only [handleDeviceStateEvent]
  split_ifs
  · exact ((h.logged fun _ => rfl).recordState p _).evaluate
  · exact h.logged fun _ => rfl

/-- A rejected text changes nothing, a valid one is evaluated. -/
theorem handleDeviceStateEvent_inStep {P : Platform} {m : Monitor} (h : Ripe P m) (hs : InStep m)
    (p : Port) (r : FileRead) : InStep (handleDeviceStateEvent P p r m) := by
  simp only [handleDeviceStateEvent]
  split_ifs
  · exact inStep_evaluate ((h.logged fun _ => rfl).recordState p _)
  · exact hs.logged fun _ => rfl

theorem handleDataRoleEvent_ripe {P : Platform} {m : Monitor} (h : Ripe P m) (r : FileRead) :
    Ripe P (handleDataRoleEvent P r m) := by
  rcases handleDataRoleEvent_cases P r m with ⟨-, he⟩ | ⟨-, -, he⟩ | ⟨-, -, he⟩ <;> rw [he]
  · exact h.logged fun _ => rfl
  · exact ripe_setup P _
  · exact ripe_setup P _

theorem handleDataRoleEvent_inStep {P : Platform} {m : Monitor} (hs : InStep m) (r : FileRead) :
    InStep (handleDataRoleEvent P r m) := by
  rcases handleDataRoleEvent_cases P r m with ⟨-, he⟩ | ⟨-, -, he⟩ | ⟨-, -, he⟩ <;> rw [he]
  · exact hs.logged fun _ => rfl
  · exact inStep_setup P _
  · exact inStep_setup P _

/-- A history of the device port that calls for a warning: the host only resets the device, or
configures it again and again. -/
def DeviceWarns (states : List String) : Prop :=
  (states.count kConfiguredState = 0 ∧
    states.count kDefaultState > enumFailDefaultCountThreshold) ∨
  states.count kConfiguredState > deviceFlakyConnectionConfiguredCountThreshold

theorem currentWarnings_ne_empty_iff {m : Monitor} (hd : m.mDataRole = .device)
    (hb : m.mUdcBind = true) : m.currentWarnings ≠ ∅ ↔ DeviceWarns m.mDeviceState.states := by
  simp only [currentWarnings, warningsAfterDelay, hd, hb, DeviceWarns, and_self, if_true]
  split_ifs <;> simp_all

/-- A soft pulldown of the gadget while the device port has a warning, past the delay of the
session.  (`reportUsbDataSessionMetrics` has read the clock once before the evaluation does.) -/
def StalePulldown (P : Platform) (m : Monitor) (function : Option String) : Prop :=
  function = some "" ∧ m.mUdcBind = true ∧ m.mDataRole = .device ∧
    warningSurfaceDelaySec ≤ elapsedTimeSec P (m.ticked 1) ∧ DeviceWarns m.mDeviceState.states

/-- The state in which a soft pulldown evaluates. -/
theorem report_of_device {P : Platform} {m : Monitor} (h : m.mDataRole = .device) :
    reportUsbDataSessionMetrics P m =
      (m.ticked 1).logged (.report (sessionEvents P m)) := by
  simp [reportUsbDataSessionMetrics, h, sessionEvents]

theorem elapsedTimeSec_report_of_device {P : Platform} {m : Monitor} (h : m.mDataRole = .device) :
    elapsedTimeSec P (reportUsbDataSessionMetrics P m) = elapsedTimeSec P (m.ticked 1) := by
  rw [report_of_device h]; rfl

theorem currentWarnings_report (P : Platform) (m : Monitor) :
    (reportUsbDataSessionMetrics P m).currentWarnings = m.currentWarnings := by
  rw [reportUsbDataSessionMetrics_eq]; rfl

/-- What a soft pulldown leaves in `mWarningSet`: the warnings of the session that ends. -/
theorem mWarningSet_pulldown {P : Platform} {m : Monitor} (h : m.mDataRole = .device) :
    (evaluateComplianceWarning P (reportUsbDataSessionMetrics P m)).mWarningSet =
      if warningSurfaceDelaySec ≤ elapsedTimeSec P (m.ticked 1) then m.currentWarnings else ∅ := by
  simp only [evaluateComplianceWarning_eq, evaluatedWarnings, elapsedTimeSec_report_of_device h,
    currentWarnings_report, ge_iff_le]

/-- An unbound gadget has no warnings. -/
theorem currentWarnings_of_unbound {m : Monitor} (h : m.mDataRole = .device)
    (hb : m.mUdcBind = false) : m.currentWarnings = ∅ := by
  simp [currentWarnings, warningsAfterDelay, h, hb]

/-- In a role other than DEVICE the warnings do not depend on `mUdcBind`. -/
theorem currentWarnings_of_not_device {m : Monitor} (h : m.mDataRole ≠ .device) (b : Bool) :
    (m.setUdcBind b).currentWarnings = m.currentWarnings := by
  have hrole : (m.setUdcBind b).mDataRole = m.mDataRole := rfl
  simp only [currentWarnings, warningsAfterDelay, hrole, h, false_and, if_false]
  rfl

theorem updateUdcBindStatus_ripe {P : Platform} {m : Monitor} (h : Ripe P m)
    (function : Option String) : Ripe P (updateUdcBindStatus P function m) := by
  rcases updateUdcBindStatus_cases P function m with ⟨-, he⟩ | ⟨-, -, -, he⟩ | ⟨-, -, -, he⟩ |
    ⟨b, -, -, he⟩ <;> rw [he]
  · exact h
  · exact h.report.evaluate.setUdcBind false
  · exact (ripe_setup P m).setUdcBind true
  · exact h.setUdcBind b

/-- After a soft pulldown nothing is to be warned of, so the set must be empty. -/
theorem inStep_pulldown_iff {P : Platform} {m : Monitor} (hd : m.mDataRole = .device) :
    InStep ((evaluateComplianceWarning P (reportUsbDataSessionMetrics P m)).setUdcBind false) ↔
      ¬ (warningSurfaceDelaySec ≤ elapsedTimeSec P (m.ticked 1) ∧
        (evaluateComplianceWarning P (reportUsbDataSessionMetrics P m)).mWarningSet ≠ ∅) := by
  set m₁ := evaluateComplianceWarning P (reportUsbDataSessionMetrics P m) with hm₁
  have hrole : m₁.mDataRole = .device := by
    rw [hm₁, evaluateComplianceWarning_eq, reportUsbDataSessionMetrics_eq]; exact hd
  have hcur : (m₁.setUdcBind false).currentWarnings = ∅ := currentWarnings_of_unbound hrole rfl
  have hev : evaluated (m₁.setUdcBind false).log =
      (evaluated m.log || decide (warningSurfaceDelaySec ≤ elapsedTimeSec P (m.ticked 1))) := by
    rw [evaluated_setUdcBind, hm₁, evaluated_evaluate, evaluated_report,
      elapsedTimeSec_report_of_device hd]
  have hset : m₁.mWarningSet = if warningSurfaceDelaySec ≤ elapsedTimeSec P (m.ticked 1) then
      m.currentWarnings else ∅ := mWarningSet_pulldown hd
  unfold InStep
  rw [hev, hcur]
  show (_ → m₁.mWarningSet = ∅) ↔ _
  by_cases hdelay : warningSurfaceDelaySec ≤ elapsedTimeSec P (m.ticked 1)
  · simp [hdelay]
  · simp [hset, hdelay]

/-- The bind handler keeps the warnings in step except at a stale pulldown. -/
theorem updateUdcBindStatus_inStep_iff {P : Platform} {m : Monitor} (hs : InStep m)
    (function : Option String) :
    InStep (updateUdcBindStatus P function m) ↔ ¬ StalePulldown P m function := by
  rcases updateUdcBindStatus_cases P function m with ⟨hf, he⟩ | ⟨hf, hb, hd, he⟩ |
    ⟨⟨f, hf, hne⟩, -, -, he⟩ | ⟨b, -, hd, he⟩ <;> rw [he]
  · refine iff_of_true hs fun hst => ?_
    have := hf "" hst.1
    simp [hst.2.1] at this
  · rw [inStep_pulldown_iff hd, mWarningSet_pulldown hd]
    simp only [StalePulldown, hf, hb, hd, true_and]
    refine not_congr (and_congr_right fun hdelay => ?_)
    rw [if_pos hdelay, currentWarnings_ne_empty_iff hd hb]
  · refine iff_of_true ?_ fun hst => hne (Option.some.inj (hf.symm.trans hst.1))
    intro hev
    rw [evaluated_setUdcBind, evaluated_setup] at hev
    cases hev
  · refine iff_of_true ?_ fun hst => hd hst.2.2.1
    intro hev
    rw [evaluated_setUdcBind] at hev
    exact (hs hev).trans (currentWarnings_of_not_device hd b).symm

end Monitor

namespace System

open Monitor

/-- The event is not a soft pulldown over a warning. -/
def NoStalePulldown (P : Platform) (s : System) (e : Event) : Prop :=
  ∀ function, e = .udcChange function → ¬ StalePulldown P s.monitor function

/-- A soft pulldown of the gadget in the DEVICE role clears the warnings. -/
def PulldownClears (P : Platform) (s : System) (e : Event) : Prop :=
  e = .udcChange (some "") → s.monitor.mUdcBind = true → s.monitor.mDataRole = .device →
    (step P s e).monitor.mWarningSet = ∅

theorem ripe_step {P : Platform} (s : System) (e : Event) (h : Ripe P s.monitor) :
    Ripe P (step P s e).monitor :=
  step_monitor (I := Ripe P) (fun r _ h => handleDataRoleEvent_ripe h r)
    (fun p r _ h => handleDeviceStateEvent_ripe h p r) (fun _ h => h.evaluate)
    (fun f _ h => updateUdcBindStatus_ripe h f) s e h

/-- From a state in step, the next one is in step exactly when the event is not a soft pulldown
over a warning. -/
theorem inStep_step_iff {P : Platform} (s : System) (e : Event) (h : Ripe P s.monitor)
    (hs : InStep s.monitor) : InStep (step P s e).monitor ↔ s.NoStalePulldown P e := by
  cases e with
  | udcChange function =>
    simp only [step, updateUdcBindStatus_inStep_iff hs function, NoStalePulldown,
      Event.udcChange.injEq]
    exact ⟨fun hn f hf => hf ▸ hn, fun hn => hn function rfl⟩
  | dataRole r =>
    simp only [step, NoStalePulldown, reduceCtorEq, false_implies, implies_true, iff_true]
    exact handleDataRoleEvent_inStep hs r
  | deviceState p r =>
    simp only [step, NoStalePulldown, reduceCtorEq, false_implies, implies_true, iff_true]
    exact handleDeviceStateEvent_inStep h hs p r
  | timer =>
    simp only [step, NoStalePulldown, reduceCtorEq, false_implies, implies_true, iff_true]
    exact inStep_evaluate h
  | bind p openFile epollCtl => simpa [step, NoStalePulldown] using hs
  | unbind p epollCtl => simpa [step, NoStalePulldown] using hs

/-- A soft pulldown clears the warnings exactly when there are none to clear. -/
theorem pulldownClears_iff (P : Platform) (s : System) (e : Event) :
    s.PulldownClears P e ↔ s.NoStalePulldown P e := by
  constructor
  · rintro h function rfl ⟨rfl, hb, hd, hdelay, hne⟩
    have hempty := h rfl hb hd
    simp only [step] at hempty
    rcases updateUdcBindStatus_cases P (some "") s.monitor with ⟨hf, -⟩ | ⟨-, -, -, he⟩ |
      ⟨⟨f, hf, hf'⟩, -⟩ | ⟨b, -, hd', -⟩
    · have := hf "" rfl
      simp [hb] at this
    · rw [he] at hempty
      have hset := mWarningSet_pulldown (P := P) hd
      rw [if_pos hdelay] at hset
      exact (currentWarnings_ne_empty_iff hd hb).2 hne (hset.symm.trans hempty)
    · exact hf' (Option.some.inj hf).symm
    · exact hd' hd
  · rintro h rfl hb hd
    rcases updateUdcBindStatus_cases P (some "") s.monitor with ⟨hf, -⟩ | ⟨-, -, -, he⟩ |
      ⟨⟨f, hf, hf'⟩, -⟩ | ⟨b, -, hd', -⟩
    · have := hf "" rfl
      simp [hb] at this
    · simp only [step, he]
      refine (mWarningSet_pulldown (P := P) hd).trans ?_
      by_cases hdelay : warningSurfaceDelaySec ≤ elapsedTimeSec P (s.monitor.ticked 1)
      · rw [if_pos hdelay]
        by_contra hne
        exact h (some "") rfl ⟨rfl, hb, hd, hdelay, (currentWarnings_ne_empty_iff hd hb).1 hne⟩
      · rw [if_neg hdelay]
    · exact absurd (Option.some.inj hf).symm hf'
    · exact absurd hd hd'

/-- **Warnings in step with their inputs.**  The warnings of a run are those of the current fields
whenever they have been evaluated past the delay, and every soft pulldown clears them, if and only
if no soft pulldown of the run comes while the device port has a warning. -/
theorem always_inStep_iff (P : Platform) (mDataRole : PortDataRole) (udc : Option String)
    (openFile : Port → Open) (epollCtl : Port → Bool) (es : List Event) :
    (Runs.Always (step P) (fun s => InStep s.monitor)
        (construct mDataRole udc openFile epollCtl) es ∧
      Runs.Meets (step P) (PulldownClears P) (construct mDataRole udc openFile epollCtl) es) ↔
      Runs.Meets (step P) (NoStalePulldown P) (construct mDataRole udc openFile epollCtl) es := by
  have h0 : Ripe P (construct mDataRole udc openFile epollCtl).monitor := fun he => by cases he
  have hs0 : InStep (construct mDataRole udc openFile epollCtl).monitor := fun he => by cases he
  rw [Runs.meets_congr (J := fun _ => True) (fun _ _ _ => trivial)
      (fun s e _ => pulldownClears_iff P s e) trivial,
    Runs.always_iff_meets (J := fun s : System => Ripe P s.monitor) ripe_step inStep_step_iff h0 hs0,
    and_self]

/-- The gadget is plugged in, four enumerations fail, and the gadget is pulled down. -/
def failedEnumeration : List Event :=
  [.dataRole (.of "device"), .deviceState .device (.of "default\n"),
    .deviceState .device (.of "default\n"), .deviceState .device (.of "default\n"),
    .deviceState .device (.of "default\n"), .udcChange (some "")]

/-- After the pulldown `ENUMERATION_FAIL` is still shown. -/
theorem pulldown_keeps_warning :
    ¬ (Runs.Always (step .secondHand) (fun s => InStep s.monitor)
        (construct .none (some "11110000.dwc3\n") (fun _ _ => none) (fun _ => true))
        failedEnumeration ∧
      Runs.Meets (step .secondHand) (PulldownClears .secondHand)
        (construct .none (some "11110000.dwc3\n") (fun _ _ => none) (fun _ => true))
        failedEnumeration) := by
  rintro ⟨h, -⟩
  have hlast := h _ List.prefix_rfl
  revert hlast
  unfold InStep
  decide

end System

end Gs101
