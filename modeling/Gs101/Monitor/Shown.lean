import Gs101.Monitor.Sessions
import Mathlib.Data.Finset.Card

/-!
# UsbDataSessionMonitor: which warnings are shown, and when

* `possibleWarnings`: the warnings that a role can have;
* `DelayPassed`: the delay of the session is over by a reading of the boot clock;
* `RaisedInSession`: `mWarningSet` was written by an evaluation past the delay, and no session has
  opened since;
* `WellShown`: at most one warning, one that the role can have, and none before the delay is over
  or left over from an earlier session.

`wellShown_always` holds of every run.  The warnings are emptied where the role and the start of
the session are written, and otherwise written by `evaluateComplianceWarning` only.
-/

namespace Gs101

namespace Monitor

/-- The warnings that `evaluateComplianceWarning` knows in a role. -/
def possibleWarnings : PortDataRole → Finset ComplianceWarning
  | .device => {.enumerationFail, .flakyConnection}
  | .host => {.enumerationFail, .missingDataLines}
  | _ => ∅

/-- `WARNING_SURFACE_DELAY_SEC` have passed since `mDataSessionStart`, by a reading of the boot
clock that was already made. -/
def DelayPassed (P : Platform) (m : Monitor) : Prop :=
  ∃ n < m.reads,
    m.mDataSessionStart + warningSurfaceDelaySec * 1000000000 ≤ P.bootClock n

/-- The warnings were written by an evaluation that found the delay over, and no session has
opened since. -/
def RaisedInSession (m : Monitor) : Prop :=
  ∃ before t after, m.log = before ++ .evaluate t :: .assign m.mWarningSet :: after ∧
    warningSurfaceDelaySec ≤ t ∧ ∀ a ∈ after, a.opening = none

structure WellShown (P : Platform) (m : Monitor) : Prop where
  atMostOne : m.mWarningSet.card ≤ 1
  ofRole : m.mWarningSet ⊆ possibleWarnings m.mDataRole
  delayed : m.mWarningSet ≠ ∅ → DelayPassed P m
  raised : m.mWarningSet ≠ ∅ → RaisedInSession m

/-! ### What an evaluation can find -/

/-- Two conditions that exclude each other raise at most one warning. -/
theorem card_union_ite_le {p q : Prop} [Decidable p] [Decidable q] (h : ¬ (p ∧ q))
    (a b : ComplianceWarning) :
    ((if p then {a} else ∅) ∪ (if q then {b} else ∅) : Finset ComplianceWarning).card ≤ 1 := by
  by_cases hp : p
  · have hq : ¬ q := fun hq => h ⟨hp, hq⟩
    simp [hp, hq]
  · by_cases hq : q <;> simp [hp, hq]

theorem union_ite_subset {p q : Prop} [Decidable p] [Decidable q] (a b : ComplianceWarning) :
    ((if p then {a} else ∅) ∪ (if q then {b} else ∅) : Finset ComplianceWarning) ⊆ {a, b} := by
  by_cases hp : p <;> by_cases hq : q <;> simp [hp, hq]

/-- The two conditions of a role exclude each other: a device that was configured has no failed
enumeration, and host ports with one state each have not had four default states. -/
theorem card_currentWarnings_le (m : Monitor) : m.currentWarnings.card ≤ 1 := by
  unfold currentWarnings warningsAfterDelay
  by_cases hd : m.mDataRole = .device ∧ m.mUdcBind = true
  · rw [if_pos hd]
    refine card_union_ite_le (fun ⟨hfail, hflaky⟩ => ?_) _ _
    exact Nat.not_lt_zero _ (hfail.1 ▸ hflaky)
  rw [if_neg hd]
  by_cases hh : m.mDataRole = .host
  · rw [if_pos hh]
    refine card_union_ite_le ?_ _ _
    rintro ⟨⟨-, -, hfail⟩, h₁, -, h₂, -⟩
    have hc₁ := List.count_le_length (a := kDefaultState) (l := m.mHost1State.states)
    have hc₂ := List.count_le_length (a := kDefaultState) (l := m.mHost2State.states)
    unfold enumFailDefaultCountThreshold at hfail
    omega
  · rw [if_neg hh]
    exact Nat.zero_le 1

theorem currentWarnings_subset (m : Monitor) :
    m.currentWarnings ⊆ possibleWarnings m.mDataRole := by
  unfold currentWarnings warningsAfterDelay
  by_cases hd : m.mDataRole = .device ∧ m.mUdcBind = true
  · rw [if_pos hd, hd.1]
    exact union_ite_subset _ _
  rw [if_neg hd]
  by_cases hh : m.mDataRole = .host
  · rw [if_pos hh, hh]
    exact union_ite_subset _ _
  · rw [if_neg hh]
    exact Finset.empty_subset _

/-- A number of whole seconds, counted toward zero, that reaches the delay. -/
theorem delay_le_of_le_tdiv {d : ℤ} (h : warningSurfaceDelaySec ≤ d.tdiv 1000000000) :
    warningSurfaceDelaySec * 1000000000 ≤ d := by
  by_contra hlt
  have hd : d ≤ 4999999999 := by
    unfold warningSurfaceDelaySec at hlt
    omega
  have hle : d.tdiv 1000000000 ≤ 4 := Int.tdiv_le_tdiv (by decide) hd
  exact absurd (h.trans hle) (by decide)

theorem delay_le_of_elapsed {P : Platform} {m : Monitor}
    (h : warningSurfaceDelaySec ≤ elapsedTimeSec P m) :
    m.mDataSessionStart + warningSurfaceDelaySec * 1000000000 ≤ P.bootClock m.reads := by
  have hd : warningSurfaceDelaySec * 1000000000 ≤ P.bootClock m.reads - m.mDataSessionStart :=
    delay_le_of_le_tdiv h
  exact add_le_of_le_sub_left hd

/-! ### One lemma for each part of a handler -/

/-- No warnings, nothing to show. -/
theorem wellShown_of_empty {P : Platform} {m : Monitor} (h : m.mWarningSet = ∅) :
    WellShown P m where
  atMostOne := by simp [h]
  ofRole := by simp [h]
  delayed hne := absurd h hne
  raised hne := absurd h hne

/-- What neither writes the warnings, nor changes the session, keeps them well shown. -/
theorem WellShown.later {P : Platform} {m m' : Monitor} (h : WellShown P m) {l : List Action}
    (hset : m'.mWarningSet = m.mWarningSet) (hrole : m'.mDataRole = m.mDataRole)
    (hstart : m'.mDataSessionStart = m.mDataSessionStart) (hreads : m.reads ≤ m'.reads)
    (hlog : m'.log = m.log ++ l) (hl : ∀ a ∈ l, a.opening = none) : WellShown P m' where
  atMostOne := hset ▸ h.atMostOne
  ofRole := by
    rw [hset, hrole]
    exact h.ofRole
  delayed hne := by
    obtain ⟨n, hn, hle⟩ := h.delayed (hset ▸ hne)
    exact ⟨n, lt_of_lt_of_le hn hreads, by rw [hstart]; exact hle⟩
  raised hne := by
    obtain ⟨before, t, after, heq, ht, hafter⟩ := h.raised (hset ▸ hne)
    refine ⟨before, t, after ++ l, ?_, ht, fun a ha => ?_⟩
    · rw [hlog, heq, hset]
      simp
    · exact (List.mem_append.1 ha).elim (hafter a) (hl a)

theorem WellShown.evaluate {P : Platform} {m : Monitor} (h : WellShown P m) :
    WellShown P (evaluateComplianceWarning P m) := by
  by_cases hset : evaluatedWarnings P m = m.mWarningSet
  · -- nothing is written
    refine h.later (l := evaluateLog P m) ?_ ?_ ?_ ?_ ?_ fun a ha =>
      (evaluateLog_inert P m a ha).opening
    all_goals rw [evaluateComplianceWarning_eq]
    · exact hset
    · exact Nat.le_succ _
  by_cases hdelay : elapsedTimeSec P m ≥ warningSurfaceDelaySec
  · have hcur : evaluatedWarnings P m = m.currentWarnings := if_pos hdelay
    rw [evaluateComplianceWarning_eq]
    refine ⟨?_, ?_, fun _ => ?_, fun _ => ?_⟩
    · exact hcur ▸ card_currentWarnings_le m
    · exact hcur ▸ currentWarnings_subset m
    · exact ⟨m.reads, Nat.lt_succ_self _, delay_le_of_elapsed hdelay⟩
    · refine ⟨m.log, elapsedTimeSec P m, _, by simp only [evaluateLog, if_neg hset]; rfl, hdelay,
        fun a ha => ?_⟩
      split_ifs at ha
      · rw [List.mem_singleton.1 ha]
        rfl
      · cases ha
  · refine wellShown_of_empty ?_
    rw [evaluateComplianceWarning_eq]
    exact if_neg hdelay

theorem wellShown_setup (P : Platform) (m : Monitor) : WellShown P (setupNewSession P m) :=
  wellShown_of_empty (by rw [setupNewSession_eq])

theorem WellShown.report {P : Platform} {m : Monitor} (h : WellShown P m) :
    WellShown P (reportUsbDataSessionMetrics P m) := by
  refine h.later (l := reportLog P m) ?_ ?_ ?_ ?_ ?_ fun a ha => by rw [mem_reportLog ha]; rfl
  all_goals rw [reportUsbDataSessionMetrics_eq]
  exact Nat.le_add_right _ _

theorem WellShown.logged {P : Platform} {m : Monitor} (h : WellShown P m) {a : Action}
    (ha : a.opening = none) : WellShown P (m.logged a) :=
  h.later rfl rfl rfl le_rfl rfl fun b hb => by rw [List.mem_singleton.1 hb]; exact ha

theorem WellShown.setUdcBind {P : Platform} {m : Monitor} (h : WellShown P m) (b : Bool) :
    WellShown P (m.setUdcBind b) :=
  h.later rfl rfl rfl le_rfl rfl fun a ha => by rw [List.mem_singleton.1 ha]; rfl

theorem WellShown.recordState {P : Platform} {m : Monitor} (h : WellShown P m) (p : Port)
    (state : String) : WellShown P (recordState P p state m) := by
  have hl : ∀ a ∈ ([] : List Action), a.opening = none := nofun
  cases p <;> exact h.later rfl rfl rfl (Nat.le_succ _) (List.append_nil _).symm hl

/-! ### The handlers -/

theorem handleDeviceStateEvent_wellShown {P : Platform} {m : Monitor} (h : WellShown P m)
    (p : Port) (r : FileRead) : WellShown P (handleDeviceStateEvent P p r m) := by
  simp only [handleDeviceStateEvent]
  split_ifs
  · exact ((h.logged rfl).recordState p _).evaluate
  · exact h.logged rfl

theorem handleDataRoleEvent_wellShown {P : Platform} {m : Monitor} (h : WellShown P m)
    (r : FileRead) : WellShown P (handleDataRoleEvent P r m) := by
  rcases handleDataRoleEvent_cases P r m with ⟨-, he⟩ | ⟨-, -, he⟩ | ⟨-, -, he⟩ <;> rw [he]
  · exact h.logged rfl
  · exact wellShown_setup P _
  · exact wellShown_setup P _

theorem updateUdcBindStatus_wellShown {P : Platform} {m : Monitor} (h : WellShown P m)
    (function : Option String) : WellShown P (updateUdcBindStatus P function m) := by
  rcases updateUdcBindStatus_cases P function m with ⟨-, he⟩ | ⟨-, -, -, he⟩ | ⟨-, -, -, he⟩ |
    ⟨b, -, -, he⟩ <;> rw [he]
  · exact h
  · exact h.report.evaluate.setUdcBind false
  · exact (wellShown_setup P m).setUdcBind true
  · exact h.setUdcBind b

/-! ### What the framework sees -/

theorem mem_getComplianceWarnings {P : Platform} {m : Monitor} {role : PortDataRole}
    {w : ComplianceWarning} (h : w ∈ m.getComplianceWarnings P role) :
    role = m.mDataRole ∧ w ∈ m.mWarningSet := by
  unfold getComplianceWarnings at h
  split_ifs at h with hflag hrole
  · cases h
  · cases h
  · push Not at hrole
    exact ⟨hrole.1, by simpa using (List.mem_filter.1 h).2⟩

/-- Whoever asks sees a warning of the current role and session, past the delay. -/
def SeenInTime (P : Platform) (m : Monitor) : Prop :=
  ∀ role, ∀ w ∈ m.getComplianceWarnings P role,
    role = m.mDataRole ∧ w ∈ possibleWarnings role ∧ DelayPassed P m ∧ RaisedInSession m

theorem WellShown.seenInTime {P : Platform} {m : Monitor} (h : WellShown P m) :
    SeenInTime P m := by
  intro role w hw
  obtain ⟨rfl, hmem⟩ := mem_getComplianceWarnings hw
  have hne : m.mWarningSet ≠ ∅ := Finset.ne_empty_of_mem hmem
  exact ⟨rfl, h.ofRole hmem, h.delayed hne, h.raised hne⟩

end Monitor

namespace System

open Monitor

theorem wellShown_step {P : Platform} (s : System) (e : Event) (h : WellShown P s.monitor) :
    WellShown P (step P s e).monitor :=
  step_monitor (I := WellShown P) (fun r _ h => handleDataRoleEvent_wellShown h r)
    (fun p r _ h => handleDeviceStateEvent_wellShown h p r) (fun _ h => h.evaluate)
    (fun f _ h => updateUdcBindStatus_wellShown h f) s e h

/-- **Shape and timing of the warnings**, in every state of every run. -/
theorem wellShown_always (P : Platform) (mDataRole : PortDataRole) (udc : Option String)
    (openFile : Port → Open) (epollCtl : Port → Bool) (es : List Event) :
    Runs.Always (step P) (fun s => WellShown P s.monitor ∧ SeenInTime P s.monitor)
      (construct mDataRole udc openFile epollCtl) es := by
  intro pre _
  have h0 : WellShown P (construct mDataRole udc openFile epollCtl).monitor :=
    wellShown_of_empty rfl
  have hrun := Runs.run_invariant (I := fun s : System => WellShown P s.monitor) wellShown_step h0
    pre
  exact ⟨hrun, hrun.seenInTime⟩

end System

end Gs101
